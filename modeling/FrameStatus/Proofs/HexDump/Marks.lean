import FrameStatus.Proofs.HexDump.Digits

/-!
# The marks of a dump

Removing the marks of a dump takes one `0` and one `x` for each place where an `x` follows a `0`.
What is left holds an `x` unless every `x` of the dump follows a `0`.
-/

namespace FrameStatus.HexDump

/-- The number of places where an `x` follows a `0`. -/
def marks (text : List Char) : Nat :=
  (text.zip text.tail).count ('0', 'x')

@[simp]
theorem marks_nil : marks [] = 0 :=
  rfl

theorem marks_cons_cons (c d : Char) (rest : List Char) :
    marks (c :: d :: rest) = marks (d :: rest) + if c = '0' ∧ d = 'x' then 1 else 0 := by
  simp only [marks, List.tail_cons, List.zip_cons_cons, List.count_cons, beq_iff_eq,
    Prod.mk.injEq]

theorem marks_mark (rest : List Char) : marks ('0' :: 'x' :: rest) = marks rest + 1 := by
  rw [marks_cons_cons, if_pos ⟨rfl, rfl⟩]
  cases rest with
  | nil => rfl
  | cons c rest =>
      have hzero : ¬('x' = '0' ∧ c = 'x') := fun h => absurd h.1 (by decide)
      rw [marks_cons_cons, if_neg hzero, Nat.add_zero]

theorem marks_cons {c : Char} {rest : List Char}
    (hmark : ∀ rest', c = '0' → rest = 'x' :: rest' → False) :
    marks (c :: rest) = marks rest := by
  cases rest with
  | nil => rfl
  | cons d rest =>
      have hpair : ¬(c = '0' ∧ d = 'x') := by
        rintro ⟨hc, rfl⟩
        exact hmark rest hc rfl
      rw [marks_cons_cons, if_neg hpair, Nat.add_zero]

/-! ## What goes and what stays -/

theorem dropMarks_cons {c : Char} {rest : List Char}
    (hmark : ∀ rest', c = '0' → rest = 'x' :: rest' → False) :
    dropMarks (c :: rest) = c :: dropMarks rest := by
  rw [dropMarks]
  exact hmark

/-- Every mark takes one `0` and one `x` with it. -/
theorem countP_dropMarks (p : Char → Bool) (text : List Char) :
    (dropMarks text).countP p + marks text * ['0', 'x'].countP p = text.countP p := by
  fun_induction dropMarks text with
  | case1 rest ih =>
      have hsplit : ('0' :: 'x' :: rest).countP p = ['0', 'x'].countP p + rest.countP p := by
        rw [← List.countP_append]
        rfl
      rw [marks_mark, Nat.succ_mul, hsplit]
      omega
  | case2 c rest hmark ih =>
      rw [marks_cons hmark, List.countP_cons (a := c) (l := rest),
        List.countP_cons (a := c) (l := dropMarks rest)]
      omega
  | case3 => simp only [marks_nil, Nat.zero_mul, Nat.add_zero]

theorem count_dropMarks (text : List Char) :
    (dropMarks text).count 'x' + marks text = text.count 'x' :=
  Nat.mul_one (marks text) ▸ countP_dropMarks (· == 'x') text

theorem mem_of_mem_dropMarks {c : Char} {text : List Char} (h : c ∈ dropMarks text) :
    c ∈ text := by
  have hcount := countP_dropMarks (· == c) text
  rw [← List.count_pos_iff, List.count_eq_countP] at h ⊢
  omega

theorem mem_dropMarks_or {c : Char} {text : List Char} (h : c ∈ text) :
    c ∈ dropMarks text ∨ c = '0' ∨ c = 'x' := by
  by_cases hmark : c ∈ ['0', 'x']
  · exact .inr (by simpa using hmark)
  · left
    have hcount := countP_dropMarks (· == c) text
    have hzero : ['0', 'x'].countP (· == c) = 0 := List.count_eq_zero_of_not_mem hmark
    rw [← List.count_pos_iff, List.count_eq_countP] at h ⊢
    rw [hzero, Nat.mul_zero] at hcount
    omega

theorem dropMarks_of_not_mem {text : List Char} (h : 'x' ∉ text) : dropMarks text = text := by
  fun_induction dropMarks text with
  | case1 rest ih => exact absurd h (by simp)
  | case2 c rest hmark ih => rw [ih fun hrest => h (List.mem_cons_of_mem c hrest)]
  | case3 => rfl

/-! ## Dumps in which every `x` belongs to a mark -/

theorem marks_le_count (text : List Char) : marks text ≤ text.count 'x' := by
  rw [← count_dropMarks]
  exact Nat.le_add_left _ _

theorem marks_cons_le (c : Char) (rest : List Char) : marks (c :: rest) ≤ rest.count 'x' := by
  by_cases hx : c = 'x'
  · subst hx
    rw [marks_cons fun _ h _ => absurd h (by decide)]
    exact marks_le_count rest
  · have hle := marks_le_count (c :: rest)
    rwa [List.count_cons_of_ne hx] at hle

/-- Every `x` directly follows a `0`, where `previous` stands in front of the text. -/
def MarkedAfter (previous : Option Char) (text : List Char) : Prop :=
  ∀ before after, text = before ++ 'x' :: after → before.getLast?.or previous = some '0'

theorem markedAfter_nil (previous : Option Char) : MarkedAfter previous [] := by
  intro before after hsplit
  exact absurd hsplit (by simp)

theorem markedAfter_cons (previous : Option Char) (c : Char) (rest : List Char) :
    MarkedAfter previous (c :: rest) ↔
      (c = 'x' → previous = some '0') ∧ MarkedAfter (some c) rest := by
  have hlast : ∀ before : List Char,
      (c :: before).getLast?.or previous = before.getLast?.or (some c) := by
    intro before
    rw [List.getLast?_cons]
    cases before.getLast? <;> rfl
  constructor
  · intro h
    constructor
    · rintro rfl
      exact h [] rest rfl
    · intro before after hsplit
      rw [← hlast]
      exact h (c :: before) after (congrArg (c :: ·) hsplit)
  · rintro ⟨hfirst, hrest⟩ before after hsplit
    cases before with
    | nil => exact hfirst (List.cons.inj hsplit).1
    | cons d before =>
        obtain ⟨rfl, htail⟩ := List.cons.inj hsplit
        rw [hlast]
        exact hrest before after htail

theorem marks_eq_count_iff_markedAfter (previous : Option Char) (text : List Char) :
    marks (previous.toList ++ text) = text.count 'x' ↔ MarkedAfter previous text := by
  -- The first `x` is judged by what stands in front of it, all others by the rest of the text.
  induction text generalizing previous with
  | nil => exact iff_of_true (by cases previous <;> rfl) (markedAfter_nil previous)
  | cons c rest ih =>
      have hfirst : marks (previous.toList ++ c :: rest) =
          marks (c :: rest) + if previous = some '0' ∧ c = 'x' then 1 else 0 := by
        cases previous with
        | none => simp
        | some p => simpa using marks_cons_cons p c rest
      have hle := marks_cons_le c rest
      rw [hfirst, markedAfter_cons, ← ih]
      by_cases hx : c = 'x'
      · by_cases hprevious : previous = some '0' <;> simp [hx, hprevious] at hle ⊢
        omega
      · simp [hx]

/-- The marks take every `x` with them if each of them directly follows a `0`. -/
theorem marks_eq_count_iff (text : List Char) :
    marks text = text.count 'x' ↔
      ∀ before after, text = before ++ 'x' :: after → before.getLast? = some '0' := by
  have h := marks_eq_count_iff_markedAfter none text
  simpa only [MarkedAfter, Option.or_none, Option.toList_none, List.nil_append] using h

/-! ## Normalized dumps -/

theorem mem_normalize {c : Char} {text : List Char} :
    c ∈ normalize text ↔ c ∈ dropMarks text ∧ Text.isWhiteSpace c = false := by
  rw [normalize, List.mem_filter, Bool.not_eq_true']

/-- Normalizing takes the white space and two characters for each mark. -/
theorem length_normalize (text : List Char) :
    (normalize text).length + text.countP Text.isWhiteSpace + 2 * marks text = text.length := by
  have hkept := countP_dropMarks (!Text.isWhiteSpace ·) text
  have hmark : ['0', 'x'].countP (!Text.isWhiteSpace ·) = 2 := by decide
  have hlength := List.length_eq_countP_add_countP Text.isWhiteSpace (l := text)
  simp only [Bool.not_eq_true, Bool.decide_eq_false] at hlength
  rw [hmark] at hkept
  rw [normalize, ← List.countP_eq_length_filter]
  omega

theorem countP_isHexDigit_normalize (text : List Char) :
    (normalize text).countP Text.isHexDigit + marks text = text.countP Text.isHexDigit := by
  have hkept := countP_dropMarks Text.isHexDigit text
  have hmark : ['0', 'x'].countP Text.isHexDigit = 1 := by decide
  have hfilter : (normalize text).countP Text.isHexDigit =
      (dropMarks text).countP Text.isHexDigit := by
    rw [normalize, List.countP_filter]
    refine List.countP_congr fun c _ => ?_
    simpa using Text.not_isWhiteSpace_of_isHexDigit
  rw [hmark, Nat.mul_one] at hkept
  rw [hfilter, hkept]

theorem normalize_of_not_mem {text : List Char} (h : 'x' ∉ text) :
    normalize text = text.filter (!Text.isWhiteSpace ·) := by
  rw [normalize, dropMarks_of_not_mem h]

theorem normalize_of_forall {text : List Char} (h : ∀ c ∈ text, Text.isHexDigit c = true) :
    normalize text = text := by
  have hx : 'x' ∉ text := fun hmem => absurd (h 'x' hmem) (by decide)
  rw [normalize_of_not_mem hx, List.filter_eq_self]
  intro c hc
  rw [Text.not_isWhiteSpace_of_isHexDigit (h c hc)]
  rfl

/-- Hex digits alone are left of a dump if nothing but digits, white space and the `x` of marks
stands in it. -/
theorem forall_isHexDigit_normalize_iff (text : List Char) :
    (∀ c ∈ normalize text, Text.isHexDigit c = true) ↔
      (∀ c ∈ text, Text.isWhiteSpace c = true ∨ Text.isHexDigit c = true ∨ c = 'x') ∧
        marks text = text.count 'x' := by
  have hcount := count_dropMarks text
  constructor
  · intro h
    have hx : 'x' ∉ dropMarks text := by
      intro hmem
      exact absurd (h 'x' (mem_normalize.mpr ⟨hmem, by decide⟩)) (by decide)
    constructor
    · intro c hc
      rcases mem_dropMarks_or hc with hkept | rfl | rfl
      · cases hspace : Text.isWhiteSpace c with
        | true => exact .inl rfl
        | false => exact .inr (.inl (h c (mem_normalize.mpr ⟨hkept, hspace⟩)))
      · exact .inr (.inl (by decide))
      · exact .inr (.inr rfl)
    · rw [List.count_eq_zero_of_not_mem hx] at hcount
      omega
  · rintro ⟨hcharacters, hmarks⟩ c hc
    obtain ⟨hkept, hspace⟩ := mem_normalize.mp hc
    rcases hcharacters c (mem_of_mem_dropMarks hkept) with hwhite | hdigit | rfl
    · rw [hspace] at hwhite
      cases hwhite
    · exact hdigit
    · have := List.count_pos_iff.mpr hkept
      omega

end FrameStatus.HexDump
