import FrameStatus.Proofs.HexDump.Canonical

/-!
# The grammar of dumps

A dump is a text of white space, hex digits and marks that leaves as many digits as a kind of
vector has. Decoding accepts the dumps and nothing else. The number of characters that are left of
any other text decides whether its length or a character is reported.
-/

namespace FrameStatus

namespace HexDump

/-! ## Dumps of a number of digits -/

/-- A dump of `count` digits. The `0` of a mark is a digit of the text but none of the dump. -/
structure IsDump (count : Nat) (text : List Char) : Prop where
  characters : ∀ c ∈ text, Text.isWhiteSpace c = true ∨ Text.isHexDigit c = true ∨ c = 'x'
  marked : ∀ before after, text = before ++ 'x' :: after → before.getLast? = some '0'
  digits : text.countP Text.isHexDigit = text.count 'x' + count

theorem isDump_iff_normalize (count : Nat) (text : List Char) :
    IsDump count text ↔
      (∀ c ∈ normalize text, Text.isHexDigit c = true) ∧ (normalize text).length = count := by
  have hcount := countP_isHexDigit_normalize text
  constructor
  · rintro ⟨hcharacters, hmarked, hdigits⟩
    have hmarks := (marks_eq_count_iff text).mpr hmarked
    have hall := (forall_isHexDigit_normalize_iff text).mpr ⟨hcharacters, hmarks⟩
    rw [List.countP_eq_length.mpr hall] at hcount
    exact ⟨hall, by omega⟩
  · rintro ⟨hall, hlength⟩
    obtain ⟨hcharacters, hmarks⟩ := (forall_isHexDigit_normalize_iff text).mp hall
    rw [List.countP_eq_length.mpr hall] at hcount
    exact ⟨hcharacters, (marks_eq_count_iff text).mp hmarks, by omega⟩

/-- A text that is no dump of as many digits as are left of it has a first character that is no
digit. -/
theorem exists_first_of_not_isDump {text : List Char}
    (h : ¬IsDump (normalize text).length text) :
    ∃ before c after, normalize text = before ++ c :: after ∧
      (∀ d ∈ before, Text.isHexDigit d = true) ∧ Text.isHexDigit c = false := by
  -- The number of characters is right by the choice of the count, so one of them is no digit.
  rw [isDump_iff_normalize, and_iff_left rfl] at h
  cases hfind : (normalize text).find? (!Text.isHexDigit ·) with
  | none =>
      refine absurd (fun c hc => ?_) h
      simpa using List.find?_eq_none.mp hfind c hc
  | some c =>
      obtain ⟨hc, before, after, hsplit, hbefore⟩ := List.find?_eq_some_iff_append.mp hfind
      exact ⟨before, c, after, hsplit, by simpa using hbefore, by simpa using hc⟩

/-! ## The digits of a dump -/

/-- The text is made of these digits, in this order, of marks and of white space. -/
inductive Spells : List Char → List Char → Prop
  | nil : Spells [] []
  | space {c : Char} {text digits : List Char} (hspace : Text.isWhiteSpace c = true)
      (hrest : Spells text digits) : Spells (c :: text) digits
  | mark {text digits : List Char} (hrest : Spells text digits) :
      Spells ('0' :: 'x' :: text) digits
  | digit {c : Char} {text digits : List Char} (hdigit : Text.isHexDigit c = true)
      (hrest : Spells text digits) : Spells (c :: text) (c :: digits)

theorem Spells.forall_isHexDigit {text digits : List Char} (h : Spells text digits) :
    ∀ c ∈ digits, Text.isHexDigit c = true := by
  induction h with
  | nil => simp
  | space _ _ ih => exact ih
  | mark _ ih => exact ih
  | digit hdigit _ ih => exact List.forall_mem_cons.mpr ⟨hdigit, ih⟩

/-- No such text starts with the `x` of a mark, so a digit `0` in front of it stays one. -/
theorem Spells.head_ne {text digits : List Char} (h : Spells text digits) :
    ∀ rest, text ≠ 'x' :: rest := by
  rintro rest rfl
  cases h with
  | space hspace => exact absurd hspace (by decide)
  | digit hdigit => exact absurd hdigit (by decide)

theorem normalize_cons {c : Char} {rest : List Char}
    (hmark : ∀ rest', c = '0' → rest = 'x' :: rest' → False) :
    normalize (c :: rest) =
      if Text.isWhiteSpace c then normalize rest else c :: normalize rest := by
  rw [normalize, dropMarks_cons hmark, List.filter_cons]
  cases Text.isWhiteSpace c <;> rfl

theorem Spells.normalize_eq {text digits : List Char} (h : Spells text digits) :
    normalize text = digits := by
  induction h with
  | nil => rfl
  | space hspace hrest ih =>
      rw [normalize_cons fun rest _ hx => hrest.head_ne rest hx, if_pos hspace, ih]
  | mark _ ih => exact ih
  | digit hdigit hrest ih =>
      rw [normalize_cons fun rest _ hx => hrest.head_ne rest hx,
        Text.not_isWhiteSpace_of_isHexDigit hdigit, if_neg Bool.false_ne_true, ih]

theorem spells_normalize {text : List Char}
    (h : ∀ c ∈ normalize text, Text.isHexDigit c = true) : Spells text (normalize text) := by
  fun_induction dropMarks text with
  | case1 rest ih => exact .mark (ih h)
  | case2 c rest hmark ih =>
      rw [normalize_cons hmark] at h ⊢
      cases hspace : Text.isWhiteSpace c with
      | true =>
          rw [hspace, if_pos rfl] at h
          exact .space hspace (ih h)
      | false =>
          rw [hspace, if_neg Bool.false_ne_true] at h
          obtain ⟨hdigit, hrest⟩ := List.forall_mem_cons.mp h
          exact .digit hdigit (ih hrest)
  | case3 => exact .nil

/-- Normalizing leaves the digits that a text spells, and other characters if it spells none. -/
theorem spells_iff {text digits : List Char} :
    Spells text digits ↔
      normalize text = digits ∧ ∀ c ∈ digits, Text.isHexDigit c = true := by
  constructor
  · intro h
    exact ⟨h.normalize_eq, h.forall_isHexDigit⟩
  · rintro ⟨rfl, hall⟩
    exact spells_normalize hall

end HexDump

/-! ## Decoding -/

theorem decode_eq_ok_iff_isDump (kind : Kind) (raw : String) :
    (∃ vector, decode raw = .ok vector ∧ vector.kind = kind) ↔
      HexDump.IsDump kind.hexLength raw.toList := by
  rw [HexDump.isDump_iff_normalize, ← Kind.ofHexLength?_eq_some_iff]
  constructor
  · rintro ⟨vector, hvector, rfl⟩
    obtain ⟨hkind, values, hvalues, -⟩ := StatusVector.ofHex_eq_ok hvector
    exact ⟨HexDump.forall_of_digits_eq_ok hvalues, hkind⟩
  · rintro ⟨hall, hkind⟩
    obtain ⟨values, hvalues, -, -⟩ := HexDump.digits_of_forall hall 0
    obtain ⟨vector, hvector, rfl, -⟩ := StatusVector.ofHex_of_digits_ok hkind hvalues
    exact ⟨vector, hvector, rfl⟩

/-- Decoding accepts the dumps of 8 and of 14 digits. For any other text, the number of characters
without white space and marks is reported if it is neither 8 nor 14, and the first of them that is
no digit if it is. -/
theorem decode_exact (raw : String) :
    ((∃ vector, decode raw = .ok vector ∧ vector.kind = .receive) ↔
        HexDump.IsDump 8 raw.toList) ∧
      ((∃ vector, decode raw = .ok vector ∧ vector.kind = .transmit) ↔
        HexDump.IsDump 14 raw.toList) ∧
      ∃ count, count + raw.toList.countP Text.isWhiteSpace + 2 * HexDump.marks raw.toList =
          raw.toList.length ∧
        (count ≠ 8 → count ≠ 14 → decode raw = .error (.invalidLength count)) ∧
        (count = 8 ∨ count = 14 → ¬HexDump.IsDump count raw.toList →
          ∃ before c after, HexDump.normalize raw.toList = before ++ c :: after ∧
            (∀ d ∈ before, Text.isHexDigit d = true) ∧ Text.isHexDigit c = false ∧
            decode raw = .error (.invalidCharacter before.length c)) := by
  refine ⟨decode_eq_ok_iff_isDump .receive raw, decode_eq_ok_iff_isDump .transmit raw,
    (HexDump.normalize raw.toList).length, HexDump.length_normalize raw.toList, ?_, ?_⟩
  · intro hreceive htransmit
    refine StatusVector.ofHex_of_none ?_
    rw [Kind.ofHexLength?_eq_none_iff]
    exact ⟨hreceive, htransmit⟩
  · intro hcount hdump
    obtain ⟨before, c, after, hsplit, hbefore, hc⟩ := HexDump.exists_first_of_not_isDump hdump
    obtain ⟨kind, hkind⟩ : ∃ kind, Kind.ofHexLength? (HexDump.normalize raw.toList).length =
        some kind := by
      rcases hcount with hcount | hcount <;> rw [hcount]
      · exact ⟨.receive, rfl⟩
      · exact ⟨.transmit, rfl⟩
    refine ⟨before, c, after, hsplit, hbefore, hc, StatusVector.ofHex_of_digits_error hkind ?_⟩
    rw [hsplit, HexDump.digits_of_first hbefore hc, Nat.zero_add]

/-- Decoding gives the vector whose digits the text spells, and no other text is accepted. -/
theorem decode_eq_ok_iff_spells {raw : String} {vector : StatusVector} :
    decode raw = .ok vector ↔
      ∃ digits, HexDump.Spells raw.toList digits ∧ digits.length = vector.kind.hexLength ∧
        digits.map Char.toLower = HexDump.ofBytes vector.bytes := by
  constructor
  · intro h
    obtain ⟨hkind, values, hvalues, -⟩ := StatusVector.ofHex_eq_ok h
    exact ⟨_, HexDump.spells_normalize (HexDump.forall_of_digits_eq_ok hvalues),
      Kind.ofHexLength?_eq_some_iff.mp hkind, (StatusVector.ofBytes_bytes_of_ofHex h).symm⟩
  · rintro ⟨digits, hspells, hlength, hbytes⟩
    obtain ⟨hnormalize, hall⟩ := HexDump.spells_iff.mp hspells
    obtain ⟨read, hread, -⟩ := (decode_eq_ok_iff_isDump vector.kind raw).mpr
      ((HexDump.isDump_iff_normalize _ _).mpr (hnormalize ▸ ⟨hall, hlength⟩))
    have hhex : read.hex = vector.hex := by
      rw [hex_of_decode hread, hnormalize, hbytes]
      rfl
    rw [hread, eq_of_hex_eq hhex]

/-- A mark that only the removal of another brings together is none. -/
example : decode "00xx3c0080" = .error (.invalidCharacter 1 'x') := by decide

end FrameStatus
