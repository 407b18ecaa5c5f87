import FrameStatus.Proofs.HexDump.Joining
import Mathlib.Data.List.Forall2
import Mathlib.Logic.Relation

/-!
# Spellings of a dump

White space and marks may be put in anywhere but in the middle of a mark, and letters may be of
either case. Decoding gives the same for every such spelling of a dump, and refuses every spelling
of a text that is no dump for the same reason and at the same position.
-/

namespace FrameStatus

namespace Text

/-- A letter among the hex digits in the other case. Every other character stays as it is. -/
def otherCase (c : Char) : Char :=
  if isHexDigit c then if c.isUpper then c.toLower else c.toUpper else c

/-- A character that is no hex digit has one form only. -/
theorem otherCase_of_not_isHexDigit {c : Char} (h : isHexDigit c = false) : otherCase c = c := by
  rw [otherCase, h, if_neg Bool.false_ne_true]

theorem hexValue?_otherCase (c : Char) : hexValue? (otherCase c) = hexValue? c := by
  have hall : hexDigits.all (fun c => hexValue? (otherCase c) = hexValue? c) = true := by decide
  cases hc : isHexDigit c with
  | true => simpa using List.all_eq_true.mp hall c (isHexDigit_iff.mp hc)
  | false => rw [otherCase_of_not_isHexDigit hc]

theorem otherCase_otherCase (c : Char) : otherCase (otherCase c) = c := by
  have hall : hexDigits.all (fun c => otherCase (otherCase c) = c) = true := by decide
  cases hc : isHexDigit c with
  | true => simpa using List.all_eq_true.mp hall c (isHexDigit_iff.mp hc)
  | false => rw [otherCase_of_not_isHexDigit hc, otherCase_of_not_isHexDigit hc]

end Text

namespace HexDump

/-- The same character, or the same letter in the other case. -/
def SameDigit (c d : Char) : Prop :=
  d = c ∨ d = Text.otherCase c

/-- A change in how a dump is written. -/
inductive Edit : List Char → List Char → Prop
  /-- White space is put in, but not in the middle of a mark. -/
  | space {a b spaces : List Char} (hmeet : ¬(a.getLast? = some '0' ∧ b.head? = some 'x'))
      (hspaces : ∀ c ∈ spaces, Text.isWhiteSpace c = true) : Edit (a ++ b) (a ++ spaces ++ b)
  /-- A mark is put in, but not in the middle of another. -/
  | mark {a b : List Char} (hmeet : ¬(a.getLast? = some '0' ∧ b.head? = some 'x')) :
      Edit (a ++ b) (a ++ ['0', 'x'] ++ b)
  /-- Some of the letters change their case. -/
  | letters {text other : List Char} (hsame : List.Forall₂ SameDigit text other) :
      Edit text other

/-- Changes one after the other, made or undone, lead from one spelling to the other. -/
def Respelled : String → String → Prop :=
  Relation.EqvGen fun a b => Edit a.toList b.toList

/-! ## White space and marks -/

/-- What leaves nothing may stand wherever it makes no mark with its neighbours. -/
theorem normalize_insert {a middle b : List Char} (hmiddle : normalize middle = [])
    (hhead : middle.head? ≠ some 'x') (hlast : middle.getLast? ≠ some '0')
    (hmeet : ¬(a.getLast? = some '0' ∧ b.head? = some 'x')) :
    normalize (a ++ middle ++ b) = normalize (a ++ b) := by
  have hafter : ¬((a ++ middle).getLast? = some '0' ∧ b.head? = some 'x') := by
    rintro ⟨hzero, hx⟩
    rw [List.getLast?_append, Option.or_eq_some_iff] at hzero
    rcases hzero with hzero | ⟨-, hzero⟩
    · exact hlast hzero
    · exact hmeet ⟨hzero, hx⟩
  rw [normalize_append hafter, normalize_append (fun h => hhead h.2), hmiddle, List.append_nil,
    normalize_append hmeet]

theorem normalize_insert_space {a b spaces : List Char}
    (hmeet : ¬(a.getLast? = some '0' ∧ b.head? = some 'x'))
    (hspaces : ∀ c ∈ spaces, Text.isWhiteSpace c = true) :
    normalize (a ++ spaces ++ b) = normalize (a ++ b) := by
  apply normalize_insert (normalize_of_isWhiteSpace hspaces) ?_ ?_ hmeet
  · intro hx
    exact absurd (hspaces 'x' (List.mem_of_mem_head? hx)) (by decide)
  · intro hzero
    exact absurd (hspaces '0' (List.mem_of_getLast? hzero)) (by decide)

theorem normalize_insert_mark {a b : List Char}
    (hmeet : ¬(a.getLast? = some '0' ∧ b.head? = some 'x')) :
    normalize (a ++ ['0', 'x'] ++ b) = normalize (a ++ b) :=
  normalize_insert rfl (by decide) (by decide) hmeet

/-! ## Letters -/

namespace SameDigit

theorem symm {c d : Char} (h : SameDigit c d) : SameDigit d c := by
  rcases h with rfl | rfl
  · exact .inl rfl
  · exact .inr (Text.otherCase_otherCase c).symm

theorem hexValue?_eq {c d : Char} (h : SameDigit c d) :
    Text.hexValue? d = Text.hexValue? c := by
  rcases h with rfl | rfl
  · rfl
  · exact Text.hexValue?_otherCase c

theorem eq_of_not_isHexDigit {c d : Char} (h : SameDigit c d) (hc : Text.isHexDigit c = false) :
    d = c := by
  rcases h with rfl | rfl
  · rfl
  · exact Text.otherCase_of_not_isHexDigit hc

theorem isHexDigit_eq {c d : Char} (h : SameDigit c d) : Text.isHexDigit d = Text.isHexDigit c := by
  rw [← Text.isSome_hexValue?, ← Text.isSome_hexValue?, h.hexValue?_eq]

theorem isWhiteSpace_eq {c d : Char} (h : SameDigit c d) :
    Text.isWhiteSpace d = Text.isWhiteSpace c := by
  cases hc : Text.isHexDigit c with
  | true =>
      have hd : Text.isHexDigit d = true := h.isHexDigit_eq.trans hc
      rw [Text.not_isWhiteSpace_of_isHexDigit hc, Text.not_isWhiteSpace_of_isHexDigit hd]
  | false => rw [h.eq_of_not_isHexDigit hc]

/-- The two characters of a mark have one form only. -/
theorem eq_iff_of_mem_mark {c d m : Char} (h : SameDigit c d) (hm : m ∈ ['0', 'x']) :
    d = m ↔ c = m := by
  have hforms : ∀ m ∈ ['0', 'x'], Text.otherCase m = m := by
    simp only [List.forall_mem_cons]
    exact ⟨by decide, by decide, List.forall_mem_nil _⟩
  constructor
  · rintro rfl
    rcases h.symm with rfl | rfl
    · rfl
    · exact hforms _ hm
  · rintro rfl
    rcases h with rfl | rfl
    · rfl
    · exact hforms _ hm

end SameDigit

theorem sameDigits_dropMarks {text other : List Char} (h : List.Forall₂ SameDigit text other) :
    List.Forall₂ SameDigit (dropMarks text) (dropMarks other) := by
  fun_induction dropMarks text generalizing other with
  | case1 rest ih =>
      obtain ⟨zero, after, hzero, hafter, rfl⟩ := List.forall₂_cons_left_iff.mp h
      obtain ⟨x, tail, hx, hrest, rfl⟩ := List.forall₂_cons_left_iff.mp hafter
      obtain rfl := (hzero.eq_iff_of_mem_mark (by simp)).mpr rfl
      obtain rfl := (hx.eq_iff_of_mem_mark (by simp)).mpr rfl
      rw [dropMarks]
      exact ih hrest
  | case2 c rest hmark ih =>
      obtain ⟨d, tail, hc, hrest, rfl⟩ := List.forall₂_cons_left_iff.mp h
      rw [dropMarks_cons]
      · exact .cons hc (ih hrest)
      · rintro tail' rfl rfl
        obtain ⟨e, rest', hx, -, rfl⟩ := List.forall₂_cons_right_iff.mp hrest
        obtain rfl := (hc.eq_iff_of_mem_mark (by simp)).mp rfl
        obtain rfl := (hx.eq_iff_of_mem_mark (by simp)).mp rfl
        exact hmark rest' rfl rfl
  | case3 =>
      obtain rfl := List.forall₂_nil_left_iff.mp h
      exact .nil

theorem sameDigits_normalize {text other : List Char} (h : List.Forall₂ SameDigit text other) :
    List.Forall₂ SameDigit (normalize text) (normalize other) := by
  refine List.rel_filter (fun c d hsame => ?_) (sameDigits_dropMarks h)
  show (!Text.isWhiteSpace c) = true ↔ (!Text.isWhiteSpace d) = true
  rw [hsame.isWhiteSpace_eq]

/-- Letters are read in either case, and what is no hex digit is found at the same position. -/
theorem digits_eq_of_sameDigits {text other : List Char} (h : List.Forall₂ SameDigit text other)
    (position : Nat) : digits position other = digits position text := by
  induction h generalizing position with
  | nil => rfl
  | @cons c d rest tail hc _ ih =>
      rw [digits, digits, hc.hexValue?_eq, ih (position + 1)]
      cases hvalue : Text.hexValue? c with
      | some value => rfl
      | none =>
          have hdigit : Text.isHexDigit c = false := by
            rw [← Text.isSome_hexValue?, hvalue]
            rfl
          rw [hc.eq_of_not_isHexDigit hdigit]

end HexDump

/-- Texts of one length whose digits are read alike are read alike. -/
theorem StatusVector.ofHex_congr {text other : List Char} (hlength : other.length = text.length)
    (hdigits : HexDump.digits 0 other = HexDump.digits 0 text) : ofHex other = ofHex text := by
  cases hkind : Kind.ofHexLength? text.length with
  | none =>
      rw [ofHex_of_none hkind, ofHex_of_none (hlength ▸ hkind), hlength]
  | some kind =>
      have hother : Kind.ofHexLength? other.length = some kind := hlength ▸ hkind
      cases hread : HexDump.digits 0 text with
      | error e =>
          rw [ofHex_of_digits_error hkind hread, ofHex_of_digits_error hother (hdigits.trans hread)]
      | ok values =>
          obtain ⟨u, hu, -, hbytes⟩ := ofHex_of_digits_ok hkind hread
          obtain ⟨v, hv, -, hbytes'⟩ := ofHex_of_digits_ok hother (hdigits.trans hread)
          rw [hu, hv, eq_of_bytes_eq (hbytes'.trans hbytes.symm)]

/-! ## Decoding -/

theorem decode_eq_of_edit {raw other : String} (h : HexDump.Edit raw.toList other.toList) :
    decode other = decode raw := by
  rw [decode, decode]
  generalize raw.toList = text, other.toList = changed at h
  cases h with
  | space hmeet hspaces => rw [HexDump.normalize_insert_space hmeet hspaces]
  | mark hmeet => rw [HexDump.normalize_insert_mark hmeet]
  | letters hsame =>
      have hnormalize := HexDump.sameDigits_normalize hsame
      exact StatusVector.ofHex_congr hnormalize.length_eq.symm
        (HexDump.digits_eq_of_sameDigits hnormalize 0)

/-- However a dump is written, and however often its spelling is changed, it decodes to the same
vector, or is refused for the same reason: with the same length, or with the same character at the
same position. -/
theorem decode_eq_of_respelled {raw other : String} (h : HexDump.Respelled raw other) :
    decode other = decode raw := by
  induction h with
  | rel raw other hedit => exact decode_eq_of_edit hedit
  | refl raw => rfl
  | symm raw other _ ih => exact ih.symm
  | trans raw middle other _ _ hfirst hsecond => exact hsecond.trans hfirst

/-- An `x` that follows a mark stays the character that is refused, and stays at its position. -/
theorem decode_eq_of_respelled_with_lone_x :
    HexDump.Respelled "3cx0800g" "3C0xx0 800g" ∧ decode "3C0xx0 800g" = decode "3cx0800g" ∧
      decode "3cx0800g" = .error (.invalidCharacter 2 'x') := by
  have hmark : HexDump.Edit ("3c".toList ++ "x0800g".toList)
      ("3c".toList ++ ['0', 'x'] ++ "x0800g".toList) := .mark (by decide)
  have hspace : HexDump.Edit ("3c0xx0".toList ++ "800g".toList)
      ("3c0xx0".toList ++ [' '] ++ "800g".toList) :=
    .space (by decide) (List.forall_mem_singleton.mpr (by decide))
  have hletters : HexDump.Edit "3c0xx0 800g".toList "3C0xx0 800g".toList := by
    refine .letters (.cons (.inl rfl) (.cons (.inr (by decide)) ?_))
    exact List.forall₂_same.mpr fun c _ => .inl rfl
  have hrespelled : HexDump.Respelled "3cx0800g" "3C0xx0 800g" :=
    .trans _ _ _ (.rel _ "3c0xx0800g" hmark)
      (.trans _ _ _ (.rel _ "3c0xx0 800g" hspace) (.rel _ _ hletters))
  exact ⟨hrespelled, decode_eq_of_respelled hrespelled, by decide⟩

end FrameStatus
