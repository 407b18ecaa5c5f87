import FrameStatus.Proofs.HexDump.Canonical
import FrameStatus.Proofs.Text.Search

/-!
# Dumps put together

Two texts are normalized one by one, unless they meet in the middle of a mark. So white space may
stand anywhere else in a dump, and at its end it may as well be missing.
-/

namespace FrameStatus

namespace HexDump

theorem dropMarks_append {a b : List Char}
    (h : ¬(a.getLast? = some '0' ∧ b.head? = some 'x')) :
    dropMarks (a ++ b) = dropMarks a ++ dropMarks b := by
  fun_induction dropMarks a with
  | case1 rest ih =>
      refine ih fun hmeet => h ⟨?_, hmeet.2⟩
      simp [List.getLast?_cons, hmeet.1]
  | case2 c rest hmark ih =>
      rw [List.cons_append, List.cons_append, dropMarks_cons, ih]
      · refine fun hmeet => h ⟨?_, hmeet.2⟩
        simp [List.getLast?_cons, hmeet.1]
      · rintro rest' rfl hx
        cases rest with
        | nil => exact h ⟨rfl, by simp [show b = 'x' :: rest' from hx]⟩
        | cons d rest => exact hmark rest rfl (by simpa using (List.cons.inj hx).1)
  | case3 => rfl

theorem normalize_append {a b : List Char}
    (h : ¬(a.getLast? = some '0' ∧ b.head? = some 'x')) :
    normalize (a ++ b) = normalize a ++ normalize b := by
  rw [normalize, dropMarks_append h, List.filter_append]
  rfl

theorem normalize_of_isWhiteSpace {spaces : List Char}
    (h : ∀ c ∈ spaces, Text.isWhiteSpace c = true) : normalize spaces = [] := by
  have hx : 'x' ∉ spaces := fun hmem => absurd (h 'x' hmem) (by decide)
  rw [normalize_of_not_mem hx, List.filter_eq_nil_iff]
  intro c hc
  simp [h c hc]

theorem normalize_trimEnd (text : List Char) : normalize (Text.trimEnd text) = normalize text := by
  obtain ⟨spaces, hsplit, hspaces⟩ := Text.exists_eq_trimEnd_append text
  have hmeet : ¬((Text.trimEnd text).getLast? = some '0' ∧ spaces.head? = some 'x') := by
    rintro ⟨-, hx⟩
    exact absurd (hspaces 'x' (List.mem_of_mem_head? hx)) (by decide)
  have hnormalize := congrArg normalize hsplit
  rw [normalize_append hmeet, normalize_of_isWhiteSpace hspaces, List.append_nil] at hnormalize
  exact hnormalize.symm

/-- Digits with white space between them are what is left of them. -/
theorem normalize_of_filter {text digits : List Char}
    (h : text.filter (!Text.isWhiteSpace ·) = digits)
    (hdigits : ∀ c ∈ digits, Text.isHexDigit c = true) : normalize text = digits := by
  have hx : 'x' ∉ text := by
    intro hmem
    have hkept : 'x' ∈ text.filter (!Text.isWhiteSpace ·) :=
      List.mem_filter.mpr ⟨hmem, by decide⟩
    exact absurd (hdigits 'x' (h ▸ hkept)) (by decide)
  rw [normalize_of_not_mem hx, h]

/-! ## Many parts -/

/-- A blank keeps the two sides of it apart. -/
theorem normalize_append_blank (a b : List Char) :
    normalize (a ++ [' '] ++ b) = normalize a ++ normalize b := by
  have hspace : Text.isWhiteSpace ' ' = true := by decide
  have hblank : normalize [' '] = [] :=
    normalize_of_isWhiteSpace (List.forall_mem_singleton.mpr hspace)
  have hbefore : ¬(a.getLast? = some '0' ∧ [' '].head? = some 'x') := by simp
  have hafter : ¬((a ++ [' ']).getLast? = some '0' ∧ b.head? = some 'x') := by simp
  rw [normalize_append hafter, normalize_append hbefore, hblank, List.append_nil]

theorem normalize_intercalate_blank (parts : List (List Char)) :
    normalize ([' '].intercalate parts) = parts.flatMap normalize := by
  induction parts with
  | nil => rfl
  | cons part rest ih =>
      cases rest with
      | nil => rw [List.intercalate_singleton, List.flatMap_singleton]
      | cons next rest =>
          rw [List.intercalate_cons_cons, normalize_append_blank, ih]
          rfl

/-- Nowhere between the parts of a text does a `0` stand in front of an `x`, also where there are
empty parts between the two. -/
def CutsNoMark (parts : List (List Char)) : Prop :=
  ∀ count ≤ parts.length,
    ¬((parts.take count).flatten.getLast? = some '0' ∧ (parts.drop count).flatten.head? = some 'x')

instance : DecidablePred CutsNoMark := fun parts =>
  inferInstanceAs (Decidable (∀ count ≤ parts.length,
    ¬((parts.take count).flatten.getLast? = some '0' ∧
      (parts.drop count).flatten.head? = some 'x')))

theorem CutsNoMark.of_cons {part : List Char} {rest : List (List Char)}
    (h : CutsNoMark (part :: rest)) :
    ¬(part.getLast? = some '0' ∧ rest.flatten.head? = some 'x') ∧ CutsNoMark rest := by
  constructor
  · have hfirst := h 1 (Nat.le_add_left 1 rest.length)
    simpa using hfirst
  · rintro count hcount ⟨hzero, hx⟩
    refine h (count + 1) (Nat.succ_le_succ hcount) ⟨?_, hx⟩
    rw [List.take_succ_cons, List.flatten_cons, List.getLast?_append, hzero]
    rfl

theorem normalize_flatten {parts : List (List Char)} (h : CutsNoMark parts) :
    normalize parts.flatten = parts.flatMap normalize := by
  induction parts with
  | nil => rfl
  | cons part rest ih =>
      obtain ⟨hmeet, hrest⟩ := h.of_cons
      rw [List.flatten_cons, normalize_append hmeet, ih hrest, List.flatMap_cons]

end HexDump

/-! ## Decoding -/

theorem decodeAs_eq_of_normalize {a b : String}
    (h : HexDump.normalize a.toList = HexDump.normalize b.toList) (kind : Kind) :
    decodeAs kind a = decodeAs kind b := by
  rw [decodeAs, decodeAs, decode, decode, h]

theorem decodeAs_trimEnd (kind : Kind) (text : List Char) :
    decodeAs kind (String.ofList (Text.trimEnd text)) = decodeAs kind (String.ofList text) := by
  apply decodeAs_eq_of_normalize
  rw [String.toList_ofList, String.toList_ofList, HexDump.normalize_trimEnd]

theorem decodeRecords_trimEnd (text : List Char) :
    decodeRecords (String.ofList (Text.trimEnd text)) = decodeRecords (String.ofList text) := by
  simp only [decodeRecords, decode, String.toList_ofList, HexDump.normalize_trimEnd]

/-- The digits of a vector may be apart. -/
theorem decodeAs_of_filter {vector : StatusVector} {text : List Char}
    (h : text.filter (!Text.isWhiteSpace ·) = vector.hex.toList) :
    decodeAs vector.kind (String.ofList text) = .ok vector := by
  have hdigits : ∀ c ∈ vector.hex.toList, Text.isHexDigit c = true := by
    rw [StatusVector.hex, String.toList_ofList]
    exact HexDump.forall_isHexDigit_ofBytes vector.bytes
  have hnormalize : HexDump.normalize (String.ofList text).toList =
      HexDump.normalize vector.hex.toList := by
    rw [String.toList_ofList, HexDump.normalize_of_filter h hdigits,
      HexDump.normalize_of_forall hdigits]
  rw [decodeAs_eq_of_normalize hnormalize, decodeAs, decode_hex]
  exact if_pos rfl

end FrameStatus
