import FrameStatus.HexDump

/-!
# Hex digits and their values

Reading digits succeeds on hex digits of either case and nothing else, and stops at the first
character that is none. Pairing the values gives bytes, and writing the bytes gives the digits in
lowercase.
-/

namespace FrameStatus

namespace Text

/-- The ASCII hex digits of either case. -/
def hexDigits : List Char :=
  ['0', '1', '2', '3', '4', '5', '6', '7', '8', '9', 'a', 'b', 'c', 'd', 'e', 'f',
    'A', 'B', 'C', 'D', 'E', 'F']

/-- Whether a character is an ASCII hex digit. -/
def isHexDigit (c : Char) : Bool :=
  hexDigits.contains c

theorem isHexDigit_iff {c : Char} : isHexDigit c = true ↔ c ∈ hexDigits :=
  List.contains_iff_mem

/-- The value of a digit is written as that digit in lowercase. -/
theorem hexValue?_of_mem {c : Char} (h : c ∈ hexDigits) :
    ∃ value < 16, hexValue? c = some value ∧ Nat.digitChar value = c.toLower := by
  have hall : hexDigits.all (fun c => (hexValue? c).any fun value =>
      value < 16 && Nat.digitChar value = c.toLower) = true := by decide
  have hc := List.all_eq_true.mp hall c h
  cases hvalue : hexValue? c with
  | none => simp [hvalue] at hc
  | some value =>
      simp only [hvalue, Option.any_some, Bool.and_eq_true, decide_eq_true_eq] at hc
      exact ⟨value, hc.1, rfl, hc.2⟩

theorem hexValue?_digitChar {value : Nat} (h : value < 16) :
    hexValue? (Nat.digitChar value) = some value := by
  revert value
  decide

/-- Only ASCII characters have a value. -/
theorem toNat_lt_of_hexValue? {c : Char} (h : (hexValue? c).isSome) : c.toNat < 128 := by
  have hbound : ∀ last : Char, c ≤ last → last.toNat < 128 → c.toNat < 128 := by
    intro last hle hlast
    exact Nat.lt_of_le_of_lt (UInt32.le_iff_toNat_le.mp hle) hlast
  unfold hexValue? at h
  split at h
  next hdigit => exact hbound '9' hdigit.2 (by decide)
  next =>
    split at h
    next hlower => exact hbound 'f' hlower.2 (by decide)
    next =>
      split at h
      next hupper => exact hbound 'F' hupper.2 (by decide)
      next => cases h

theorem isSome_hexValue? (c : Char) : (hexValue? c).isSome = isHexDigit c := by
  have hascii : ∀ code < 128,
      (hexValue? (Char.ofNat code)).isSome → isHexDigit (Char.ofNat code) := by decide
  rw [Bool.eq_iff_iff]
  constructor
  · intro h
    have hcode := hascii c.toNat (toNat_lt_of_hexValue? h)
    rw [Char.ofNat_toNat] at hcode
    exact hcode h
  · intro h
    obtain ⟨value, -, hvalue, -⟩ := hexValue?_of_mem (isHexDigit_iff.mp h)
    rw [hvalue]
    rfl

theorem hexValue?_eq_none {c : Char} (h : isHexDigit c = false) : hexValue? c = none := by
  rw [← isSome_hexValue?] at h
  exact Option.not_isSome_iff_eq_none.mp (Bool.eq_false_iff.mp h)

theorem not_isWhiteSpace_of_isHexDigit {c : Char} (h : isHexDigit c = true) :
    isWhiteSpace c = false := by
  have hall : hexDigits.all (!isWhiteSpace ·) = true := by decide
  exact (Bool.not_eq_true' _).mp (List.all_eq_true.mp hall c (isHexDigit_iff.mp h))

end Text

namespace HexDump

/-! ## Reading digits -/

/-- Hex digits are read to their values. -/
theorem digits_of_forall {text : List Char} (h : ∀ c ∈ text, Text.isHexDigit c = true)
    (position : Nat) :
    ∃ values, digits position text = .ok values ∧ (∀ value ∈ values, value < 16) ∧
      values.map Nat.digitChar = text.map Char.toLower := by
  induction text generalizing position with
  | nil => exact ⟨[], rfl, by simp, rfl⟩
  | cons c rest ih =>
      obtain ⟨hfirst, hrest⟩ := List.forall_mem_cons.mp h
      obtain ⟨value, hlt, hvalue, hchar⟩ := Text.hexValue?_of_mem (Text.isHexDigit_iff.mp hfirst)
      obtain ⟨values, hvalues, hall, hchars⟩ := ih hrest (position + 1)
      refine ⟨value :: values, ?_, List.forall_mem_cons.mpr ⟨hlt, hall⟩, ?_⟩
      · simp only [digits, hvalue, hvalues, Except.map]
      · rw [List.map_cons, List.map_cons, hchar, hchars]

/-- Reading stops at the first character that is no hex digit. -/
theorem digits_of_first {before after : List Char} {c : Char}
    (hbefore : ∀ d ∈ before, Text.isHexDigit d = true) (hc : Text.isHexDigit c = false)
    (position : Nat) :
    digits position (before ++ c :: after) =
      .error (.invalidCharacter (position + before.length) c) := by
  induction before generalizing position with
  | nil =>
      simp only [List.nil_append, digits, Text.hexValue?_eq_none hc, List.length_nil,
        Nat.add_zero]
  | cons d before ih =>
      obtain ⟨hfirst, hrest⟩ := List.forall_mem_cons.mp hbefore
      obtain ⟨value, -, hvalue, -⟩ := Text.hexValue?_of_mem (Text.isHexDigit_iff.mp hfirst)
      simp only [List.cons_append, digits, hvalue, ih hrest (position + 1), Except.map,
        List.length_cons, Nat.add_right_comm, Nat.add_assoc]

/-- What is read are the values of the characters. -/
theorem map_hexValue?_of_digits {position : Nat} {text : List Char} {values : List Nat}
    (h : digits position text = .ok values) : text.map Text.hexValue? = values.map some := by
  induction text generalizing position values with
  | nil =>
      cases h
      rfl
  | cons c rest ih =>
      unfold digits at h
      cases hvalue : Text.hexValue? c with
      | none => simp [hvalue] at h
      | some value =>
          cases hrest : digits (position + 1) rest with
          | error e => simp [hvalue, hrest, Except.map] at h
          | ok tail =>
              simp only [hvalue, hrest, Except.map, Except.ok.injEq] at h
              rw [← h, List.map_cons, List.map_cons, hvalue, ih hrest]

theorem forall_of_digits_eq_ok {position : Nat} {text : List Char} {values : List Nat}
    (h : digits position text = .ok values) : ∀ c ∈ text, Text.isHexDigit c = true := by
  intro c hc
  have hmem : Text.hexValue? c ∈ values.map some :=
    map_hexValue?_of_digits h ▸ List.mem_map_of_mem hc
  obtain ⟨value, -, hvalue⟩ := List.mem_map.mp hmem
  rw [← Text.isSome_hexValue?, ← hvalue, Option.isSome_some]

/-! ## Writing bytes -/

theorem length_ofBytes (bytes : List UInt8) : (ofBytes bytes).length = 2 * bytes.length := by
  induction bytes with
  | nil => rfl
  | cons byte rest ih =>
      have hbyte : (Text.hexByte byte).length = 2 := rfl
      simp only [ofBytes, List.flatMap_cons, List.length_append, List.length_cons] at ih ⊢
      omega

/-- The digits of bytes are read back to them. -/
theorem digits_ofBytes (bytes : List UInt8) (position : Nat) :
    ∃ values, digits position (ofBytes bytes) = .ok values ∧ pairBytes values = bytes := by
  induction bytes generalizing position with
  | nil => exact ⟨[], rfl, rfl⟩
  | cons byte rest ih =>
      obtain ⟨values, hvalues, hrest⟩ := ih (position + 1 + 1)
      have hbyte := byte.toNat_lt
      have hhigh := Text.hexValue?_digitChar (show byte.toNat / 16 < 16 by omega)
      have hlow := Text.hexValue?_digitChar (show byte.toNat % 16 < 16 by omega)
      refine ⟨byte.toNat / 16 :: byte.toNat % 16 :: values, ?_, ?_⟩
      · show digits position (Text.hexByte byte ++ ofBytes rest) = _
        simp only [Text.hexByte, List.cons_append, List.nil_append, digits, hhigh, hlow, hvalues,
          Except.map]
      · rw [pairBytes, hrest, Nat.div_add_mod, UInt8.ofNat_toNat]

/-- The bytes of hex digits are written with these digits. -/
theorem ofBytes_pairBytes {values : List Nat} (heven : values.length % 2 = 0)
    (hall : ∀ value ∈ values, value < 16) :
    ofBytes (pairBytes values) = values.map Nat.digitChar := by
  fun_induction pairBytes values with
  | case1 high low rest ih =>
      obtain ⟨hhigh, hrest⟩ := List.forall_mem_cons.mp hall
      obtain ⟨hlow, hrest⟩ := List.forall_mem_cons.mp hrest
      have hsize : 16 * high + low < UInt8.size := by
        show 16 * high + low < 256
        omega
      have hbyte : (UInt8.ofNat (16 * high + low)).toNat = 16 * high + low :=
        UInt8.toNat_ofNat_of_lt hsize
      have hdiv : (16 * high + low) / 16 = high := by omega
      have hmod : (16 * high + low) % 16 = low := by omega
      have hpair : Text.hexByte (UInt8.ofNat (16 * high + low)) =
          [Nat.digitChar high, Nat.digitChar low] := by
        rw [Text.hexByte, hbyte, hdiv, hmod]
      have hrestEven : rest.length % 2 = 0 := by
        rw [List.length_cons, List.length_cons] at heven
        omega
      have ih := ih hrestEven hrest
      simp only [ofBytes, List.flatMap_cons, hpair] at ih ⊢
      rw [ih]
      rfl
  | case2 values hpair =>
      rcases values with _ | ⟨high, _ | ⟨low, rest⟩⟩
      · rfl
      · simp at heven
      · exact absurd rfl (hpair high low rest)

theorem forall_isHexDigit_ofBytes (bytes : List UInt8) :
    ∀ c ∈ ofBytes bytes, Text.isHexDigit c = true := by
  obtain ⟨values, hvalues, -⟩ := digits_ofBytes bytes 0
  exact forall_of_digits_eq_ok hvalues

end HexDump

end FrameStatus
