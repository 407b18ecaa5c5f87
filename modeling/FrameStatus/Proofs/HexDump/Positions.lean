import FrameStatus.Proofs.HexDump.Digits
import FrameStatus.Proofs.StatusVector

/-!
# Positions in hex text

Hex text is read by pairs of digits, and the bytes that it gives are asked for single digits again.
A digit has the same position in the text as in the vector, whichever half of a byte it is.
-/

namespace FrameStatus

namespace Text

/-- The character at a position is the digit of a value, in either case. -/
def DigitAt (text : List Char) (position value : Nat) : Prop :=
  ∃ c, text[position]? = some c ∧ value < 16 ∧ Nat.digitChar value = c.toLower

section DigitAt

variable {text : List Char} {position value : Nat}

theorem digitAt_of_hexValue? {c : Char} (hc : text[position]? = some c)
    (hvalue : hexValue? c = some value) : DigitAt text position value := by
  have hdigit : isHexDigit c = true := by rw [← isSome_hexValue?, hvalue, Option.isSome_some]
  obtain ⟨found, hlt, hfound, hchar⟩ := hexValue?_of_mem (isHexDigit_iff.mp hdigit)
  obtain rfl : value = found := Option.some.inj (hvalue.symm.trans hfound)
  exact ⟨c, hc, hlt, hchar⟩

theorem DigitAt.unique {other : Nat} (h : DigitAt text position value)
    (hother : DigitAt text position other) : value = other := by
  obtain ⟨c, hc, hlt, hchar⟩ := h
  obtain ⟨d, hd, hltother, hcharother⟩ := hother
  obtain rfl : c = d := Option.some.inj (hc.symm.trans hd)
  have hread := hexValue?_digitChar hlt
  rw [hchar, ← hcharother, hexValue?_digitChar hltother] at hread
  exact (Option.some.inj hread).symm

theorem DigitAt.value_lt (h : DigitAt text position value) : value < 16 := by
  obtain ⟨-, -, hlt, -⟩ := h
  exact hlt

theorem DigitAt.lt_length (h : DigitAt text position value) : position < text.length := by
  obtain ⟨c, hc, -⟩ := h
  exact (List.getElem?_eq_some_iff.mp hc).1

end DigitAt

end Text

namespace HexDump

/-- The values that are read stand where their digits stand in the text. -/
theorem digitAt_of_digits {text : List Char} {values : List Nat}
    (h : digits 0 text = .ok values) {position value : Nat}
    (hvalue : values[position]? = some value) : Text.DigitAt text position value := by
  have hread := congrArg (·[position]?) (map_hexValue?_of_digits h)
  simp only [List.getElem?_map, hvalue, Option.map_some] at hread
  obtain ⟨c, hc, hdigit⟩ := Option.map_eq_some_iff.mp hread
  exact Text.digitAt_of_hexValue? hc hdigit

theorem getElem?_pairBytes {values : List Nat} {index high low : Nat}
    (hhigh : values[2 * index]? = some high) (hlow : values[2 * index + 1]? = some low) :
    (pairBytes values)[index]? = some (UInt8.ofNat (16 * high + low)) := by
  fun_induction pairBytes values generalizing index with
  | case1 first second rest ih =>
      cases index with
      | zero =>
          cases hhigh
          cases hlow
          rfl
      | succ index => exact ih hhigh hlow
  | case2 values hpair =>
      have hbound := (List.getElem?_eq_some_iff.mp hlow).1
      rcases values with _ | ⟨first, _ | ⟨second, rest⟩⟩
      · cases hhigh
      · simp only [List.length_singleton] at hbound
        omega
      · exact absurd rfl (hpair first second rest)

end HexDump

namespace StatusVector

variable {text : List Char} {vector : StatusVector}

/-- A byte is made of the two digits at its place in the text, the high one first. -/
theorem exists_digitAt_byte (h : ofHex text = .ok vector) {index : Nat}
    (hindex : index < vector.kind.byteLength) :
    ∃ high low byte, Text.DigitAt text (2 * index) high ∧ Text.DigitAt text (2 * index + 1) low ∧
      vector.byte? index = some byte ∧ byte.toNat = 16 * high + low := by
  obtain ⟨-, values, hvalues, hbytes⟩ := ofHex_eq_ok h
  have hlength : values.length = 2 * vector.kind.byteLength := by
    rw [HexDump.length_of_digits_eq_ok hvalues, (length_of_ofHex h).1]
    rfl
  obtain ⟨high, hhigh⟩ : ∃ high, values[2 * index]? = some high :=
    ⟨_, List.getElem?_eq_getElem (by omega)⟩
  obtain ⟨low, hlow⟩ : ∃ low, values[2 * index + 1]? = some low :=
    ⟨_, List.getElem?_eq_getElem (by omega)⟩
  have hhighAt := HexDump.digitAt_of_digits hvalues hhigh
  have hlowAt := HexDump.digitAt_of_digits hvalues hlow
  refine ⟨high, low, UInt8.ofNat (16 * high + low), hhighAt, hlowAt, ?_, ?_⟩
  · rw [byte?, hbytes, HexDump.getElem?_pairBytes hhigh hlow]
  · have := hhighAt.value_lt
    have := hlowAt.value_lt
    rw [UInt8.toNat_ofNat']
    omega

/-- The digits of a vector are those of its text. Which half of a byte is asked for is told by the
parity of the position. -/
theorem exists_digitAt_digit (h : ofHex text = .ok vector) {position : Nat}
    (hposition : position < vector.kind.hexLength) :
    ∃ value, Text.DigitAt text position value ∧ vector.digit? position = some value := by
  have hindex : position / 2 < vector.kind.byteLength := by
    rw [Kind.hexLength] at hposition
    omega
  obtain ⟨high, low, byte, hhigh, hlow, hbyte, hsum⟩ := exists_digitAt_byte h hindex
  have := hlow.value_lt
  rcases Nat.mod_two_eq_zero_or_one position with heven | hodd
  · have hplace : 2 * (position / 2) = position := by omega
    refine ⟨high, hplace ▸ hhigh, ?_⟩
    have hhalf : byte.toNat / 16 = high := by omega
    rw [digit?, hbyte, Option.map_some, if_pos heven, hhalf]
  · have hplace : 2 * (position / 2) + 1 = position := by omega
    refine ⟨low, hplace ▸ hlow, ?_⟩
    have hhalf : byte.toNat % 16 = low := by omega
    rw [digit?, hbyte, Option.map_some, if_neg (by omega), hhalf]

theorem digit?_eq_some_iff (h : ofHex text = .ok vector) {position value : Nat} :
    vector.digit? position = some value ↔ Text.DigitAt text position value := by
  have hlength := (length_of_ofHex h).1
  constructor
  · intro hvalue
    have hposition : position < vector.kind.hexLength := by
      apply Nat.lt_of_not_le
      intro hbehind
      rw [(vector.digit?_eq_none_iff position).mpr hbehind] at hvalue
      cases hvalue
    obtain ⟨found, hfound, hdigit⟩ := exists_digitAt_digit h hposition
    rw [hdigit] at hvalue
    exact Option.some.inj hvalue ▸ hfound
  · intro hvalue
    obtain ⟨found, hfound, hdigit⟩ := exists_digitAt_digit h (hlength ▸ hvalue.lt_length)
    rw [hdigit, hfound.unique hvalue]

theorem exists_count? (vector : StatusVector) {low : Nat}
    (h : low + 1 < vector.kind.byteLength) :
    ∃ first second, vector.byte? low = some first ∧ vector.byte? (low + 1) = some second ∧
      vector.count? low = some (first.toNat + 256 * second.toNat) := by
  have hread : ∀ index < vector.kind.byteLength, ∃ byte, vector.byte? index = some byte :=
    fun index hindex => ⟨_, List.getElem?_eq_getElem (vector.length_bytes ▸ hindex)⟩
  obtain ⟨first, hfirst⟩ := hread low (Nat.lt_of_succ_lt h)
  obtain ⟨second, hsecond⟩ := hread (low + 1) h
  refine ⟨first, second, hfirst, hsecond, ?_⟩
  simp only [count?, hfirst, hsecond]
  rfl

/-- A vector that is read from hex text has the digits of the text at their positions, and its
bytes and counts are made of them. The bytes alone give the vector again. -/
theorem reads_at_text_positions (h : ofHex text = .ok vector) :
    text.length = 2 * vector.kind.byteLength ∧
    (∀ position < text.length, ∃ value, Text.DigitAt text position value) ∧
    (∀ position value,
      vector.digit? position = some value ↔ Text.DigitAt text position value) ∧
    (∀ index < vector.kind.byteLength, ∃ high low byte,
      Text.DigitAt text (2 * index) high ∧ Text.DigitAt text (2 * index + 1) low ∧
        vector.byte? index = some byte ∧ byte.toNat = 16 * high + low) ∧
    (∀ low, low + 1 < vector.kind.byteLength → ∃ first second,
      vector.byte? low = some first ∧ vector.byte? (low + 1) = some second ∧
        vector.count? low = some (first.toNat + 256 * second.toNat)) ∧
    ofBytes vector.bytes = .ok vector := by
  have hlength := (length_of_ofHex h).1
  refine ⟨hlength, ?_, fun _ _ => digit?_eq_some_iff h, fun _ => exists_digitAt_byte h,
    fun _ => vector.exists_count?, ofBytes_bytes vector⟩
  intro position hposition
  obtain ⟨value, hvalue, -⟩ := exists_digitAt_digit h (hlength ▸ hposition)
  exact ⟨value, hvalue⟩

/-- Digits of both cases, in both halves of a byte. -/
theorem reads_at_text_positions_of_mixed_case :
    let text := "3c00A5fF".toList
    let vector : StatusVector := ⟨.receive, [0x3c, 0x00, 0xa5, 0xff], rfl⟩
    ofHex text = .ok vector ∧ Text.DigitAt text 4 10 ∧ vector.digit? 4 = some 10 ∧
      vector.digit? 5 = some 5 ∧ Text.DigitAt text 7 15 ∧ vector.digit? 7 = some 15 ∧
      vector.byte? 2 = some 0xa5 ∧ vector.count? 2 = some 0xffa5 ∧
      ofBytes vector.bytes = .ok vector := by
  intro text vector
  have hread : ofHex text = .ok vector := by decide
  have hfour : Text.DigitAt text 4 10 := ⟨'A', by decide⟩
  have hfive : Text.DigitAt text 5 5 := ⟨'5', by decide⟩
  have hseven : Text.DigitAt text 7 15 := ⟨'F', by decide⟩
  obtain ⟨-, -, hdigits, -, hcounts, hbytes⟩ := reads_at_text_positions hread
  obtain ⟨first, second, hfirst, hsecond, hcount⟩ := hcounts 2 (by decide)
  cases hfirst
  cases hsecond
  exact ⟨hread, hfour, (hdigits 4 10).mpr hfour, (hdigits 5 5).mpr hfive, hseven,
    (hdigits 7 15).mpr hseven, rfl, hcount, hbytes⟩

end StatusVector

end FrameStatus
