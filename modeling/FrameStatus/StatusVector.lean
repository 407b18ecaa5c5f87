import FrameStatus.HexDump

/-!
# Status vectors

A status vector is as many bytes as its kind has. It is read from a hex dump or from the bytes
themselves, and printed as the hex text that reads back to it. Digit `2n` of that text is the high
half of byte `n`, digit `2n + 1` the low half.
-/

namespace FrameStatus

/-- The bytes of a status vector, byte 0 first. -/
structure StatusVector where
  kind : Kind
  bytes : List UInt8
  length_bytes : bytes.length = kind.byteLength
  deriving DecidableEq, Repr

namespace StatusVector

/-- The vector with the given bytes. -/
def ofBytes (bytes : List UInt8) : Except DecodeError StatusVector :=
  match h : Kind.ofHexLength? (2 * bytes.length) with
  | none => .error (.invalidLength (2 * bytes.length))
  | some kind =>
      .ok ⟨kind, bytes, by
        have := Kind.ofHexLength?_eq_some_iff.mp h
        simp only [Kind.hexLength] at this
        omega⟩

/-- The vector that hex text spells. The number of characters is judged before what they are. -/
def ofHex (text : List Char) : Except DecodeError StatusVector :=
  match hkind : Kind.ofHexLength? text.length with
  | none => .error (.invalidLength text.length)
  | some kind =>
      match hvalues : HexDump.digits 0 text with
      | .error e => .error e
      | .ok values =>
          .ok ⟨kind, HexDump.pairBytes values, by
            have := Kind.ofHexLength?_eq_some_iff.mp hkind
            simp only [Kind.hexLength] at this
            rw [HexDump.length_pairBytes, HexDump.length_of_digits_eq_ok hvalues]
            omega⟩

/-- The lowercase hex text of the bytes. -/
def hex (vector : StatusVector) : String :=
  String.ofList (HexDump.ofBytes vector.bytes)

/-- The byte that holds the bits from `8 * index` on, where the vector has it. -/
def byte? (vector : StatusVector) (index : Nat) : Option UInt8 :=
  vector.bytes[index]?

/-- The value of a hex digit, where the vector has it. -/
def digit? (vector : StatusVector) (digit : Nat) : Option Nat :=
  (vector.byte? (digit / 2)).map fun byte =>
    if digit % 2 = 0 then byte.toNat / 16 else byte.toNat % 16

/-- The little-endian count made of byte `low` and the byte after it, where the vector has both. -/
def count? (vector : StatusVector) (low : Nat) : Option Nat := do
  let first ← vector.byte? low
  let second ← vector.byte? (low + 1)
  return first.toNat + 256 * second.toNat

/-! ## Where a read fails -/

theorem byte?_eq_none_iff (vector : StatusVector) (index : Nat) :
    vector.byte? index = none ↔ vector.kind.byteLength ≤ index := by
  rw [byte?, List.getElem?_eq_none_iff, vector.length_bytes]

/-- Two digits are read from one byte. -/
theorem digit?_eq_none_iff (vector : StatusVector) (digit : Nat) :
    vector.digit? digit = none ↔ vector.kind.hexLength ≤ digit := by
  rw [digit?, Option.map_eq_none_iff, byte?_eq_none_iff, Kind.hexLength]
  omega

/-- A count is read where the second of its bytes is there. -/
theorem count?_eq_none_iff (vector : StatusVector) (low : Nat) :
    vector.count? low = none ↔ vector.kind.byteLength ≤ low + 1 := by
  have hfirst := vector.byte?_eq_none_iff low
  have hsecond := vector.byte?_eq_none_iff (low + 1)
  unfold count?
  cases hlow : vector.byte? low with
  | none =>
      have hbehind := hfirst.mp hlow
      exact iff_of_true rfl (Nat.le_succ_of_le hbehind)
  | some first =>
      rw [← hsecond]
      cases vector.byte? (low + 1) <;> simp

end StatusVector

end FrameStatus
