import FrameStatus.StatusVector

/-!
# Slices of a status vector

Where a field lies in a vector, given by the hex digits that hold it, and the bits of the status
word that these digits are. Bit `8 * n` is the lowest bit of byte `n`.
-/

namespace FrameStatus

/-- Where a field lies. -/
inductive Slice where
  /-- The 16 bits of byte `low` and the byte after it, a little-endian count. -/
  | byteCount (low : Nat)
  /-- The bits of one hex digit that a mask selects. -/
  | flag (digit : Nat) (mask : UInt8)
  /-- One whole hex digit. -/
  | nibble (digit : Nat)
  deriving DecidableEq, Repr

/-- A run of bits of the status word. Bit numbers are bytes, and reckoned modulo 256. -/
structure BitRange where
  first : UInt8
  last : UInt8
  deriving DecidableEq, Repr

namespace Slice

/-- The lowest bit of a hex digit. -/
def lowestBitOfDigit (digit : Nat) : UInt8 :=
  UInt8.ofNat (digit / 2) * 8 + if digit % 2 = 0 then 4 else 0

/-- The positions of the set bits of a mask, lowest first. -/
def setBits (mask : UInt8) : List Nat :=
  (List.range 8).filter mask.toNat.testBit

/-- The bits from the lowest to the highest that the slice selects. -/
def bits : Slice → BitRange
  | byteCount low => ⟨UInt8.ofNat (8 * low), UInt8.ofNat (8 * low) + 15⟩
  | flag digit mask =>
      ⟨lowestBitOfDigit digit + UInt8.ofNat ((setBits mask).headD 0),
        lowestBitOfDigit digit + UInt8.ofNat ((setBits mask).getLastD 0)⟩
  | nibble digit => ⟨lowestBitOfDigit digit, lowestBitOfDigit digit + 3⟩

/-- The last hex digit that the slice touches. -/
def lastDigit : Slice → Nat
  | byteCount low => 2 * low + 3
  | flag digit _ => digit
  | nibble digit => digit

/-- The value of the slice, where the vector has all its digits. A flag keeps its place in the
digit. -/
def read? (vector : StatusVector) : Slice → Option Nat
  | byteCount low => vector.count? low
  | flag digit mask => (vector.digit? digit).map (· &&& mask.toNat)
  | nibble digit => vector.digit? digit

/-- A slice is read unless its last digit lies behind the vector. -/
theorem read?_eq_none_iff (vector : StatusVector) (slice : Slice) :
    slice.read? vector = none ↔ vector.kind.hexLength ≤ slice.lastDigit := by
  cases slice with
  | byteCount low =>
      rw [read?, vector.count?_eq_none_iff, lastDigit, Kind.hexLength]
      omega
  | flag digit mask => rw [read?, Option.map_eq_none_iff, vector.digit?_eq_none_iff, lastDigit]
  | nibble digit => rw [read?, vector.digit?_eq_none_iff, lastDigit]

/-- A slice is read if its last digit belongs to the vector. -/
theorem isSome_read?_of_lastDigit_lt {vector : StatusVector} {slice : Slice}
    (h : slice.lastDigit < vector.kind.hexLength) : (slice.read? vector).isSome := by
  rw [Option.isSome_iff_ne_none, ne_eq, read?_eq_none_iff]
  exact Nat.not_le.mpr h

end Slice

end FrameStatus
