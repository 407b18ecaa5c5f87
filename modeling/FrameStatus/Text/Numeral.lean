/-!
# Numerals

Hex digits and their values, the two-digit form of a byte, and unsigned decimal numerals.
-/

namespace FrameStatus.Text

/-- The value of an ASCII hex digit of either case. -/
def hexValue? (c : Char) : Option Nat :=
  if '0' ≤ c ∧ c ≤ '9' then some (c.toNat - '0'.toNat)
  else if 'a' ≤ c ∧ c ≤ 'f' then some (c.toNat - 'a'.toNat + 10)
  else if 'A' ≤ c ∧ c ≤ 'F' then some (c.toNat - 'A'.toNat + 10)
  else none

/-- The two lowercase hex digits of a byte, high half first. -/
def hexByte (byte : UInt8) : List Char :=
  [Nat.digitChar (byte.toNat / 16), Nat.digitChar (byte.toNat % 16)]

/-- The lowercase hex numeral of a number, without leading zeros. -/
def hexNumeral (n : Nat) : List Char :=
  Nat.toDigits 16 n

/-- The decimal numeral of a number. -/
def decimal (n : Nat) : String :=
  String.ofList (Nat.toDigits 10 n)

/-- Reads decimal digits on from a value already read. -/
def decimalFrom? (value : Nat) : List Char → Option Nat
  | [] => some value
  | c :: rest =>
      if '0' ≤ c ∧ c ≤ '9' then decimalFrom? (value * 10 + (c.toNat - '0'.toNat)) rest else none

/-- The value of a nonempty run of ASCII decimal digits. -/
def decimalValue? : List Char → Option Nat
  | [] => none
  | digits => decimalFrom? 0 digits

end FrameStatus.Text
