import FrameStatus.DecodeError
import FrameStatus.Text.Numeral
import FrameStatus.Text.WhiteSpace

/-!
# Hex dumps

A dump writes bytes as pairs of hex digits, high digit first, with white space and `0x` marks in
between as its writer likes. Normalizing leaves the digits.
-/

namespace FrameStatus.HexDump

/-- Removes every `0x`, from left to right. What a removal brings together is not looked at
again. -/
def dropMarks : List Char → List Char
  | '0' :: 'x' :: rest => dropMarks rest
  | c :: rest => c :: dropMarks rest
  | [] => []

/-- Removes every `0x`, then all white space. -/
def normalize (raw : List Char) : List Char :=
  (dropMarks raw).filter (!Text.isWhiteSpace ·)

/-- The values of hex digits, the first of which stands at `position`. -/
def digits (position : Nat) : List Char → Except DecodeError (List Nat)
  | [] => .ok []
  | c :: rest =>
      match Text.hexValue? c with
      | none => .error (.invalidCharacter position c)
      | some digit => (digits (position + 1) rest).map (digit :: ·)

/-- The bytes of an even number of digits. -/
def pairBytes : List Nat → List UInt8
  | high :: low :: rest => UInt8.ofNat (16 * high + low) :: pairBytes rest
  | _ => []

/-- The two lowercase digits of every byte. -/
def ofBytes (bytes : List UInt8) : List Char :=
  bytes.flatMap Text.hexByte

theorem length_of_digits_eq_ok {position : Nat} {text : List Char} {values : List Nat}
    (h : digits position text = .ok values) : values.length = text.length := by
  induction text generalizing position values with
  | nil => simp_all [digits]
  | cons c rest ih =>
      unfold digits at h
      split at h
      · cases h
      · cases hrest : digits (position + 1) rest with
        | error e => simp [hrest, Except.map] at h
        | ok tail =>
            simp only [hrest, Except.map, Except.ok.injEq] at h
            simp [← h, ih hrest]

theorem length_pairBytes : ∀ values : List Nat, (pairBytes values).length = values.length / 2
  | [] => by simp [pairBytes]
  | [_] => by simp [pairBytes]
  | high :: low :: rest => by
      simp only [pairBytes, List.length_cons, length_pairBytes rest]
      omega

end FrameStatus.HexDump
