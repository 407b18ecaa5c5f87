import FrameStatus.Kind
import FrameStatus.Text.Numeral
import FrameStatus.Text.Quoted

/-!
# Why a dump is refused

The causes for which a dump is no status vector, and the texts that report them.
-/

namespace FrameStatus

/-- Why a dump is refused. -/
inductive DecodeError where
  /-- No kind of vector has this many hex digits. -/
  | invalidLength (length : Nat)
  /-- The character at this position of the dump is no hex digit. -/
  | invalidCharacter (position : Nat) (character : Char)
  /-- The dump holds a vector, but of the other kind. -/
  | kindMismatch (expected found : Kind)
  deriving DecidableEq, Repr

/-- Outcomes are equal if both are errors, or both are not, and what they hold is equal. -/
instance decidableEqExcept {ε α : Type} [DecidableEq ε] [DecidableEq α] :
    DecidableEq (Except ε α)
  | .error a, .error b => decidable_of_iff (a = b) (by simp)
  | .error _, .ok _ => isFalse (by simp)
  | .ok _, .error _ => isFalse (by simp)
  | .ok a, .ok b => decidable_of_iff (a = b) (by simp)

namespace DecodeError

/-- The text shown to a user. -/
def message : DecodeError → String
  | invalidLength length =>
      "Not a valid status vector: expected 8 (receive) or 14 (transmit) hex digits, got " ++
        Text.decimal length ++ ". Single-digit bytes need a leading zero"
  | invalidCharacter position character =>
      "Invalid hex digit " ++ Text.quoteChar character ++ " at position " ++ Text.decimal position
  | kindMismatch expected found =>
      "Expected a " ++ expected.title ++ ", but got a " ++ found.title

/-- The structural form: the cause and its data by name. -/
def diagnostic : DecodeError → String
  | invalidLength length => "InvalidLength(" ++ Text.decimal length ++ ")"
  | invalidCharacter position character =>
      "InvalidCharacter \x7b position: " ++ Text.decimal position ++ ", character: " ++
        Text.quoteChar character ++ " \x7d"
  | kindMismatch expected found =>
      "KindMismatch \x7b expected: " ++ expected.name ++ ", found: " ++ found.name ++ " \x7d"

end DecodeError

end FrameStatus
