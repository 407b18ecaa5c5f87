import FrameStatus.Field.Rule
import FrameStatus.Field.Slice

/-!
# Fields

A field of a status vector is a named slice of it with a rule that judges its value.
-/

namespace FrameStatus

/-- A field of a status vector. -/
structure Field where
  name : String
  description : String
  slice : Slice
  rule : Rule
  deriving DecidableEq, Repr

/-- The length of the largest Ethernet frame, checksum included. -/
def maxFrameLength : Nat := 1518

namespace Field

/-- A byte count, healthy up to the largest frame. -/
def byteCount (name : String) (low : Nat) (description : String) : Field :=
  ⟨name, description, .byteCount low, .atMost maxFrameLength⟩

/-- The bits of a digit that a mask selects, shown as yes or no. -/
def flag (name : String) (digit : Nat) (mask : UInt8) (rule : Rule) (description : String) :
    Field :=
  ⟨name, description, .flag digit mask, rule⟩

/-- A whole digit, healthy when it is zero. -/
def nibble (name : String) (digit : Nat) (description : String) : Field :=
  ⟨name, description, .nibble digit, .zero⟩

/-- Whether the field is shown as yes or no rather than as a number. -/
def isFlag (field : Field) : Bool :=
  match field.slice with
  | .flag .. => true
  | _ => false

/-- A value of the field as it is shown. -/
def display (field : Field) (value : Nat) : String :=
  if field.isFlag then if value = 0 then "No" else "Yes" else Text.decimal value

end Field

end FrameStatus
