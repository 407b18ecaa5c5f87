import FrameStatus.Field.Table

/-!
# Decoded fields

A reading is a field together with the value that a vector has in it. The fields of a vector are
read in table order, and a vector is healthy when no reading is judged an error.
-/

namespace FrameStatus

/-- The value of a field in some vector. -/
structure Reading where
  field : Field
  value : Nat
  deriving DecidableEq, Repr

namespace Reading

/-- What the value says about the frame. -/
def verdict (reading : Reading) : Verdict :=
  reading.field.rule.judge reading.value

/-- The value as it is shown. -/
def display (reading : Reading) : String :=
  reading.field.display reading.value

/-- Name and value in one line. -/
def summary (reading : Reading) : String :=
  reading.field.name ++ ": " ++ reading.display

end Reading

/-- The reading of a field, where the vector has all its digits. -/
def Field.read? (vector : StatusVector) (field : Field) : Option Reading :=
  (field.slice.read? vector).map (⟨field, ·⟩)

namespace StatusVector

/-- The readings of all fields, in table order. -/
def readings (vector : StatusVector) : List Reading :=
  vector.kind.fields.filterMap (Field.read? vector)

/-- The reading of the first field of this name. -/
def reading? (vector : StatusVector) (name : String) : Option Reading :=
  vector.readings.find? (·.field.name == name)

/-- The readings that are judged errors. -/
def errors (vector : StatusVector) : List Reading :=
  vector.readings.filter (·.verdict == .error)

/-- Whether no reading is judged an error. -/
def isHealthy (vector : StatusVector) : Bool :=
  vector.errors.isEmpty

/-- Every field of the table has a reading. -/
theorem map_field_readings (vector : StatusVector) :
    vector.readings.map Reading.field = vector.kind.fields := by
  have hread : ∀ fields : List Field,
      (∀ field ∈ fields, field.slice.lastDigit < vector.kind.hexLength) →
      (fields.filterMap (Field.read? vector)).map Reading.field = fields := by
    intro fields
    induction fields with
    | nil => intro _; rfl
    | cons field rest ih =>
        intro hfits
        obtain ⟨value, hvalue⟩ := Option.isSome_iff_exists.mp
          (Slice.isSome_read?_of_lastDigit_lt (hfits field (by simp)))
        have hrest := ih fun f hf => hfits f (by simp [hf])
        simp [Field.read?, hvalue, hrest]
  exact hread _ fun _ hmem => Kind.lastDigit_lt_of_mem_fields hmem

end StatusVector

end FrameStatus
