import FrameStatus.Json.Printer
import FrameStatus.Reading

/-!
# Vectors as documents

The JSON values of readings and vectors.
-/

namespace FrameStatus

/-- The document of a reading. -/
def Reading.toJson (reading : Reading) : Json :=
  .object [
    ("name", .string reading.field.name),
    ("first_bit", .number reading.field.slice.bits.first.toNat),
    ("last_bit", .number reading.field.slice.bits.last.toNat),
    ("value", .number reading.value),
    ("display", .string reading.display),
    ("classification", .string reading.verdict.key),
    ("description", .string reading.field.description)]

/-- The document of a vector. -/
def StatusVector.toJson (vector : StatusVector) : Json :=
  .object [
    ("kind", .string vector.kind.key),
    ("hex", .string vector.hex),
    ("healthy", .bool vector.isHealthy),
    ("fields", .array (vector.readings.map Reading.toJson))]

end FrameStatus
