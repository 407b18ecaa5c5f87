import FrameStatus.LogRecord
import FrameStatus.StatusVector

/-!
# Decoding a dump

The vector that a dump holds, whatever its layout, with the record that is logged when there is
one.
-/

namespace FrameStatus

/-- The vector that a dump holds. Its kind follows from the number of digits. -/
def decode (raw : String) : Except DecodeError StatusVector :=
  StatusVector.ofHex (HexDump.normalize raw.toList)

/-- The vector that a dump holds, if it is of the given kind. -/
def decodeAs (kind : Kind) (raw : String) : Except DecodeError StatusVector :=
  match decode raw with
  | .error e => .error e
  | .ok vector =>
      if vector.kind = kind then .ok vector else .error (.kindMismatch kind vector.kind)

/-- The record of a vector found in the given form. -/
def decodingRecord (vector : StatusVector) (form : String) : LogRecord :=
  ⟨.trace, .decoder, "Decoding " ++ vector.kind.title ++ " from " ++ form⟩

/-- What decoding a dump logs: the normalized text, if it is a vector of any kind. -/
def decodeRecords (raw : String) : List LogRecord :=
  match decode raw with
  | .error _ => []
  | .ok vector =>
      [decodingRecord vector (Text.quoteText (String.ofList (HexDump.normalize raw.toList)))]

/-- What reading bytes logs: the bytes, if they are a vector. -/
def ofBytesRecords (bytes : List UInt8) : List LogRecord :=
  match StatusVector.ofBytes bytes with
  | .error _ => []
  | .ok vector =>
      [decodingRecord vector
        ("[" ++ ", ".intercalate (bytes.map fun byte => String.ofList (Text.hexByte byte)) ++ "]")]

end FrameStatus
