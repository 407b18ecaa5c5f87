import FrameStatus.IoError

/-!
# Sources of a debug log

A source is what its reads give, one after the other. A read that gives no bytes is the end, and
so is the end of the list.
-/

namespace FrameStatus.DebugLog

/-- What one read of a source gives. -/
inductive ReadResult where
  | bytes (data : List UInt8)
  | failed (error : IoError)
  deriving DecidableEq, Repr

/-- The greatest number of bytes that a read asks for. -/
def readLength : Nat := 512

/-- Cuts data into pieces of at most `length` bytes, all but the last of just this length. -/
def pieces (length : Nat) (data : List UInt8) : List (List UInt8) :=
  if data.length ≤ length ∨ length = 0 then [data]
  else data.take length :: pieces length (data.drop length)
termination_by data.length
decreasing_by
  simp only [List.length_drop]
  omega

/-- The reads that a source gives which hands out at most `readLength` bytes at a time, and none of
the next piece of data before all of this one. -/
def reads (source : List ReadResult) : List ReadResult :=
  source.flatMap fun
    | .bytes data => (pieces readLength data).map .bytes
    | .failed error => [.failed error]

/-- The number of bytes that the reads give together. -/
def byteCount : List ReadResult → Nat
  | [] => 0
  | .bytes data :: rest => data.length + byteCount rest
  | .failed _ :: rest => byteCount rest

end FrameStatus.DebugLog
