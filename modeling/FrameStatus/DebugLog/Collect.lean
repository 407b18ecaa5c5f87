import FrameStatus.DebugLog.Cursor
import FrameStatus.DebugLog.Source

/-!
# Collecting a debug log

All vectors of a source at once, or the first error. Every buffer is emptied of vectors before more
is read, and no failed read is tried again.
-/

namespace FrameStatus.DebugLog

/-- The vectors of a source, or the error that stopped the reading, and what was logged. -/
structure Collected where
  outcome : Except ScanError (List LoggedVector)
  records : List LogRecord

/-- The same collection with vectors in front, after others that logged something. -/
def Collected.after (drained : Cursor.Drained) (collected : Collected) : Collected :=
  ⟨collected.outcome.map (drained.found ++ ·), drained.records ++ collected.records⟩

/-- What draining gives by itself: its vectors, unless it ended in an error. -/
def Cursor.Drained.collected (drained : Cursor.Drained) : Collected :=
  match drained.last.outcome with
  | .failed error => ⟨.error error, drained.records⟩
  | _ => ⟨.ok drained.found, drained.records⟩

/-- Reads to the end and collects every vector. -/
def collect (cursor : Cursor) (buffer : List UInt8) (reads : List ReadResult) : Collected :=
  let drained := cursor.drain .reading buffer
  match drained.last with
  | ⟨.nothing, next, rest, _⟩ =>
      match reads with
      | [] | .bytes [] :: _ => (next.drain .ended rest).collected.after drained
      | .bytes data :: later => (collect next (rest ++ data) later).after drained
      | .failed error :: _ => ⟨.error (.io error), drained.records⟩
  | _ => drained.collected

end FrameStatus.DebugLog
