import FrameStatus.DebugLog.Cursor

/-!
# Sessions

The owner of a buffer and a cursor may do more than append and poll: cut the buffer, or change the
limit half way. A session is the two together, and its operations are all that an owner can do.
-/

namespace FrameStatus.DebugLog

/-- A cursor and the buffer that it takes lines from. -/
structure Session where
  cursor : Cursor := {}
  buffer : List UInt8 := []
  deriving DecidableEq, Repr

/-- What the owner of a session can do. -/
inductive Operation where
  /-- Append bytes to the buffer. -/
  | push (data : List UInt8)
  /-- Cut the buffer to at most this many bytes. The cursor is not told. -/
  | cut (length : Nat)
  /-- Set the limit on the length of a line. -/
  | setLimit (limit : Nat)
  /-- Poll once. -/
  | poll (stage : Stage)
  /-- Poll until a poll gives no vector. -/
  | drain (stage : Stage)
  deriving DecidableEq, Repr

/-- What an operation gives: the outcomes of its polls, the session after it, and what it logs. -/
structure Response where
  outcomes : List Outcome
  session : Session
  records : List LogRecord
  deriving DecidableEq, Repr

namespace Session

/-- Performs one operation. -/
def perform (session : Session) : Operation → Response
  | .push data => ⟨[], { session with buffer := session.buffer ++ data }, []⟩
  | .cut length => ⟨[], { session with buffer := session.buffer.take length }, []⟩
  | .setLimit limit =>
      ⟨[], { session with cursor := { session.cursor with limit := limit } }, []⟩
  | .poll stage =>
      let step := session.cursor.poll stage session.buffer
      ⟨[step.outcome], ⟨step.cursor, step.rest⟩, step.records⟩
  | .drain stage =>
      let drained := session.cursor.drain stage session.buffer
      ⟨drained.found.map .found ++ [drained.last.outcome],
        ⟨drained.last.cursor, drained.last.rest⟩, drained.records⟩

/-- Performs operations one after the other. -/
def performAll (session : Session) : List Operation → List Response
  | [] => []
  | operation :: rest =>
      let response := session.perform operation
      response :: response.session.performAll rest

end Session

end FrameStatus.DebugLog
