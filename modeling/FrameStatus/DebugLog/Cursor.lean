import FrameStatus.DebugLog.Line
import FrameStatus.DebugLog.ScanError

/-!
# Taking lines from a buffer

Bytes of a debug log arrive in a buffer that its owner appends to. A cursor takes complete lines
from the front of that buffer, counts them, and remembers how far an unfinished line has been
searched for its end. A poll ends at the first line with a vector, at the first overlong line, or
where the buffer holds no further line.
-/

namespace FrameStatus.DebugLog

/-- The byte that ends a line. -/
def newline : UInt8 := 10

/-- The length of a line without the carriage return it may end in. The line is given backwards. -/
def contentLength (reversed : List UInt8) : Nat :=
  match reversed with
  | 13 :: rest => rest.length
  | line => line.length

/-- The limit on the length of a line where none is set. -/
def defaultLimit : Nat := 1024

/-- Where the reader of a debug log stands. -/
structure Cursor where
  /-- The greatest length of a line, its ending not counted. -/
  limit : Nat := defaultLimit
  /-- The number of lines taken so far. -/
  lines : Nat := 0
  /-- The number of bytes at the front of the buffer that are known to end no line. -/
  searched : Nat := 0
  deriving DecidableEq, Repr

/-- Whether more bytes may still arrive. -/
inductive Stage where
  | reading
  | ended
  deriving DecidableEq, Repr

/-- What a poll gives. -/
inductive Outcome where
  | found (vector : LoggedVector)
  /-- No further vector can be had from the buffer as it is. -/
  | nothing
  | failed (error : ScanError)
  /-- The buffer is shorter than the part already searched: its owner has cut it. -/
  | outOfStep
  deriving DecidableEq, Repr

/-- A poll: what it gives, the cursor after it, the bytes it leaves, and what it logs. -/
structure Step where
  outcome : Outcome
  cursor : Cursor
  rest : List UInt8
  records : List LogRecord
  deriving DecidableEq, Repr

/-- The same step after others that logged something. -/
def Step.after (records : List LogRecord) (step : Step) : Step :=
  { step with records := records ++ step.records }

namespace Cursor

/-- The cursor after one more line. -/
def nextLine (cursor : Cursor) : Cursor :=
  { cursor with lines := cursor.lines + 1, searched := 0 }

/-- Takes lines from `fresh`, where `seen` is the start of the first one, backwards. -/
def takeLines (cursor : Cursor) (seen : List UInt8) : List UInt8 → Step
  | [] =>
      if cursor.limit < contentLength seen then
        ⟨.failed (.lineTooLong cursor.limit (contentLength seen)), cursor, seen.reverse, []⟩
      else ⟨.nothing, { cursor with searched := seen.length }, seen.reverse, []⟩
  | byte :: fresh =>
      if byte = newline then
        if cursor.limit < contentLength seen then
          ⟨.failed (.lineTooLong cursor.limit (contentLength seen)), cursor.nextLine, fresh, []⟩
        else
          match vectorOnLine? cursor.nextLine.lines seen.reverse with
          | some vector =>
              ⟨.found vector, cursor.nextLine, fresh,
                lineRecords cursor.nextLine.lines seen.reverse⟩
          | none =>
              (cursor.nextLine.takeLines [] fresh).after
                (lineRecords cursor.nextLine.lines seen.reverse)
      else cursor.takeLines (byte :: seen) fresh

/-- Takes complete lines from a buffer. -/
def pollLines (cursor : Cursor) (buffer : List UInt8) : Step :=
  if cursor.searched ≤ buffer.length then
    cursor.takeLines (buffer.take cursor.searched).reverse (buffer.drop cursor.searched)
  else ⟨.outOfStep, cursor, buffer, []⟩

/-- Takes all bytes that are left as the last line. -/
def takeTail (cursor : Cursor) (tail : List UInt8) : Step :=
  ⟨match vectorOnLine? cursor.nextLine.lines tail with
    | some vector => .found vector
    | none => .nothing,
    cursor.nextLine, [], lineRecords cursor.nextLine.lines tail⟩

/-- Takes lines from a buffer. Once no more bytes can arrive, an unfinished line is a line too. -/
def poll (stage : Stage) (cursor : Cursor) (buffer : List UInt8) : Step :=
  match stage, cursor.pollLines buffer with
  | .ended, ⟨.nothing, next, byte :: tail, records⟩ => (next.takeTail (byte :: tail)).after records
  | _, step => step

/-! ## What a poll leaves -/

theorem length_rest_takeLines (cursor : Cursor) (seen fresh : List UInt8) :
    (cursor.takeLines seen fresh).rest.length ≤ seen.length + fresh.length ∧
      ∀ vector, (cursor.takeLines seen fresh).outcome = .found vector →
        (cursor.takeLines seen fresh).rest.length < seen.length + fresh.length := by
  induction fresh generalizing cursor seen with
  | nil =>
      unfold takeLines
      split <;> simp
  | cons byte fresh ih =>
      unfold takeLines
      split
      · split
        · simp
          omega
        · split
          · simp
            omega
          · have h := ih cursor.nextLine []
            simp only [Step.after, List.length_nil, List.length_cons] at h ⊢
            exact ⟨by omega, fun vector hvector => by have := h.2 vector hvector; omega⟩
      · have h := ih cursor (byte :: seen)
        simp only [List.length_cons] at h ⊢
        exact ⟨by omega, fun vector hvector => by have := h.2 vector hvector; omega⟩

theorem length_rest_pollLines (cursor : Cursor) (buffer : List UInt8) :
    (cursor.pollLines buffer).rest.length ≤ buffer.length ∧
      ∀ vector, (cursor.pollLines buffer).outcome = .found vector →
        (cursor.pollLines buffer).rest.length < buffer.length := by
  unfold pollLines
  split
  next hsearched =>
    have h := length_rest_takeLines cursor (buffer.take cursor.searched).reverse
      (buffer.drop cursor.searched)
    simp only [List.length_reverse, List.length_take, List.length_drop] at h
    exact ⟨by omega, fun vector hvector => by have := h.2 vector hvector; omega⟩
  next => simp

/-- A poll leaves no more bytes than there were, and a vector takes at least one of them. -/
theorem length_rest_poll (stage : Stage) (cursor : Cursor) (buffer : List UInt8) :
    (cursor.poll stage buffer).rest.length ≤ buffer.length ∧
      ∀ vector, (cursor.poll stage buffer).outcome = .found vector →
        (cursor.poll stage buffer).rest.length < buffer.length := by
  have hlines := length_rest_pollLines cursor buffer
  unfold poll
  split
  next next byte tail records hstep =>
    have hrest := hlines.1
    simp only [hstep, List.length_cons] at hrest
    simp only [takeTail, Step.after, List.length_nil]
    exact ⟨by omega, fun _ _ => by omega⟩
  next => exact hlines

/-- All vectors that polling gives until it gives none, and the step that gave none. -/
structure Drained where
  found : List LoggedVector
  last : Step
  records : List LogRecord

/-- Polls until a poll gives no vector. -/
def drain (stage : Stage) (cursor : Cursor) (buffer : List UInt8) : Drained :=
  let step := cursor.poll stage buffer
  match _h : step.outcome with
  | .found vector =>
      let more := step.cursor.drain stage step.rest
      ⟨vector :: more.found, more.last, step.records ++ more.records⟩
  | _ => ⟨[], step, step.records⟩
termination_by buffer.length
decreasing_by exact (length_rest_poll _ _ _).2 _ _h

end Cursor

end FrameStatus.DebugLog
