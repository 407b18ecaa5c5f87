import FrameStatus.DebugLog.Cursor
import FrameStatus.DebugLog.Source

/-!
# Scanning a debug log

A scanner reads a source and hands out the vectors in it one at a time. It reads only when its
buffer holds no further vector, tries an interrupted read again, and stops for good at the first
error or when the source has ended and nothing is left.
-/

namespace FrameStatus.DebugLog

/-- A scanner between two items. -/
structure Scanner where
  cursor : Cursor
  buffer : List UInt8
  /-- What the reads still to be made will give. -/
  reads : List ReadResult
  stage : Stage
  /-- Whether an error or the end was already handed out. -/
  finished : Bool
  deriving DecidableEq, Repr

/-- What a scanner hands out. -/
abbrev Item := Except ScanError LoggedVector

/-- One request for an item: the item if there is one, the scanner after it, and what it logs. -/
structure Turn where
  item? : Option Item
  scanner : Scanner
  records : List LogRecord
  deriving DecidableEq, Repr

/-- The same turn after others that logged something. -/
def Turn.after (records : List LogRecord) (turn : Turn) : Turn :=
  { turn with records := records ++ turn.records }

namespace Scanner

/-- A scanner at the start of a source. -/
def start (cursor : Cursor) (reads : List ReadResult) : Scanner :=
  ⟨cursor, [], reads, .reading, false⟩

/-- The turn that ends with a poll: a vector leaves the scanner going, all else finishes it. -/
def turn (stage : Stage) (reads : List ReadResult) : Step → Turn
  | ⟨.found vector, cursor, rest, records⟩ =>
      ⟨some (.ok vector), ⟨cursor, rest, reads, stage, false⟩, records⟩
  | ⟨.failed error, cursor, rest, records⟩ =>
      ⟨some (.error error), ⟨cursor, rest, reads, stage, true⟩, records⟩
  | ⟨_, cursor, rest, records⟩ => ⟨none, ⟨cursor, rest, reads, stage, true⟩, records⟩

/-- Polls the buffer, and reads on as long as it gives nothing. -/
def pull (cursor : Cursor) (buffer : List UInt8) (reads : List ReadResult) : Turn :=
  match cursor.poll .reading buffer with
  | ⟨.nothing, next, rest, records⟩ =>
      match reads with
      | [] => (turn .ended [] (next.poll .ended rest)).after records
      | .bytes [] :: later => (turn .ended later (next.poll .ended rest)).after records
      | .bytes data :: later => (pull next (rest ++ data) later).after records
      | .failed error :: later =>
          if error.isInterrupted then (pull next rest later).after records
          else ⟨some (.error (.io error)), ⟨next, rest, later, .reading, true⟩, records⟩
  | step => turn .reading reads step

/-- The next item of a scanner. -/
def next (scanner : Scanner) : Turn :=
  if scanner.finished then ⟨none, scanner, []⟩
  else
    match scanner.stage with
    | .reading => pull scanner.cursor scanner.buffer scanner.reads
    | .ended => turn .ended scanner.reads (scanner.cursor.poll .ended scanner.buffer)

/-! ## Every item brings the end nearer -/

/-- A bound on the number of items still to come. -/
def remaining (scanner : Scanner) : Nat :=
  if scanner.finished then 0 else scanner.buffer.length + byteCount scanner.reads + 1

theorem remaining_turn_lt {stage : Stage} {reads : List ReadResult} {step : Step} {bound : Nat}
    {item : Item} (hfound : ∀ vector, step.outcome = .found vector → step.rest.length < bound)
    (h : (turn stage reads step).item? = some item) :
    (turn stage reads step).scanner.remaining < bound + byteCount reads + 1 := by
  unfold turn at h ⊢
  split
  next vector cursor rest records =>
    have := hfound vector rfl
    simp only at this
    simp only [remaining, Bool.false_eq_true, ↓reduceIte]
    omega
  next => simp [remaining]
  next => simp [remaining]

theorem remaining_pull_lt {cursor : Cursor} {buffer : List UInt8} {reads : List ReadResult}
    {item : Item} (h : (pull cursor buffer reads).item? = some item) :
    (pull cursor buffer reads).scanner.remaining < buffer.length + byteCount reads + 1 := by
  induction reads generalizing cursor buffer with
  | nil =>
      have hpoll := Cursor.length_rest_poll .reading cursor buffer
      unfold pull at h ⊢
      split at h
      next next rest records hstep =>
        simp only [hstep] at hpoll
        simp only [Turn.after] at h ⊢
        have hlast := remaining_turn_lt (Cursor.length_rest_poll .ended next rest).2 h
        omega
      next => exact remaining_turn_lt hpoll.2 h
  | cons read later ih =>
      have hpoll := Cursor.length_rest_poll .reading cursor buffer
      unfold pull at h ⊢
      split at h
      next next rest records hstep =>
        simp only [hstep] at hpoll
        match read with
        | .bytes [] =>
            simp only [Turn.after] at h ⊢
            have hlast := remaining_turn_lt (Cursor.length_rest_poll .ended next rest).2 h
            simp only [byteCount, List.length_nil]
            omega
        | .bytes (byte :: tail) =>
            simp only [Turn.after] at h ⊢
            have hlater := ih h
            simp only [List.length_append, List.length_cons] at hlater
            simp only [byteCount, List.length_cons]
            omega
        | .failed error =>
            simp only at h ⊢
            split at h
            next hinterrupted =>
              simp only [hinterrupted, ↓reduceIte, Turn.after] at h ⊢
              have hlater := ih h
              simp only [byteCount]
              omega
            next hfailed => simp [hfailed, remaining]
      next => exact remaining_turn_lt hpoll.2 h

/-- Handing out an item brings the end nearer. -/
theorem remaining_next_lt {scanner : Scanner} {item : Item} (h : scanner.next.item? = some item) :
    scanner.next.scanner.remaining < scanner.remaining := by
  unfold next at h ⊢
  split at h
  next => cases h
  next hgoing =>
    simp only [hgoing, Bool.false_eq_true, ↓reduceIte, remaining.eq_1 scanner] at h ⊢
    split at h
    next => exact remaining_pull_lt h
    next => exact remaining_turn_lt (Cursor.length_rest_poll .ended _ _).2 h

/-- All items of a scanner, the scanner after the last of them, and what they log. -/
structure Scanned where
  items : List Item
  scanner : Scanner
  records : List LogRecord

/-- All vectors, unless an item is an error. -/
def Scanned.outcome (scanned : Scanned) : Except ScanError (List LoggedVector) :=
  scanned.items.mapM id

/-- Asks for items until there is none. -/
def run (scanner : Scanner) : Scanned :=
  match _h : scanner.next with
  | ⟨some item, later, records⟩ =>
      let more := later.run
      ⟨item :: more.items, more.scanner, records ++ more.records⟩
  | ⟨none, later, records⟩ => ⟨[], later, records⟩
termination_by scanner.remaining
decreasing_by
  have hless := remaining_next_lt (congrArg Turn.item? _h)
  rwa [_h] at hless

end Scanner

end FrameStatus.DebugLog
