import FrameStatus.DebugLog.Session
import FrameStatus.Proofs.DebugLog.Scanning

/-!
# Interrupted reads

A poll that gave nothing gives nothing again, and leaves everything as it is, until more bytes
arrive. So a read that is merely tried again does not show in a scan: sources that differ in such
reads, or in what they would give after they stopped, are scanned alike, request by request.
-/

namespace FrameStatus.DebugLog

namespace Cursor

variable {cursor next : Cursor} {buffer rest : List UInt8} {records : List LogRecord}

/-! ## Polling again -/

/-- A search that found nothing ends with all that is left as the searched start of a line. -/
theorem takeLines_of_nothing {seen fresh : List UInt8}
    (h : cursor.takeLines seen fresh = ⟨.nothing, next, rest, records⟩) :
    next.searched = rest.length ∧ next.takeLines rest.reverse [] = ⟨.nothing, next, rest, []⟩ := by
  induction fresh generalizing cursor seen records with
  | nil =>
      unfold takeLines at h
      split at h
      · cases h
      next hfits =>
        cases h
        refine ⟨List.length_reverse.symm, ?_⟩
        rw [List.reverse_reverse, takeLines, if_neg hfits]
  | cons byte fresh ih =>
      unfold takeLines at h
      split at h
      · split at h
        · cases h
        · split at h
          · cases h
          · rcases hlater : cursor.nextLine.takeLines [] fresh with ⟨outcome, last, left, logged⟩
            rw [hlater] at h
            cases h
            exact ih hlater
      · exact ih h

/-- A poll that gave nothing gives nothing again, and changes nothing. -/
theorem poll_of_nothing (h : cursor.poll .reading buffer = ⟨.nothing, next, rest, records⟩) :
    next.poll .reading rest = ⟨.nothing, next, rest, []⟩ := by
  have hlines : cursor.pollLines buffer = ⟨.nothing, next, rest, records⟩ := h
  show next.pollLines rest = _
  unfold pollLines at hlines
  split at hlines
  · obtain ⟨hsearched, hagain⟩ := takeLines_of_nothing hlines
    rw [pollLines, hsearched, if_pos (Nat.le_refl _), List.take_length, List.drop_length, hagain]
  · cases hlines

theorem performAll_of_nothing
    (h : cursor.poll .reading buffer = ⟨.nothing, next, rest, records⟩) (count : Nat) :
    Session.performAll ⟨next, rest⟩ (List.replicate count (.poll .reading)) =
      List.replicate count ⟨[.nothing], ⟨next, rest⟩, []⟩ := by
  have hagain := poll_of_nothing h
  induction count with
  | zero => rfl
  | succ count ih =>
      rw [List.replicate_succ, Session.performAll, Session.perform, hagain]
      exact congrArg _ ih

end Cursor

/-! ## Sources that are read alike -/

/-- Two sources give the same until they stop, apart from interrupted reads of the second. -/
inductive ReadAlike : List ReadResult → List ReadResult → Prop
  | exhausted : ReadAlike [] []
  | ended (later others : List ReadResult) :
      ReadAlike (.bytes [] :: later) (.bytes [] :: others)
  | failed {error : IoError} (hlasting : error.isInterrupted = false)
      (later others : List ReadResult) :
      ReadAlike (.failed error :: later) (.failed error :: others)
  | read (read : ReadResult) {later others : List ReadResult} (hlater : ReadAlike later others) :
      ReadAlike (read :: later) (read :: others)
  | interrupted {error : IoError} (hinterrupted : error.isInterrupted = true)
      {reads others : List ReadResult} (hreads : ReadAlike reads others) :
      ReadAlike reads (.failed error :: others)

/-- The second source is the first with interrupted reads put in anywhere. -/
inductive Interrupts : List ReadResult → List ReadResult → Prop
  | nil : Interrupts [] []
  | read (read : ReadResult) {later others : List ReadResult} (hlater : Interrupts later others) :
      Interrupts (read :: later) (read :: others)
  | interruption {error : IoError} (hinterrupted : error.isInterrupted = true)
      {reads others : List ReadResult} (hreads : Interrupts reads others) :
      Interrupts reads (.failed error :: others)

theorem Interrupts.readAlike {reads others : List ReadResult} (h : Interrupts reads others) :
    ReadAlike reads others := by
  induction h with
  | nil => exact .exhausted
  | read read _ ih => exact .read read ih
  | interruption hinterrupted _ ih => exact .interrupted hinterrupted ih

namespace Scanner

/-- Two scanners stand at the same place, and what they still read is alike. -/
structure Alike (scanner other : Scanner) : Prop where
  cursor_eq : other.cursor = scanner.cursor
  buffer_eq : other.buffer = scanner.buffer
  stage_eq : other.stage = scanner.stage
  finished_eq : other.finished = scanner.finished
  /-- Only a scanner that is going on and has not met the end reads again. -/
  reads_alike : scanner.finished = false → scanner.stage = .reading →
    ReadAlike scanner.reads other.reads

end Scanner

/-- Two turns hand out and log the same, and leave scanners that are alike. -/
structure Turn.Alike (turn other : Turn) : Prop where
  item_eq : other.item? = turn.item?
  records_eq : other.records = turn.records
  scanner_alike : turn.scanner.Alike other.scanner

theorem Turn.Alike.after {turn other : Turn} (h : turn.Alike other) (records : List LogRecord) :
    (turn.after records).Alike (other.after records) :=
  ⟨h.item_eq, congrArg (records ++ ·) h.records_eq, h.scanner_alike⟩

namespace Scanner

theorem turn_alike {stage : Stage} {reads others : List ReadResult}
    (h : stage = .reading → ReadAlike reads others) (step : Step) :
    (turn stage reads step).Alike (turn stage others step) := by
  obtain ⟨outcome, cursor, rest, records⟩ := step
  cases outcome <;> exact ⟨rfl, rfl, ⟨rfl, rfl, rfl, rfl, fun _ => h⟩⟩

/-- At the end of a source no read is made any more. -/
theorem turn_ended_alike (reads others : List ReadResult) (step : Step) :
    (turn .ended reads step).Alike (turn .ended others step) :=
  turn_alike (fun hreading : Stage.ended = .reading => nomatch hreading) step

section

variable {cursor next : Cursor} {buffer rest : List UInt8} {records : List LogRecord}

/-- Where a poll gives nothing, the next read decides. -/
theorem pull_of_nothing (h : cursor.poll .reading buffer = ⟨.nothing, next, rest, records⟩)
    (reads : List ReadResult) :
    pull cursor buffer reads =
      match reads with
      | [] => (turn .ended [] (next.poll .ended rest)).after records
      | .bytes [] :: later => (turn .ended later (next.poll .ended rest)).after records
      | .bytes data :: later => (pull next (rest ++ data) later).after records
      | .failed error :: later =>
          if error.isInterrupted then (pull next rest later).after records
          else ⟨some (.error (.io error)), ⟨next, rest, later, .reading, true⟩, records⟩ := by
  have hpull := pull.eq_def cursor buffer reads
  rw [h] at hpull
  exact hpull

theorem pull_of_not_nothing (h : (cursor.poll .reading buffer).outcome ≠ .nothing)
    (reads : List ReadResult) :
    pull cursor buffer reads = turn .reading reads (cursor.poll .reading buffer) := by
  rw [pull.eq_def]
  split
  next hpoll => exact absurd (congrArg Step.outcome hpoll) h
  next => rfl

/-- The read that is tried again finds the buffer as the poll before it left it. -/
theorem pull_interrupted (h : cursor.poll .reading buffer = ⟨.nothing, next, rest, records⟩)
    (reads : List ReadResult) :
    pull cursor buffer reads = (pull next rest reads).after records := by
  apply pull_eq_after
  rw [h, Cursor.poll_of_nothing h, Step.after, List.append_nil]

end

/-- As long as a poll gives something, no read is made. -/
theorem pull_alike_of_nothing {reads others : List ReadResult} (h : ReadAlike reads others)
    {cursor : Cursor} {buffer : List UInt8}
    (hnothing : ∀ next rest records,
      cursor.poll .reading buffer = ⟨.nothing, next, rest, records⟩ →
      (pull cursor buffer reads).Alike (pull cursor buffer others)) :
    (pull cursor buffer reads).Alike (pull cursor buffer others) := by
  by_cases houtcome : (cursor.poll .reading buffer).outcome = .nothing
  · rcases hpoll : cursor.poll .reading buffer with ⟨outcome, next, rest, records⟩
    rw [hpoll] at houtcome
    exact hnothing next rest records (houtcome ▸ hpoll)
  · rw [pull_of_not_nothing houtcome, pull_of_not_nothing houtcome]
    exact turn_alike (fun _ => h) _

/-- Requests are alike where the sources are. -/
theorem pull_alike {reads others : List ReadResult} (h : ReadAlike reads others)
    (cursor : Cursor) (buffer : List UInt8) :
    (pull cursor buffer reads).Alike (pull cursor buffer others) := by
  induction h generalizing cursor buffer with
  | exhausted =>
      refine pull_alike_of_nothing .exhausted fun next rest records hpoll => ?_
      rw [pull_of_nothing hpoll]
      exact (turn_ended_alike _ _ _).after records
  | ended later others =>
      refine pull_alike_of_nothing (.ended later others) fun next rest records hpoll => ?_
      rw [pull_of_nothing hpoll, pull_of_nothing hpoll]
      exact (turn_ended_alike _ _ _).after records
  | @failed error hlasting later others =>
      refine pull_alike_of_nothing (.failed hlasting later others) fun next rest records hpoll => ?_
      rw [pull_of_nothing hpoll, pull_of_nothing hpoll]
      simp only [hlasting, Bool.false_eq_true, ↓reduceIte]
      exact ⟨rfl, rfl, ⟨rfl, rfl, rfl, rfl, nofun⟩⟩
  | read read hlater ih =>
      refine pull_alike_of_nothing (.read read hlater) fun next rest records hpoll => ?_
      rw [pull_of_nothing hpoll, pull_of_nothing hpoll]
      match read with
      | .bytes [] => exact (turn_ended_alike _ _ _).after records
      | .bytes (byte :: data) => exact (ih next (rest ++ byte :: data)).after records
      | .failed error =>
          by_cases hinterrupted : error.isInterrupted = true
          · simp only [hinterrupted, ↓reduceIte]
            exact (ih next rest).after records
          · simp only [hinterrupted, Bool.false_eq_true, ↓reduceIte]
            exact ⟨rfl, rfl, ⟨rfl, rfl, rfl, rfl, nofun⟩⟩
  | @interrupted error hinterrupted reads others hreads ih =>
      refine pull_alike_of_nothing (.interrupted hinterrupted hreads)
        fun next rest records hpoll => ?_
      rw [pull_interrupted hpoll reads, pull_of_nothing hpoll]
      simp only [hinterrupted, ↓reduceIte]
      exact (ih next rest).after records

theorem Alike.next {scanner other : Scanner} (h : scanner.Alike other) :
    scanner.next.Alike other.next := by
  by_cases hfinished : scanner.finished = true
  · rw [next_of_finished hfinished, next_of_finished (h.finished_eq.trans hfinished)]
    exact ⟨rfl, rfl, h⟩
  · have hgoing : scanner.finished = false := Bool.eq_false_iff.mpr hfinished
    unfold Scanner.next
    rw [h.finished_eq, h.stage_eq, h.cursor_eq, h.buffer_eq, if_neg hfinished, if_neg hfinished]
    cases hstage : scanner.stage with
    | reading => exact pull_alike (h.reads_alike hgoing hstage) scanner.cursor scanner.buffer
    | ended => exact turn_ended_alike _ _ _

/-- Scanners that are alike stay so, however often they are asked. -/
theorem Alike.afterRequests {scanner other : Scanner} (h : scanner.Alike other) (count : Nat) :
    (scanner.afterRequests count).Alike (other.afterRequests count) := by
  induction count generalizing scanner other with
  | zero => exact h
  | succ count ih => exact ih h.next.scanner_alike

theorem Alike.run_eq {scanner other : Scanner} (h : scanner.Alike other) :
    other.run.items = scanner.run.items ∧ other.run.records = scanner.run.records := by
  induction scanner using run.induct generalizing other with
  | case1 scanner item later records hnext ih =>
      have hturn := h.next
      rw [run_eq_continued scanner, run_eq_continued other, Turn.continued, Turn.continued,
        hturn.item_eq, hturn.records_eq]
      rw [hnext] at hturn ⊢
      obtain ⟨hitems, hrecords⟩ := ih hturn.scanner_alike
      exact ⟨congrArg (item :: ·) hitems, congrArg (records ++ ·) hrecords⟩
  | case2 scanner later records hnext =>
      have hturn := h.next
      rw [run_eq_continued scanner, run_eq_continued other, Turn.continued, Turn.continued,
        hturn.item_eq, hturn.records_eq, hnext]
      exact ⟨rfl, rfl⟩

theorem start_alike {reads others : List ReadResult} (h : ReadAlike reads others)
    (cursor : Cursor) : (start cursor reads).Alike (start cursor others) :=
  ⟨rfl, rfl, rfl, rfl, fun _ _ => h⟩

/-- Interrupted reads do not show, wherever they stand: each request gives the same item, logs the
same and leaves the same cursor and buffer, and so do all together. For a poll that gave nothing
may be repeated as often as one likes: it gives nothing, logs nothing and changes nothing. -/
theorem interruptions_invisible :
    (∀ (cursor next : Cursor) (buffer rest : List UInt8) (records : List LogRecord),
      cursor.poll .reading buffer = ⟨.nothing, next, rest, records⟩ →
      ∀ count, Session.performAll ⟨next, rest⟩ (List.replicate count (.poll .reading)) =
        List.replicate count ⟨[.nothing], ⟨next, rest⟩, []⟩) ∧
    ∀ (cursor : Cursor) (reads interrupted : List ReadResult), Interrupts reads interrupted →
      (start cursor interrupted).run.items = (start cursor reads).run.items ∧
      (start cursor interrupted).run.records = (start cursor reads).run.records ∧
      ∀ count,
        let scanner := (start cursor reads).afterRequests count
        let other := (start cursor interrupted).afterRequests count
        other.cursor = scanner.cursor ∧ other.buffer = scanner.buffer ∧
          other.next.item? = scanner.next.item? ∧
          other.next.records = scanner.next.records := by
  refine ⟨fun _ _ _ _ _ => Cursor.performAll_of_nothing, ?_⟩
  intro cursor reads interrupted hinterrupts
  have halike := start_alike hinterrupts.readAlike cursor
  obtain ⟨hitems, hrecords⟩ := halike.run_eq
  refine ⟨hitems, hrecords, fun count => ?_⟩
  have hplace := halike.afterRequests count
  exact ⟨hplace.cursor_eq, hplace.buffer_eq, hplace.next.item_eq, hplace.next.records_eq⟩

/-- Reads that are interrupted before the first bytes, within a line, before a line grows too long,
and before the end. -/
theorem interruptions_invisible_before_overlong :
    let signal : ReadResult := .failed (.system 4 .interrupted "Interrupted system call")
    let first : ReadResult := .bytes "Receive Status Vec".toUTF8.toList
    let second : ReadResult := .bytes "tor: 3c 00 80 02
Receive Status Vector: 3c ".toUTF8.toList
    let third : ReadResult := .bytes "00 80 02 3c 00 80 02 3c".toUTF8.toList
    let reads := [first, second, third, .bytes []]
    let interrupted := [signal, signal, first, signal, second, signal, third, signal, .bytes []]
    let pending := "Receive Status Vec".toUTF8.toList
    Interrupts reads interrupted ∧
      Cursor.poll .reading {} pending = ⟨.nothing, { searched := 18 }, pending, []⟩ ∧
      Session.performAll ⟨{ searched := 18 }, pending⟩ (List.replicate 2 (.poll .reading)) =
        List.replicate 2 ⟨[.nothing], ⟨{ searched := 18 }, pending⟩, []⟩ ∧
      (start { limit := 40 } interrupted).next.item? =
        some (.ok ⟨1, .receive, .ok ⟨.receive, [0x3c, 0, 0x80, 2], rfl⟩⟩) ∧
      ((start { limit := 40 } interrupted).afterRequests 1).next.item? =
        some (.error (.lineTooLong 40 49)) := by
  intro signal first second third reads interrupted pending
  have hsignal : (IoError.system 4 .interrupted "Interrupted system call").isInterrupted = true :=
    rfl
  have hinterrupts : Interrupts reads interrupted :=
    .interruption hsignal (.interruption hsignal (.read first (.interruption hsignal (.read second
      (.interruption hsignal (.read third (.interruption hsignal (.read (.bytes []) .nil))))))))
  have hpoll : Cursor.poll .reading {} pending = ⟨.nothing, { searched := 18 }, pending, []⟩ := by
    decide +kernel
  obtain ⟨hstable, hinvisible⟩ := interruptions_invisible
  obtain ⟨-, -, hrequests⟩ := hinvisible { limit := 40 } reads interrupted hinterrupts
  refine ⟨hinterrupts, hpoll, hstable _ _ _ _ _ hpoll 2, ?_, ?_⟩
  · refine (hrequests 0).2.2.1.trans ?_
    decide +kernel
  · refine (hrequests 1).2.2.1.trans ?_
    decide +kernel

end Scanner

end FrameStatus.DebugLog
