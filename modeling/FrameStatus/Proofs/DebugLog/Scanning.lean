import FrameStatus.Proofs.DebugLog.Polling
import FrameStatus.Proofs.DebugLog.Requests

/-!
# What a scan gives

A scan hands out the vectors on the lines of the bytes that its source delivers, and stops at the
first line that is too long or at the end of the source. Only the length that is reported for the
line that is too long depends on how the bytes were cut into reads.
-/

namespace FrameStatus.DebugLog

/-- The bytes that a source delivers until it ends or fails for good. -/
def received : List ReadResult → List UInt8
  | [] => []
  | .bytes [] :: _ => []
  | .bytes data :: later => data ++ received later
  | .failed error :: later => if error.isInterrupted then received later else []

/-- The failure that stops a source, if it does not come to its end. -/
def failure? : List ReadResult → Option IoError
  | [] => none
  | .bytes [] :: _ => none
  | .bytes _ :: later => failure? later
  | .failed error :: later => if error.isInterrupted then failure? later else some error

/-- A scan of bytes behind the first `taken` lines gives these items and logs these records. The
source fails after the bytes, or ends. -/
inductive ScansTo (limit : Nat) :
    Option IoError → Nat → List UInt8 → List Item → List LogRecord → Prop
  | line {failure : Option IoError} {taken : Nat} {line rest : List UInt8} {items : List Item}
      {records : List LogRecord} (hline : newline ∉ line) (hfits : lineLength line ≤ limit)
      (hrest : ScansTo limit failure (taken + 1) rest items records) :
      ScansTo limit failure taken (line ++ newline :: rest)
        ((vectorOnLine? (taken + 1) line).toList.map .ok ++ items)
        (lineRecords (taken + 1) line ++ records)
  /-- The start of a line is already too long. -/
  | overlong {failure : Option IoError} {taken : Nat} {start rest : List UInt8} {length : Nat}
      (hstart : newline ∉ start) (hover : limit < length) (hle : length ≤ lineLength start) :
      ScansTo limit failure taken (start ++ rest) [.error (.lineTooLong limit length)] []
  | failed {error : IoError} {taken : Nat} {tail : List UInt8} (htail : newline ∉ tail)
      (hfits : lineLength tail ≤ limit) :
      ScansTo limit (some error) taken tail [.error (.io error)] []
  | tail {taken : Nat} {tail : List UInt8} (htail : newline ∉ tail)
      (hfits : lineLength tail ≤ limit) (hne : tail ≠ []) :
      ScansTo limit none taken tail ((vectorOnLine? (taken + 1) tail).toList.map .ok)
        (lineRecords (taken + 1) tail)
  | ended {taken : Nat} : ScansTo limit none taken [] [] []

/-- Whatever goes through the lines in a buffer as polls do gives what the bytes tell, if it does
so where no line is left: only a tail meets the source. -/
theorem exists_scansTo_of_tails (reads : List ReadResult)
    (Gives : Cursor → List UInt8 → List Item → List LogRecord → Prop)
    (hline : ∀ {cursor : Cursor} {line rest : List UInt8} {items : List Item}
      {records : List LogRecord}, cursor.InStep (line ++ newline :: rest) → newline ∉ line →
      lineLength line ≤ cursor.limit → Gives cursor.nextLine rest items records →
      Gives cursor (line ++ newline :: rest)
        ((vectorOnLine? (cursor.lines + 1) line).toList.map .ok ++ items)
        (lineRecords (cursor.lines + 1) line ++ records))
    (hfailed : ∀ {cursor next : Cursor} {buffer rest : List UInt8} {error : ScanError},
      cursor.poll .reading buffer = ⟨.failed error, next, rest, []⟩ →
      Gives cursor buffer [.error error] [])
    (htails : ∀ {cursor : Cursor} {tail : List UInt8}, cursor.InStep tail → newline ∉ tail →
      lineLength tail ≤ cursor.limit → ∃ items records, Gives cursor tail items records ∧
        ScansTo cursor.limit (failure? reads) cursor.lines (tail ++ received reads) items records)
    {cursor : Cursor} {buffer : List UInt8} (h : cursor.InStep buffer) :
    ∃ items records, Gives cursor buffer items records ∧
      ScansTo cursor.limit (failure? reads) cursor.lines (buffer ++ received reads) items
        records := by
  induction buffer using line_induction generalizing cursor with
  | tail tail htail =>
      by_cases hfits : lineLength tail ≤ cursor.limit
      · exact htails h htail hfits
      · have hover : cursor.limit < lineLength tail := Nat.not_le.mp hfits
        refine ⟨_, _, hfailed (Cursor.poll_overlong_tail h htail hover .reading), ?_⟩
        exact .overlong htail hover (Nat.le_refl _)
  | line line rest hnewline ih =>
      by_cases hfits : lineLength line ≤ cursor.limit
      · obtain ⟨items, records, hgives, hscan⟩ := ih (cursor.inStep_nextLine rest)
        refine ⟨_, _, hline h hnewline hfits hgives, ?_⟩
        rw [List.append_assoc, List.cons_append]
        exact .line hnewline hfits hscan
      · have hover : cursor.limit < lineLength line := Nat.not_le.mp hfits
        refine ⟨_, _, hfailed (Cursor.poll_overlong_line h hnewline hover .reading), ?_⟩
        rw [List.append_assoc]
        exact .overlong hnewline hover (Nat.le_refl _)

namespace Scanner

/-! ## One line at a time -/

theorem pull_eq_after {cursor next : Cursor} {buffer rest : List UInt8} {records : List LogRecord}
    (h : cursor.poll .reading buffer = (next.poll .reading rest).after records)
    (reads : List ReadResult) :
    pull cursor buffer reads = (pull next rest reads).after records := by
  unfold pull
  rw [h]
  obtain ⟨outcome, cursor, rest, more⟩ := next.poll .reading rest
  cases outcome with
  | found vector => rfl
  | failed error => rfl
  | outOfStep => rfl
  | nothing =>
      cases reads with
      | nil => simp [Step.after, Turn.after]
      | cons read later =>
          cases read with
          | bytes data => cases data <;> simp [Step.after, Turn.after]
          | failed error =>
              cases hinterrupted : error.isInterrupted <;>
                simp [Step.after, Turn.after, hinterrupted]

/-- A line within the limit gives its vector and its records, and the scan goes on behind it. -/
theorem continued_pull_line {cursor : Cursor} {line rest : List UInt8}
    (h : cursor.InStep (line ++ newline :: rest)) (hline : newline ∉ line)
    (hfits : lineLength line ≤ cursor.limit) (reads : List ReadResult) :
    (pull cursor (line ++ newline :: rest) reads).continued =
      (pull cursor.nextLine rest reads).continued.behind
        (vectorOnLine? (cursor.lines + 1) line).toList (lineRecords (cursor.lines + 1) line) := by
  have hpoll := Cursor.poll_line h hline hfits .reading
  cases hvector : vectorOnLine? (cursor.lines + 1) line with
  | none =>
      rw [hvector] at hpoll
      rw [pull_eq_after hpoll, Turn.continued_after]
      rfl
  | some vector =>
      rw [hvector] at hpoll
      have hpull : pull cursor (line ++ newline :: rest) reads =
          ⟨some (.ok vector), ⟨cursor.nextLine, rest, reads, .reading, false⟩,
            lineRecords (cursor.lines + 1) line⟩ := by
        unfold pull
        simp only [hpoll, turn]
      have hrun : (Scanner.mk cursor.nextLine rest reads .reading false).run =
          (pull cursor.nextLine rest reads).continued := run_eq_continued _
      rw [hpull, Turn.continued, hrun]
      rfl

theorem continued_pull_of_failed {cursor next : Cursor} {buffer rest : List UInt8}
    {error : ScanError} (h : cursor.pollLines buffer = ⟨.failed error, next, rest, []⟩)
    (reads : List ReadResult) :
    (pull cursor buffer reads).continued =
      ⟨[.error error], ⟨next, rest, reads, .reading, true⟩, []⟩ := by
  have hpull : pull cursor buffer reads =
      ⟨some (.error error), ⟨next, rest, reads, .reading, true⟩, []⟩ := by
    unfold pull
    simp only [Cursor.poll, h, turn]
  rw [hpull, continued_of_finished rfl]
  rfl

theorem run_ended_nil {cursor : Cursor} (h : cursor.InStep []) (reads : List ReadResult) :
    (Scanner.mk cursor [] reads .ended false).run =
      ⟨[], ⟨cursor, [], reads, .ended, true⟩, []⟩ := by
  have hnext : (Scanner.mk cursor [] reads .ended false).next =
      ⟨none, ⟨cursor, [], reads, .ended, true⟩, []⟩ := by
    simp only [next, Cursor.poll_nil h, turn]
    rfl
  rw [run_eq_continued, hnext]
  rfl

/-- At the end of the source, what is left of the buffer is the last line. -/
theorem turn_ended_scansTo {cursor : Cursor} {tail : List UInt8} (h : cursor.InStep tail)
    (htail : newline ∉ tail) (hfits : lineLength tail ≤ cursor.limit) (reads : List ReadResult) :
    ScansTo cursor.limit none cursor.lines tail
      (turn .ended reads (cursor.poll .ended tail)).continued.items
      (turn .ended reads (cursor.poll .ended tail)).continued.records := by
  by_cases hne : tail = []
  · subst hne
    rw [Cursor.poll_nil h]
    exact .ended
  · have hscan : ScansTo cursor.limit none cursor.lines tail _ _ := .tail htail hfits hne
    have hlines : cursor.nextLine.lines = cursor.lines + 1 := rfl
    rw [Cursor.poll_ended_tail h htail hfits hne, Cursor.takeTail, hlines]
    cases hvector : vectorOnLine? (cursor.lines + 1) tail with
    | none =>
        rw [hvector] at hscan
        exact hscan
    | some vector =>
        have hrun := run_ended_nil (cursor.inStep_nextLine []) reads
        rw [hvector] at hscan
        simp only [turn, Turn.continued, hrun, List.append_nil]
        exact hscan

/-! ## All reads -/

/-- The lines in the buffer are taken before the next read, so only what is left of it meets the
source. -/
theorem pull_scansTo_of_tails {reads : List ReadResult}
    (htails : ∀ {cursor : Cursor} {tail : List UInt8}, cursor.InStep tail → newline ∉ tail →
      lineLength tail ≤ cursor.limit →
      ScansTo cursor.limit (failure? reads) cursor.lines (tail ++ received reads)
        (pull cursor tail reads).continued.items (pull cursor tail reads).continued.records)
    {cursor : Cursor} {buffer : List UInt8} (h : cursor.InStep buffer) :
    ScansTo cursor.limit (failure? reads) cursor.lines (buffer ++ received reads)
      (pull cursor buffer reads).continued.items (pull cursor buffer reads).continued.records := by
  obtain ⟨_, _, ⟨rfl, rfl⟩, hscan⟩ := exists_scansTo_of_tails reads
    (fun cursor buffer items records =>
      (pull cursor buffer reads).continued.items = items ∧
        (pull cursor buffer reads).continued.records = records)
    (by
      rintro cursor line rest _ _ h hline hfits ⟨rfl, rfl⟩
      rw [continued_pull_line h hline hfits]
      exact ⟨rfl, rfl⟩)
    (by
      intro cursor next buffer rest error hpoll
      rw [continued_pull_of_failed hpoll]
      exact ⟨rfl, rfl⟩)
    (fun h htail hfits => ⟨_, _, ⟨rfl, rfl⟩, htails h htail hfits⟩) h
  exact hscan

/-- A request and all after it give what the bytes in the buffer and in the source tell, however
these are cut into reads. -/
theorem pull_scansTo {cursor : Cursor} {buffer : List UInt8} (h : cursor.InStep buffer)
    (reads : List ReadResult) :
    ScansTo cursor.limit (failure? reads) cursor.lines (buffer ++ received reads)
      (pull cursor buffer reads).continued.items (pull cursor buffer reads).continued.records := by
  -- The induction is on the reads: each meets what is left of the line that the last one cut.
  induction reads generalizing cursor buffer with
  | nil =>
      refine pull_scansTo_of_tails ?_ h
      intro cursor tail h htail hfits
      have hnext := Cursor.inStep_searched htail cursor
      have hend := turn_ended_scansTo hnext htail hfits []
      unfold pull
      rw [Cursor.poll_tail h htail hfits, Turn.items_continued_after,
        Turn.records_continued_after]
      simpa only [received, failure?, List.append_nil, List.nil_append] using hend
  | cons read later ih =>
      refine pull_scansTo_of_tails ?_ h
      intro cursor tail h htail hfits
      have hnext := Cursor.inStep_searched htail cursor
      unfold pull
      rw [Cursor.poll_tail h htail hfits]
      cases read with
      | bytes data =>
          cases data with
          | nil =>
              have hend := turn_ended_scansTo hnext htail hfits later
              simpa only [received, failure?, List.append_nil, Turn.items_continued_after,
                Turn.records_continued_after, List.nil_append] using hend
          | cons byte data =>
              have hlater := ih (hnext.append (byte :: data))
              simpa only [received, failure?, List.append_assoc, Turn.items_continued_after,
                Turn.records_continued_after, List.nil_append] using hlater
      | failed error =>
          by_cases hinterrupted : error.isInterrupted = true
          · have hlater := ih hnext
            simpa only [received, failure?, hinterrupted, ↓reduceIte, Turn.items_continued_after,
              Turn.records_continued_after, List.nil_append] using hlater
          · have hstop : ScansTo cursor.limit (some error) cursor.lines tail _ _ :=
              .failed htail hfits
            simpa only [received, failure?, hinterrupted, Bool.false_eq_true, ↓reduceIte,
              List.append_nil, continued_of_finished, Option.toList_some] using hstop

/-- A scan gives what the bytes of its source tell. -/
theorem start_scansTo {cursor : Cursor} (h : cursor.searched = 0) (reads : List ReadResult) :
    ScansTo cursor.limit (failure? reads) cursor.lines (received reads)
      (start cursor reads).run.items (start cursor reads).run.records := by
  have hrun : (start cursor reads).run = (pull cursor [] reads).continued := run_eq_continued _
  rw [hrun]
  exact pull_scansTo (Cursor.inStep_of_searched_eq_zero h []) reads

end Scanner

end FrameStatus.DebugLog
