import FrameStatus.Proofs.DebugLog.Chunking
import FrameStatus.Proofs.DebugLog.Interruptions

/-!
# Where a scan stops

A scan hands out vectors, then at most one error, then nothing. It stops at the first line that is
too long, at the first read that fails for good or at the first read that gives no bytes, whichever
comes first, and nothing that the source would give behind that is read. A failed read leaves the
line that was not ended yet unread, the end of the source makes it the last line.
-/

namespace FrameStatus.DebugLog

/-- Whether a scanner reads on behind this read: it gave bytes, or was merely interrupted. -/
def ReadResult.goesOn : ReadResult → Bool
  | .bytes data => !data.isEmpty
  | .failed error => error.isInterrupted

/-- The bytes that a read gives. -/
def ReadResult.data : ReadResult → List UInt8
  | .bytes data => data
  | .failed _ => []

/-- The bytes that the reads give together. -/
def delivered (reads : List ReadResult) : List UInt8 :=
  reads.flatMap ReadResult.data

/-- A read that a scanner does not read on behind fails for good or gives no bytes. -/
theorem ReadResult.eq_of_goesOn_eq_false {read : ReadResult} (h : read.goesOn = false) :
    read = .bytes [] ∨ ∃ error, read = .failed error ∧ error.isInterrupted = false := by
  cases read with
  | bytes data =>
      left
      simpa [goesOn] using h
  | failed error => exact .inr ⟨error, rfl, h⟩

theorem delivered_cons (read : ReadResult) (later : List ReadResult) :
    delivered (read :: later) = read.data ++ delivered later :=
  rfl

theorem received_append {before : List ReadResult} (hbefore : ∀ read ∈ before, read.goesOn = true)
    {stop : ReadResult} (hstop : stop.goesOn = false) (later : List ReadResult) :
    received (before ++ stop :: later) = delivered before := by
  induction before with
  | nil =>
      rcases ReadResult.eq_of_goesOn_eq_false hstop with rfl | ⟨error, rfl, hlasting⟩
      · rfl
      · simp only [List.nil_append, received, hlasting, Bool.false_eq_true, ↓reduceIte]
        rfl
  | cons read before ih =>
      obtain ⟨hread, hbefore⟩ := List.forall_mem_cons.mp hbefore
      rw [delivered_cons, ← ih hbefore, List.cons_append]
      cases read with
      | bytes data =>
          cases data with
          | nil => exact absurd hread (by decide)
          | cons byte data => rfl
      | failed error => exact if_pos hread

theorem readAlike_append (before : List ReadResult) {stop : ReadResult}
    (hstop : stop.goesOn = false) (later others : List ReadResult) :
    ReadAlike (before ++ stop :: later) (before ++ stop :: others) := by
  induction before with
  | nil =>
      rcases ReadResult.eq_of_goesOn_eq_false hstop with rfl | ⟨error, rfl, hlasting⟩
      · exact .ended later others
      · exact .failed hlasting later others
  | cons read before ih => exact .read read ih

/-- The cursor that has taken all complete lines of the bytes and searched what is left. -/
def Cursor.past (cursor : Cursor) (bytes : List UInt8) : Cursor :=
  ⟨cursor.limit, cursor.lines + (completeLines bytes).length, (openLine bytes).length⟩

namespace Cursor

theorem past_tail (cursor : Cursor) {tail : List UInt8} (htail : newline ∉ tail) :
    cursor.past tail = { cursor with searched := tail.length } := by
  rw [past, completeLines_tail htail, openLine_tail htail]
  rfl

theorem past_line (cursor : Cursor) {line : List UInt8} (hline : newline ∉ line)
    (rest : List UInt8) : cursor.past (line ++ newline :: rest) = cursor.nextLine.past rest := by
  rw [past, completeLines_line hline, openLine_line hline, List.length_cons, past, nextLine,
    Nat.add_assoc, Nat.add_comm 1]

theorem past_inStep (cursor : Cursor) (bytes : List UInt8) :
    (cursor.past bytes).InStep (openLine bytes) :=
  inStep_searched (newline_not_mem_openLine bytes) (cursor.past bytes)

end Cursor

namespace Scanner

theorem Scanned.behind_behind (found later : List LoggedVector) (records more : List LogRecord)
    (scanned : Scanned) :
    (scanned.behind later more).behind found records =
      scanned.behind (found ++ later) (records ++ more) := by
  simp only [behind, List.map_append, List.append_assoc]

/-! ## Through the buffer and the reads -/

/-- A scan goes through the lines in its buffer and then through its reads: what holds where
neither is left, and is passed on from behind a line and from behind a read, holds everywhere. -/
@[elab_as_elim]
theorem scan_induction {motive : List ReadResult → Cursor → List UInt8 → Prop}
    (hline : ∀ {before : List ReadResult} {cursor : Cursor} {line rest : List UInt8},
      cursor.InStep (line ++ newline :: rest) → newline ∉ line →
      motive before cursor.nextLine rest → motive before cursor (line ++ newline :: rest))
    (hlast : ∀ {cursor : Cursor} {tail : List UInt8}, cursor.InStep tail → newline ∉ tail →
      motive [] cursor tail)
    (hread : ∀ {read : ReadResult} {before : List ReadResult} {cursor : Cursor}
      {tail : List UInt8}, cursor.InStep tail → newline ∉ tail → read.goesOn = true →
      motive before { cursor with searched := tail.length } (tail ++ read.data) →
      motive (read :: before) cursor tail)
    {before : List ReadResult} (hbefore : ∀ read ∈ before, read.goesOn = true)
    {cursor : Cursor} {buffer : List UInt8} (h : cursor.InStep buffer) :
    motive before cursor buffer := by
  induction before generalizing cursor buffer with
  | nil =>
      induction buffer using line_induction generalizing cursor with
      | tail tail htail => exact hlast h htail
      | line line rest hnewline ih => exact hline h hnewline (ih (cursor.inStep_nextLine rest))
  | cons read before ihreads =>
      obtain ⟨hgoes, hbefore⟩ := List.forall_mem_cons.mp hbefore
      induction buffer using line_induction generalizing cursor with
      | tail tail htail =>
          have hnext := (cursor.inStep_searched htail).append read.data
          exact hread h htail hgoes (ihreads hbefore hnext)
      | line line rest hnewline ih => exact hline h hnewline (ih (cursor.inStep_nextLine rest))

section

variable {cursor : Cursor} {tail : List UInt8}

/-- Where no line is left in the buffer, the next read is made. -/
theorem pull_tail_read (h : cursor.InStep tail) (htail : newline ∉ tail)
    (hfits : lineLength tail ≤ cursor.limit) {read : ReadResult} (hread : read.goesOn = true)
    (later : List ReadResult) :
    pull cursor tail (read :: later) =
      pull { cursor with searched := tail.length } (tail ++ read.data) later := by
  rw [pull_of_nothing (Cursor.poll_tail h htail hfits)]
  match read, hread with
  | .bytes (byte :: data), _ => rfl
  | .failed error, hinterrupted =>
      simp only [ReadResult.goesOn] at hinterrupted
      simp only [hinterrupted, ↓reduceIte, ReadResult.data, List.append_nil]
      rfl

theorem pull_tail_searched (h : cursor.InStep tail) (htail : newline ∉ tail)
    (hfits : lineLength tail ≤ cursor.limit) (reads : List ReadResult) :
    pull cursor tail reads = pull { cursor with searched := tail.length } tail reads :=
  pull_interrupted (Cursor.poll_tail h htail hfits) reads

theorem pull_tail_failed (h : cursor.InStep tail) (htail : newline ∉ tail)
    (hfits : lineLength tail ≤ cursor.limit) {error : IoError}
    (hlasting : error.isInterrupted = false) (later : List ReadResult) :
    (pull cursor tail (.failed error :: later)).continued =
      ⟨[.error (.io error)], ⟨{ cursor with searched := tail.length }, tail, later, .reading,
        true⟩, []⟩ := by
  rw [pull_of_nothing (Cursor.poll_tail h htail hfits)]
  simp only [hlasting, Bool.false_eq_true, ↓reduceIte]
  exact continued_of_finished rfl

/-- At the end of the source, what is left of the buffer is the last line, and nothing is left. -/
theorem pull_tail_ended (h : cursor.InStep tail) (htail : newline ∉ tail)
    (hfits : lineLength tail ≤ cursor.limit) (later : List ReadResult) :
    (pull cursor tail (.bytes [] :: later)).continued =
      ⟨(vectorsAfter cursor.lines (textLines tail)).map .ok,
        ⟨⟨cursor.limit, cursor.lines + (textLines tail).length, 0⟩, [], later, .ended, true⟩,
        recordsAfter cursor.lines (textLines tail)⟩ := by
  have hnext := cursor.inStep_searched htail
  rw [pull_of_nothing (Cursor.poll_tail h htail hfits), Turn.continued_after]
  by_cases hne : tail = []
  · subst hne
    simp only [Cursor.poll_nil hnext]
    rfl
  · have hpoll := Cursor.poll_ended_tail hnext htail hfits hne
    have hlines : Cursor.nextLine { cursor with searched := tail.length } =
        ⟨cursor.limit, cursor.lines + 1, 0⟩ := rfl
    simp only [hpoll, Cursor.takeTail, hlines, textLines_tail htail hne, vectorsAfter_cons,
      vectorsAfter_nil, recordsAfter_cons, recordsAfter_nil, List.append_nil]
    cases vectorOnLine? (cursor.lines + 1) tail with
    | none => rfl
    | some vector =>
        have hstep : Cursor.InStep ⟨cursor.limit, cursor.lines + 1, 0⟩ [] :=
          Cursor.inStep_of_searched_eq_zero rfl []
        simp only [turn, Turn.continued, run_ended_nil hstep, List.append_nil]
        rfl

theorem lineLength_le_of_textLines_append {limit : Nat} {rest : List UInt8}
    (htail : newline ∉ tail) (hfit : ∀ line ∈ textLines (tail ++ rest), lineLength line ≤ limit) :
    lineLength tail ≤ limit := by
  by_cases hne : tail = []
  · rw [hne, lineLength_nil]
    exact Nat.zero_le limit
  · obtain ⟨more, lines, hlines⟩ := textLines_of_start htail hne rest
    rw [hlines] at hfit
    exact Nat.le_trans (lineLength_le_append tail more) (List.forall_mem_cons.mp hfit).1

end

/-- Where all lines fit, those that are complete are handed out before what follows the reads. -/
theorem continued_pull_append {before : List ReadResult}
    (hbefore : ∀ read ∈ before, read.goesOn = true) {cursor : Cursor} {buffer : List UInt8}
    (h : cursor.InStep buffer)
    (hfit : ∀ line ∈ textLines (buffer ++ delivered before), lineLength line ≤ cursor.limit)
    (reads : List ReadResult) :
    (pull cursor buffer (before ++ reads)).continued =
      (pull (cursor.past (buffer ++ delivered before)) (openLine (buffer ++ delivered before))
        reads).continued.behind
        (vectorsAfter cursor.lines (completeLines (buffer ++ delivered before)))
        (recordsAfter cursor.lines (completeLines (buffer ++ delivered before))) := by
  revert hfit
  refine scan_induction ?_ ?_ ?_ hbefore h
  · intro before cursor line rest h hline ih hfit
    rw [List.append_assoc, List.cons_append] at hfit ⊢
    rw [textLines_line hline] at hfit
    obtain ⟨hfits, hfit⟩ := List.forall_mem_cons.mp hfit
    rw [continued_pull_line h hline hfits, ih hfit, Scanned.behind_behind,
      completeLines_line hline, openLine_line hline, cursor.past_line hline, vectorsAfter_cons,
      recordsAfter_cons]
    rfl
  · intro cursor tail h htail hfit
    have hbytes : tail ++ delivered [] = tail := List.append_nil tail
    have hfits := lineLength_le_of_textLines_append htail hfit
    rw [hbytes, completeLines_tail htail, openLine_tail htail, cursor.past_tail htail,
      List.nil_append, ← pull_tail_searched h htail hfits]
    rfl
  · intro read before cursor tail h htail hread ih hfit
    have hfits := lineLength_le_of_textLines_append htail hfit
    rw [delivered_cons, ← List.append_assoc] at hfit ⊢
    rw [List.cons_append, pull_tail_read h htail hfits hread]
    exact ih hfit

/-- Where a line is too long, none of the reads that follow is made. -/
theorem exists_unread {before : List ReadResult} (hbefore : ∀ read ∈ before, read.goesOn = true)
    {cursor : Cursor} {buffer : List UInt8} (h : cursor.InStep buffer)
    (hover : ∃ line ∈ textLines (buffer ++ delivered before), cursor.limit < lineLength line)
    (reads : List ReadResult) :
    ∃ unread, (pull cursor buffer (before ++ reads)).continued.scanner.reads =
      unread ++ reads := by
  revert hover
  refine scan_induction ?_ ?_ ?_ hbefore h
  · intro before cursor line rest h hline ih hover
    rw [List.append_assoc, List.cons_append, textLines_line hline] at hover
    simp only [List.mem_cons, exists_eq_or_imp] at hover
    by_cases hfits : lineLength line ≤ cursor.limit
    · rw [continued_pull_line h hline hfits]
      exact ih (hover.resolve_left (Nat.not_lt.mpr hfits))
    · have hpoll := Cursor.poll_overlong_line h hline (Nat.not_le.mp hfits) .reading
      rw [continued_pull_of_failed hpoll]
      exact ⟨before, rfl⟩
  · intro cursor tail h htail hover
    obtain ⟨line, hmem, hover⟩ := hover
    have hbytes : tail ++ delivered [] = tail := List.append_nil tail
    rw [hbytes] at hmem
    rw [eq_of_mem_textLines_tail htail hmem] at hover
    rw [continued_pull_of_failed (Cursor.poll_overlong_tail h htail hover .reading)]
    exact ⟨[], rfl⟩
  · intro read before cursor tail h htail hread ih hover
    by_cases hfits : lineLength tail ≤ cursor.limit
    · rw [delivered_cons, ← List.append_assoc] at hover
      rw [List.cons_append, pull_tail_read h htail hfits hread]
      exact ih hover
    · have hpoll := Cursor.poll_overlong_tail h htail (Nat.not_le.mp hfits) .reading
      rw [continued_pull_of_failed hpoll]
      exact ⟨read :: before, rfl⟩

/-! ## What stays true -/

/-- The cursor of the scanner is in step with its buffer. -/
def InStep (scanner : Scanner) : Prop :=
  scanner.cursor.InStep scanner.buffer

theorem turn_inStep {step : Step} (h : step.cursor.InStep step.rest) (stage : Stage)
    (reads : List ReadResult) : (turn stage reads step).scanner.InStep := by
  obtain ⟨outcome, cursor, rest, records⟩ := step
  cases outcome <;> exact h

theorem pull_inStep {cursor : Cursor} {buffer : List UInt8} (h : cursor.InStep buffer)
    (reads : List ReadResult) : (pull cursor buffer reads).scanner.InStep := by
  have hpoll : ∀ {cursor next : Cursor} {buffer rest : List UInt8} {records : List LogRecord},
      cursor.InStep buffer → cursor.poll .reading buffer = ⟨.nothing, next, rest, records⟩ →
      next.InStep rest := by
    intro cursor next buffer rest records h hpoll
    have hstep := (Cursor.poll_inStep .reading h).1
    rwa [hpoll] at hstep
  fun_induction pull cursor buffer reads with
  | case1 cursor buffer next rest records hnothing =>
      exact turn_inStep (Cursor.poll_inStep .ended (hpoll h hnothing)).1 .ended []
  | case2 cursor buffer next rest records hnothing later =>
      exact turn_inStep (Cursor.poll_inStep .ended (hpoll h hnothing)).1 .ended later
  | case3 cursor buffer next rest records hnothing data later hdata ih =>
      exact ih ((hpoll h hnothing).append data)
  | case4 cursor buffer next rest records hnothing error later hinterrupted ih =>
      exact ih (hpoll h hnothing)
  | case5 cursor buffer next rest records hnothing => exact hpoll h hnothing
  | case6 => exact turn_inStep (Cursor.poll_inStep .reading h).1 .reading _

theorem next_inStep {scanner : Scanner} (h : scanner.InStep) : scanner.next.scanner.InStep := by
  unfold next
  split
  · exact h
  · split
    · exact pull_inStep h scanner.reads
    · exact turn_inStep (Cursor.poll_inStep .ended h).1 .ended scanner.reads

theorem afterRequests_inStep {scanner : Scanner} (h : scanner.InStep) (count : Nat) :
    (scanner.afterRequests count).InStep := by
  induction count generalizing scanner with
  | zero => exact h
  | succ count ih => exact ih (next_inStep h)

/-- The items of a run are vectors, and at most one error behind them. -/
theorem exists_items_run (scanner : Scanner) :
    ∃ (vectors : List LoggedVector) (error? : Option ScanError),
      scanner.run.items = vectors.map .ok ++ (error?.map .error).toList := by
  induction scanner using run.induct with
  | case1 scanner item later records hnext ih =>
      rw [run_eq_continued]
      cases item with
      | ok vector =>
          obtain ⟨vectors, error?, hitems⟩ := ih
          refine ⟨vector :: vectors, error?, ?_⟩
          rw [hnext, List.map_cons, List.cons_append, ← hitems]
          rfl
      | error error =>
          have hfinished : scanner.next.scanner.finished = true :=
            finished_next fun vector hvector => by simp [hnext] at hvector
          rw [continued_of_finished hfinished, hnext]
          exact ⟨[], some error, rfl⟩
  | case2 scanner later records hnext =>
      rw [run_eq_continued, Turn.continued, hnext]
      exact ⟨[], none, rfl⟩

/-! ## Whole scans -/

section

variable {limit taken : Nat} {before : List ReadResult}

theorem lineLength_openLine_le {bytes : List UInt8}
    (hfit : ∀ line ∈ textLines bytes, lineLength line ≤ limit) :
    lineLength (openLine bytes) ≤ limit := by
  have hopen : ∀ line ∈ textLines (openLine bytes ++ []), lineLength line ≤ limit := by
    intro line hline
    rw [List.append_nil] at hline
    apply hfit
    rw [textLines_eq_append]
    exact List.mem_append_right _ hline
  exact lineLength_le_of_textLines_append (newline_not_mem_openLine bytes) hopen

theorem start_inStep (limit taken : Nat) (reads : List ReadResult) :
    (start ⟨limit, taken, 0⟩ reads).InStep :=
  Cursor.inStep_of_searched_eq_zero rfl []

theorem run_start (cursor : Cursor) (reads : List ReadResult) :
    (start cursor reads).run = (pull cursor [] reads).continued :=
  run_eq_continued _

theorem run_start_append (hbefore : ∀ read ∈ before, read.goesOn = true)
    (hfit : ∀ line ∈ textLines (delivered before), lineLength line ≤ limit)
    (reads : List ReadResult) :
    (start ⟨limit, taken, 0⟩ (before ++ reads)).run =
      (pull (Cursor.past ⟨limit, taken, 0⟩ (delivered before)) (openLine (delivered before))
        reads).continued.behind
        (vectorsAfter taken (completeLines (delivered before)))
        (recordsAfter taken (completeLines (delivered before))) := by
  rw [run_start]
  exact continued_pull_append hbefore (start_inStep limit taken []) hfit reads

/-- The line that is not ended when a read fails stays in the buffer. -/
theorem run_of_failed (hbefore : ∀ read ∈ before, read.goesOn = true)
    (hfit : ∀ line ∈ textLines (delivered before), lineLength line ≤ limit) {error : IoError}
    (hlasting : error.isInterrupted = false) (later : List ReadResult) :
    (start ⟨limit, taken, 0⟩ (before ++ .failed error :: later)).run =
      ⟨(vectorsAfter taken (completeLines (delivered before))).map .ok ++ [.error (.io error)],
        ⟨Cursor.past ⟨limit, taken, 0⟩ (delivered before), openLine (delivered before), later,
          .reading, true⟩,
        recordsAfter taken (completeLines (delivered before))⟩ := by
  rw [run_start_append hbefore hfit, pull_tail_failed (Cursor.past_inStep _ _)
    (newline_not_mem_openLine _) (lineLength_openLine_le hfit) hlasting, Scanned.behind,
    List.append_nil]
  rfl

/-- The line that is not ended when a source ends is the last one. -/
theorem run_of_ended (hbefore : ∀ read ∈ before, read.goesOn = true)
    (hfit : ∀ line ∈ textLines (delivered before), lineLength line ≤ limit)
    (later : List ReadResult) :
    (start ⟨limit, taken, 0⟩ (before ++ .bytes [] :: later)).run =
      ⟨(vectorsAfter taken (textLines (delivered before))).map .ok,
        ⟨⟨limit, taken + (textLines (delivered before)).length, 0⟩, [], later, .ended, true⟩,
        recordsAfter taken (textLines (delivered before))⟩ := by
  rw [run_start_append hbefore hfit, pull_tail_ended (Cursor.past_inStep _ _)
    (newline_not_mem_openLine _) (lineLength_openLine_le hfit), Scanned.behind,
    textLines_eq_append (delivered before), vectorsAfter_append, recordsAfter_append,
    List.map_append, List.length_append, ← Nat.add_assoc]
  rfl

end

/-- A scan hands out vectors, then at most one error, then nothing, and its cursor never falls out
of step with its buffer. Once a request gives no vector, no later one gives, logs, reads or changes
anything.

The first read that gives no bytes or fails for good is the last one made. Where all lines before
it fit, a failure is reported behind the complete lines, and a line that is not ended is neither
read nor counted; the end of the source makes it the last line, once. Where a line is too long, the
scan stops there and does not come to that read. What the source would give behind it never
shows. -/
theorem run_ends_at_first_stop (limit taken : Nat) :
    (∀ reads,
      (∃ (vectors : List LoggedVector) (error? : Option ScanError),
        (start ⟨limit, taken, 0⟩ reads).Yields
          (vectors.map .ok ++ (error?.map .error).toList)) ∧
      ∀ count,
        let scanner := (start ⟨limit, taken, 0⟩ reads).afterRequests count
        scanner.InStep ∧
          ((∀ vector, scanner.next.item? ≠ some (.ok vector)) →
            ∀ more, (scanner.next.scanner.afterRequests more).next =
              ⟨none, scanner.next.scanner, []⟩)) ∧
    ∀ (before : List ReadResult) (stop : ReadResult) (later : List ReadResult),
      (∀ read ∈ before, read.goesOn = true) → stop.goesOn = false →
      let bytes := delivered before
      let scanned := (start ⟨limit, taken, 0⟩ (before ++ stop :: later)).run
      ((∀ line ∈ textLines bytes, lineLength line ≤ limit) →
        (∀ error, stop = .failed error →
          scanned = ⟨(vectorsAfter taken (completeLines bytes)).map .ok ++ [.error (.io error)],
            ⟨⟨limit, taken + (completeLines bytes).length, (openLine bytes).length⟩,
              openLine bytes, later, .reading, true⟩,
            recordsAfter taken (completeLines bytes)⟩) ∧
        (stop = .bytes [] →
          scanned = ⟨(vectorsAfter taken (textLines bytes)).map .ok,
            ⟨⟨limit, taken + (textLines bytes).length, 0⟩, [], later, .ended, true⟩,
            recordsAfter taken (textLines bytes)⟩)) ∧
      (∀ earlier line following, textLines bytes = earlier ++ line :: following →
        (∀ other ∈ earlier, lineLength other ≤ limit) → limit < lineLength line →
        (∃ length, limit < length ∧ length ≤ lineLength line ∧
          scanned.items =
            (vectorsAfter taken earlier).map .ok ++ [.error (.lineTooLong limit length)]) ∧
        ∃ unread, scanned.scanner.reads = unread ++ stop :: later) ∧
      ∀ others,
        let other := (start ⟨limit, taken, 0⟩ (before ++ stop :: others)).run
        other.items = scanned.items ∧ other.records = scanned.records := by
  constructor
  · intro reads
    constructor
    · obtain ⟨vectors, error?, hitems⟩ := (start ⟨limit, taken, 0⟩ reads).exists_items_run
      exact ⟨vectors, error?, yields_iff.mpr hitems⟩
    · intro count scanner
      refine ⟨afterRequests_inStep (start_inStep limit taken reads) count, fun hlast more => ?_⟩
      have hfinished := finished_next hlast
      rw [afterRequests_of_finished hfinished, next_of_finished hfinished]
  · intro before stop later hbefore hstop bytes scanned
    refine ⟨?_, ?_, ?_⟩
    · intro hfit
      constructor
      · rintro error rfl
        exact run_of_failed hbefore hfit hstop later
      · rintro rfl
        exact run_of_ended hbefore hfit later
    · intro earlier line following hlines hearlier hover
      have hreads := start_scansTo (rfl : Cursor.searched ⟨limit, taken, 0⟩ = 0)
        (before ++ stop :: later)
      rw [received_append hbefore hstop] at hreads
      refine ⟨hreads.items_of_overlong hlines hearlier hover, ?_⟩
      have hmem : line ∈ textLines bytes := by simp [hlines]
      have hrun : scanned = (pull ⟨limit, taken, 0⟩ [] (before ++ stop :: later)).continued :=
        run_start _ _
      rw [hrun]
      exact exists_unread hbefore (start_inStep limit taken []) ⟨line, hmem, hover⟩ _
    · intro others other
      exact (start_alike (readAlike_append before hstop later others) _).run_eq

/-- A source that is read in two pieces and would deliver a whole vector more, if it were read
again after its failure or its end. -/
theorem run_ends_at_first_stop_within_line :
    let first : ReadResult := .bytes "Receive Status Vector: 3c 00 80 02\r\nRece".toUTF8.toList
    let second : ReadResult := .bytes "ive Status Vector: 3c".toUTF8.toList
    let more : ReadResult := .bytes " 00 80 02\nReceive Status Vector: 3c 00 80 02\n".toUTF8.toList
    let signal : ReadResult := .failed (.system 4 .interrupted "Interrupted system call")
    let unplugged : IoError := .custom .other "unplugged"
    let before := [first, signal, second]
    let received : LoggedVector := ⟨1, .receive, .ok ⟨.receive, [0x3c, 0, 0x80, 2], rfl⟩⟩
    (∀ read ∈ before, read.goesOn = true) ∧
      ReadResult.goesOn (.failed unplugged) = false ∧ ReadResult.goesOn (.bytes []) = false ∧
      (∀ line ∈ textLines (delivered before), lineLength line ≤ 34) ∧
      (start { limit := 34 } (before ++ .failed unplugged :: [more])).run.items =
        [.ok received, .error (.io unplugged)] ∧
      (start { limit := 34 } (before ++ .failed unplugged :: [more])).run.scanner.cursor.lines = 1 ∧
      (start { limit := 34 } (before ++ .bytes [] :: [more])).run.items =
        [.ok received, .ok ⟨2, .receive, .error (.invalidLength 2)⟩] ∧
      (start { limit := 34 } (before ++ .bytes [] :: [more])).run.scanner.reads = [more] ∧
      ∃ length unread, 33 < length ∧
        (start { limit := 33 } (before ++ .bytes [] :: [more])).run.items =
          [.error (.lineTooLong 33 length)] ∧
        (start { limit := 33 } (before ++ .bytes [] :: [more])).run.scanner.reads =
          unread ++ [.bytes [], more] := by
  intro first second more signal unplugged before received
  have hbefore : ∀ read ∈ before, read.goesOn = true := by decide +kernel
  have hfailed : ReadResult.goesOn (.failed unplugged) = false := rfl
  have hended : ReadResult.goesOn (.bytes []) = false := rfl
  have hfit : ∀ line ∈ textLines (delivered before), lineLength line ≤ 34 := by decide +kernel
  have hcomplete : vectorsAfter 0 (completeLines (delivered before)) = [received] := by
    decide +kernel
  have hcount : (completeLines (delivered before)).length = 1 := by decide +kernel
  have hall : vectorsAfter 0 (textLines (delivered before)) =
      [received, ⟨2, .receive, .error (.invalidLength 2)⟩] := by
    decide +kernel
  obtain ⟨-, hstops⟩ := run_ends_at_first_stop 34 0
  have hfailure := ((hstops before _ [more] hbefore hfailed).1 hfit).1 unplugged rfl
  have hend := ((hstops before _ [more] hbefore hended).1 hfit).2 rfl
  have hlines : textLines (delivered before) =
      [] ++ "Receive Status Vector: 3c 00 80 02\r".toUTF8.toList ::
        ["Receive Status Vector: 3c".toUTF8.toList] := by
    decide +kernel
  obtain ⟨⟨length, hlt, -, hoverlong⟩, unread, hunread⟩ :=
    ((run_ends_at_first_stop 33 0).2 before _ [more] hbefore hended).2.1 _ _ _ hlines nofun
      (by decide +kernel)
  refine ⟨hbefore, hfailed, hended, hfit, ?_, ?_, ?_, ?_, length, unread, hlt, hoverlong, hunread⟩
  · rw [hfailure, hcomplete]
    rfl
  · rw [hfailure]
    exact congrArg (0 + ·) hcount
  · rw [hend, hall]
    rfl
  · rw [hend]

end Scanner

end FrameStatus.DebugLog
