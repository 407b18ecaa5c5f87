import FrameStatus.Proofs.DebugLog.Reads
import FrameStatus.Proofs.DebugLog.Sessions
import FrameStatus.Proofs.DebugLog.Stopping

/-!
# How much is held in a buffer

A poll that gives nothing leaves the start of one line, which is within the limit but for a carriage
return that may turn out to belong to the end of the line. A scanner reads only then, so its buffer
never holds more than that and what one read gives, whatever the source: no line without an end and
no number of lines at once makes it grow further.
-/

namespace FrameStatus.DebugLog

/-- The bytes are the start of a line that is not too long yet. They are at most one more than the
limit, and that many only if the last is a carriage return. -/
structure OpenWithin (limit : Nat) (bytes : List UInt8) : Prop where
  newline_not_mem : newline ∉ bytes
  length_le : bytes.length ≤ limit + 1
  last_eq : bytes.length = limit + 1 → bytes.getLast? = some carriageReturn

theorem openWithin_of_lineLength_le {limit : Nat} {bytes : List UInt8} (hnewline : newline ∉ bytes)
    (hfits : lineLength bytes ≤ limit) : OpenWithin limit bytes := by
  refine ⟨hnewline, ?_, ?_⟩
  · exact Nat.le_trans (length_le_lineLength_succ bytes) (Nat.succ_le_succ hfits)
  · intro hlength
    refine Decidable.byContradiction fun hlast => ?_
    rw [lineLength, if_neg hlast] at hfits
    omega

namespace Cursor

theorem limit_takeLines (cursor : Cursor) (seen fresh : List UInt8) :
    (cursor.takeLines seen fresh).cursor.limit = cursor.limit := by
  induction fresh generalizing cursor seen with
  | nil =>
      unfold takeLines
      split <;> rfl
  | cons byte fresh ih =>
      unfold takeLines
      split
      · split
        · rfl
        · split
          · rfl
          · exact ih cursor.nextLine []
      · exact ih cursor (byte :: seen)

/-- A poll never changes the limit. -/
theorem limit_poll (stage : Stage) (cursor : Cursor) (buffer : List UInt8) :
    (cursor.poll stage buffer).cursor.limit = cursor.limit := by
  have hlines : (cursor.pollLines buffer).cursor.limit = cursor.limit := by
    unfold pollLines
    split
    · exact limit_takeLines cursor _ _
    · rfl
  unfold poll
  split
  next hstep =>
    rw [hstep] at hlines
    exact hlines
  next => exact hlines

theorem openWithin_poll {cursor next : Cursor} {buffer rest : List UInt8}
    {records : List LogRecord} (h : cursor.InStep buffer)
    (hpoll : cursor.poll .reading buffer = ⟨.nothing, next, rest, records⟩) :
    OpenWithin cursor.limit rest := by
  have hlines : cursor.pollLines buffer = ⟨.nothing, next, rest, records⟩ := hpoll
  have hleft := pollLines_nothing h
  rw [hlines] at hleft
  obtain ⟨hnewline, hfits⟩ := hleft rfl
  exact openWithin_of_lineLength_le hnewline hfits

end Cursor

/-! ## Within a request -/

namespace Scanner

/-- The scanner finds nothing more in its buffer, and comes to ask its source for a read. -/
inductive Asks : Scanner → Scanner → Prop
  | intro {cursor next : Cursor} {buffer rest : List UInt8} {records : List LogRecord}
      (reads : List ReadResult)
      (hpoll : cursor.poll .reading buffer = ⟨.nothing, next, rest, records⟩) :
      Asks ⟨cursor, buffer, reads, .reading, false⟩ ⟨next, rest, reads, .reading, false⟩

/-- What the read makes of the scanner that asks for it. -/
def afterRead (asking : Scanner) : Scanner :=
  match asking.reads with
  | [] => { asking with stage := .ended }
  | .bytes data :: later =>
      { asking with
        buffer := asking.buffer ++ data
        reads := later
        stage := if data = [] then .ended else asking.stage }
  | .failed error :: later => { asking with reads := later, finished := !error.isInterrupted }

/-- What a request gives from the read on that it asks for: a failure for good, or what a request
gives that starts behind the read. -/
def answer (asking : Scanner) : Turn :=
  match asking.reads with
  | .failed error :: _ =>
      if error.isInterrupted then asking.afterRead.next
      else ⟨some (.error (.io error)), asking.afterRead, []⟩
  | _ => asking.afterRead.next

/-- A request that asks for a read goes on from what the read makes of the scanner. -/
theorem next_of_asks {scanner asking : Scanner} (h : scanner.Asks asking) :
    ∃ records, scanner.next = asking.answer.after records := by
  obtain @⟨_, _, _, _, records, reads, hpoll⟩ := h
  refine ⟨records, (pull_of_nothing hpoll reads).trans ?_⟩
  match reads with
  | [] => rfl
  | .bytes [] :: later =>
      simp only [answer, afterRead, List.append_nil]
      rfl
  | .bytes (byte :: data) :: later => rfl
  | .failed error :: later =>
      cases hinterrupted : error.isInterrupted with
      | true =>
          simp only [answer, afterRead, hinterrupted, ↓reduceIte]
          rfl
      | false =>
          simp only [answer, afterRead, hinterrupted, Bool.false_eq_true, ↓reduceIte, Turn.after,
            List.append_nil]
          rfl

theorem reads_turn (stage : Stage) (reads : List ReadResult) (step : Step) :
    (turn stage reads step).scanner.reads = reads := by
  obtain ⟨outcome, cursor, rest, records⟩ := step
  cases outcome <;> rfl

/-- A request that comes to ask for no read makes none. -/
theorem reads_next_of_not_asks {scanner : Scanner} (h : ∀ asking, ¬scanner.Asks asking) :
    scanner.next.scanner.reads = scanner.reads := by
  obtain ⟨cursor, buffer, reads, stage, finished⟩ := scanner
  cases finished with
  | true => rfl
  | false =>
      cases stage with
      | ended => exact reads_turn .ended reads _
      | reading =>
          have houtcome : (cursor.poll .reading buffer).outcome ≠ .nothing := by
            intro hnothing
            rcases hpoll : cursor.poll .reading buffer with ⟨outcome, next, rest, records⟩
            obtain rfl : outcome = .nothing := by rwa [hpoll] at hnothing
            exact h _ (.intro reads hpoll)
          have hnext : (Scanner.mk cursor buffer reads .reading false).next =
              turn .reading reads (cursor.poll .reading buffer) :=
            pull_of_not_nothing houtcome reads
          rw [hnext]
          exact reads_turn .reading reads _

/-- The states that a scanner passes through as it is asked for items: between the requests and,
within a request, whenever it asks for a read and whenever the read is made. -/
inductive Passes (first : Scanner) : Scanner → Prop
  | start : Passes first first
  | request {scanner : Scanner} (hbefore : Passes first scanner) :
      Passes first scanner.next.scanner
  | asks {scanner asking : Scanner} (hbefore : Passes first scanner)
      (hasks : scanner.Asks asking) : Passes first asking
  | read {scanner asking : Scanner} (hbefore : Passes first scanner)
      (hasks : scanner.Asks asking) : Passes first asking.afterRead

/-! ## What stays true -/

theorem length_data_le_of_mem_reads {source : List ReadResult} {read : ReadResult}
    (h : read ∈ DebugLog.reads source) : read.data.length ≤ readLength := by
  obtain ⟨given, -, hread⟩ := List.mem_flatMap.mp h
  cases given with
  | bytes data =>
      obtain ⟨piece, hpiece, rfl⟩ := List.mem_map.mp hread
      exact length_le_of_mem_pieces (by decide) hpiece
  | failed error =>
      rw [List.mem_singleton.mp hread]
      exact Nat.zero_le readLength

/-- The scanner holds no more than the start of a line and what one read gives. -/
structure Bounded (limit : Nat) (scanner : Scanner) : Prop where
  inStep : scanner.InStep
  limit_eq : scanner.cursor.limit = limit
  length_le : scanner.buffer.length ≤ limit + 1 + readLength
  reads_le : ∀ read ∈ scanner.reads, read.data.length ≤ readLength

section

variable {limit : Nat} {cursor : Cursor} {buffer : List UInt8} {reads : List ReadResult}
  {stage : Stage} {finished : Bool}

/-- How far a scanner has come does not bear on what it holds. -/
theorem Bounded.anywhere (h : Bounded limit ⟨cursor, buffer, reads, stage, finished⟩)
    (other : Stage) (done : Bool) : Bounded limit ⟨cursor, buffer, reads, other, done⟩ :=
  ⟨h.inStep, h.limit_eq, h.length_le, h.reads_le⟩

theorem Bounded.poll (h : Bounded limit ⟨cursor, buffer, reads, stage, finished⟩)
    (polled : Stage) :
    let step := cursor.poll polled buffer
    Bounded limit ⟨step.cursor, step.rest, reads, stage, finished⟩ :=
  ⟨(Cursor.poll_inStep polled h.inStep).1,
    (Cursor.limit_poll polled cursor buffer).trans h.limit_eq,
    Nat.le_trans (Cursor.length_rest_poll polled cursor buffer).1 h.length_le, h.reads_le⟩

theorem Bounded.turn {step : Step}
    (h : Bounded limit ⟨step.cursor, step.rest, reads, stage, finished⟩) (last : Stage) :
    (turn last reads step).scanner.Bounded limit := by
  obtain ⟨outcome, cursor, rest, records⟩ := step
  cases outcome <;> exact h.anywhere _ _

end

theorem Bounded.asks {limit : Nat} {scanner asking : Scanner} (h : scanner.Bounded limit)
    (hasks : scanner.Asks asking) : asking.Bounded limit ∧ OpenWithin limit asking.buffer := by
  obtain ⟨reads, hpoll⟩ := hasks
  have hbounded := h.poll .reading
  rw [hpoll] at hbounded
  exact ⟨hbounded, h.limit_eq ▸ Cursor.openWithin_poll h.inStep hpoll⟩

/-- A read adds no more than it was asked for to the start of a line. -/
theorem Bounded.afterRead {limit : Nat} {asking : Scanner} (h : asking.Bounded limit)
    (hopen : OpenWithin limit asking.buffer) : asking.afterRead.Bounded limit := by
  obtain ⟨cursor, buffer, reads, stage, finished⟩ := asking
  match reads, h with
  | [], h => exact ⟨h.inStep, h.limit_eq, h.length_le, h.reads_le⟩
  | .bytes data :: later, h =>
      obtain ⟨hread, hlater⟩ := List.forall_mem_cons.mp h.reads_le
      refine ⟨h.inStep.append data, h.limit_eq, ?_, hlater⟩
      have hlength := hopen.length_le
      simp only [Scanner.afterRead, List.length_append]
      exact Nat.add_le_add hlength hread
  | .failed error :: later, h =>
      exact ⟨h.inStep, h.limit_eq, h.length_le, (List.forall_mem_cons.mp h.reads_le).2⟩

theorem Bounded.read {limit : Nat} {cursor next : Cursor} {buffer rest : List UInt8}
    {reads : List ReadResult} {records : List LogRecord}
    (h : Bounded limit ⟨cursor, buffer, reads, .reading, false⟩)
    (hpoll : cursor.poll .reading buffer = ⟨.nothing, next, rest, records⟩) :
    (Scanner.afterRead ⟨next, rest, reads, .reading, false⟩).Bounded limit := by
  obtain ⟨hasking, hopen⟩ := h.asks (.intro reads hpoll)
  exact hasking.afterRead hopen

theorem Bounded.pull {limit : Nat} {cursor : Cursor} {buffer : List UInt8}
    {reads : List ReadResult} (h : Bounded limit ⟨cursor, buffer, reads, .reading, false⟩) :
    (pull cursor buffer reads).scanner.Bounded limit := by
  fun_induction Scanner.pull cursor buffer reads with
  | case1 cursor buffer next rest records hpoll =>
      exact ((h.read hpoll).poll .ended).turn .ended
  | case2 cursor buffer next rest records hpoll later =>
      have hread := h.read hpoll
      simp only [Scanner.afterRead, List.append_nil] at hread
      exact (hread.poll .ended).turn .ended
  | case3 cursor buffer next rest records hpoll data later hdata ih =>
      exact ih ((h.read hpoll).anywhere .reading false)
  | case4 cursor buffer next rest records hpoll error later hinterrupted ih =>
      exact ih ((h.read hpoll).anywhere .reading false)
  | case5 cursor buffer next rest records hpoll error later hlasting =>
      exact (h.read hpoll).anywhere .reading true
  | case6 => exact (h.poll .reading).turn .reading

theorem Bounded.next {limit : Nat} {scanner : Scanner} (h : scanner.Bounded limit) :
    scanner.next.scanner.Bounded limit := by
  obtain ⟨cursor, buffer, reads, stage, finished⟩ := scanner
  cases finished with
  | true => exact h
  | false =>
      cases stage with
      | reading => exact h.pull
      | ended => exact (h.poll .ended).turn .ended

theorem Bounded.passes {limit : Nat} {first scanner : Scanner} (h : first.Bounded limit)
    (hpasses : first.Passes scanner) : scanner.Bounded limit := by
  induction hpasses with
  | start => exact h
  | request _ ih => exact ih.next
  | asks _ hasks ih => exact (ih.asks hasks).1
  | read _ hasks ih =>
      obtain ⟨hasking, hopen⟩ := ih.asks hasks
      exact hasking.afterRead hopen

theorem start_bounded (limit taken : Nat) (source : List ReadResult) :
    (start ⟨limit, taken, 0⟩ (DebugLog.reads source)).Bounded limit :=
  ⟨start_inStep limit taken _, rfl, Nat.zero_le _, fun _ => length_data_le_of_mem_reads⟩

/-- Whatever was pushed, polled and set before, a poll that gives nothing leaves the start of one
line within the limit. So a scanner holds no more than that whenever it asks for a read, and no more
than that and the bytes of one read at any time, whatever its source gives. Its requests are made of
such reads: from one that it asks for it goes on with what the read makes of it, and it makes no
other. -/
theorem buffering_bounded :
    (∀ (session : Session) (next : Cursor) (rest : List UInt8) (records : List LogRecord),
      session.Reachable →
      session.cursor.poll .reading session.buffer = ⟨.nothing, next, rest, records⟩ →
      OpenWithin session.cursor.limit rest) ∧
    ∀ (limit taken : Nat) (source : List ReadResult) (scanner : Scanner),
      (start ⟨limit, taken, 0⟩ (DebugLog.reads source)).Passes scanner →
      scanner.buffer.length ≤ limit + 1 + readLength ∧
      (∀ asking, scanner.Asks asking → OpenWithin limit asking.buffer ∧
        ∃ records, scanner.next = asking.answer.after records) ∧
      ((∀ asking, ¬scanner.Asks asking) → scanner.next.scanner.reads = scanner.reads) := by
  constructor
  · intro session next rest records hreachable hpoll
    exact Cursor.openWithin_poll hreachable.inStep hpoll
  · intro limit taken source scanner hpasses
    have hbounded := (start_bounded limit taken source).passes hpasses
    refine ⟨hbounded.length_le, ?_, reads_next_of_not_asks⟩
    intro asking hasks
    exact ⟨(hbounded.asks hasks).2, next_of_asks hasks⟩

/-- A source that comes to both bounds: the first read ends in a carriage return behind as many
bytes as a line may have, and the second gives all that it is asked for. -/
theorem buffering_bounded_at_carriage_return :
    let session : Session :=
      (Session.perform { cursor := { limit := 3 } } (.push [97, 98, 99, 13])).session
    let source : List ReadResult := [.bytes [97, 98, 99, 13], .bytes (List.replicate 512 120)]
    let first := start ⟨3, 0, 0⟩ (DebugLog.reads source)
    (session.Reachable ∧ ∃ next, session.cursor.poll .reading session.buffer =
        ⟨.nothing, next, [97, 98, 99, 13], []⟩ ∧ OpenWithin 3 [97, 98, 99, 13]) ∧
      ∃ scanner asking, first.Passes scanner ∧ scanner.Asks asking ∧
        OpenWithin 3 asking.buffer ∧ asking.buffer.length = 3 + 1 ∧
        (∃ records, scanner.next = asking.answer.after records) ∧
        first.Passes asking.afterRead ∧
        asking.afterRead.buffer.length ≤ 3 + 1 + readLength ∧
        asking.afterRead.buffer.length = 3 + 1 + readLength := by
  intro session source first
  have hreachable : session.Reachable := .perform rfl (.start 3)
  have hpoll : session.cursor.poll .reading session.buffer =
      ⟨.nothing, ⟨3, 0, 4⟩, [97, 98, 99, 13], []⟩ := by
    decide
  have hreads : DebugLog.reads source = source := by
    have hshort : pieces readLength [97, 98, 99, 13] = [[97, 98, 99, 13]] :=
      pieces_of_length_le (by decide)
    have hwhole : pieces readLength (List.replicate 512 120) = [List.replicate 512 120] :=
      pieces_of_length_le (Nat.le_of_eq List.length_replicate)
    simp only [DebugLog.reads, source, List.flatMap_cons, List.flatMap_nil, hshort, hwhole]
    rfl
  have hfirst : first.Asks ⟨⟨3, 0, 0⟩, [], source, .reading, false⟩ := by
    have hnothing : Cursor.poll .reading ⟨3, 0, 0⟩ [] = ⟨.nothing, ⟨3, 0, 0⟩, [], []⟩ := by decide
    have hasks := Asks.intro source hnothing
    rwa [← hreads] at hasks ⊢
  have hpasses := Passes.start.read hfirst
  have hasks := Asks.intro [.bytes (List.replicate 512 120)] hpoll
  have hnext := hpasses.read hasks
  obtain ⟨hsessions, hscans⟩ := buffering_bounded
  obtain ⟨-, hasking, -⟩ := hscans 3 0 source _ hpasses
  obtain ⟨hopen, hanswer⟩ := hasking _ hasks
  refine ⟨⟨hreachable, ⟨3, 0, 4⟩, hpoll, hsessions session _ _ _ hreachable hpoll⟩, _, _, hpasses,
    hasks, hopen, rfl, hanswer, hnext, (hscans 3 0 source _ hnext).1, ?_⟩
  simp only [afterRead, List.length_append, List.length_replicate]
  rfl

end Scanner

end FrameStatus.DebugLog
