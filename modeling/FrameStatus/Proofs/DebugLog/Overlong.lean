import FrameStatus.Proofs.DebugLog.Sessions

/-!
# Lines that are too long

A poll that meets a line above the limit fails, and no other line comes to harm by that. A line
that is ended is taken and counted. One that is not stays in the buffer as it is, and fails every
poll until its end arrives. A poll after each failure gives every line what it gives by itself.
-/

namespace FrameStatus.DebugLog

/-- Lines that a poll takes and has nothing to say of: they fit, and no vector is on them. -/
structure Skipped (cursor : Cursor) (lines : List (List UInt8)) : Prop where
  newline_not_mem : ∀ line ∈ lines, newline ∉ line
  fits : ∀ line ∈ lines, lineLength line ≤ cursor.limit
  no_vector : vectorsAfter cursor.lines lines = []

/-- The step has taken and counted the skipped lines and an overlong one, and the next poll starts
behind the newline. -/
structure OverlongTaken (cursor : Cursor) (buffer : List UInt8) (skipped : List (List UInt8))
    (line : List UInt8) (step : Step) : Prop where
  buffer_eq : buffer = endedLines skipped ++ (line ++ newline :: step.rest)
  cursor_eq : step.cursor = ⟨cursor.limit, cursor.lines + skipped.length + 1, 0⟩

/-- The step has taken and counted the skipped lines and left an overlong one that is not ended.
Until more arrives every poll fails in the same way and changes nothing. Once the line is ended it
fails the next poll with its whole length, and is counted then. -/
structure OverlongLeft (cursor : Cursor) (buffer : List UInt8) (skipped : List (List UInt8))
    (line : List UInt8) (step : Step) : Prop where
  buffer_eq : buffer = endedLines skipped ++ line
  rest_eq : step.rest = line
  limit_eq : step.cursor.limit = cursor.limit
  lines_eq : step.cursor.lines = cursor.lines + skipped.length
  again : ∀ stage, step.cursor.poll stage step.rest =
    ⟨.failed (.lineTooLong cursor.limit (lineLength line)), step.cursor, step.rest, []⟩
  completed : ∀ stage more after, newline ∉ more →
    step.cursor.poll stage (step.rest ++ (more ++ newline :: after)) =
      ⟨.failed (.lineTooLong cursor.limit (lineLength (line ++ more))),
        ⟨cursor.limit, step.cursor.lines + 1, 0⟩, after, []⟩

theorem Skipped.nil (cursor : Cursor) : Skipped cursor [] :=
  ⟨by simp, by simp, rfl⟩

theorem Skipped.cons {cursor : Cursor} {line : List UInt8} {lines : List (List UInt8)}
    (hline : newline ∉ line) (hfits : lineLength line ≤ cursor.limit)
    (hvector : vectorOnLine? (cursor.lines + 1) line = none)
    (hlines : Skipped cursor.nextLine lines) : Skipped cursor (line :: lines) := by
  refine ⟨?_, ?_, ?_⟩
  · exact List.forall_mem_cons.mpr ⟨hline, hlines.newline_not_mem⟩
  · exact List.forall_mem_cons.mpr ⟨hfits, hlines.fits⟩
  · rw [vectorsAfter_cons, hvector]
    exact hlines.no_vector

theorem OverlongTaken.skip {cursor : Cursor} {line rest overlong : List UInt8}
    {skipped : List (List UInt8)} {step : Step}
    (h : OverlongTaken cursor.nextLine rest skipped overlong step) (records : List LogRecord) :
    OverlongTaken cursor (line ++ newline :: rest) (line :: skipped) overlong
      (step.after records) := by
  refine ⟨?_, ?_⟩
  · rw [h.buffer_eq, endedLines_cons]
    simp [Step.after]
  · refine h.cursor_eq.trans ?_
    simp only [Cursor.nextLine, List.length_cons, Cursor.mk.injEq, true_and, and_true]
    omega

theorem OverlongLeft.skip {cursor : Cursor} {line rest overlong : List UInt8}
    {skipped : List (List UInt8)} {step : Step}
    (h : OverlongLeft cursor.nextLine rest skipped overlong step) (records : List LogRecord) :
    OverlongLeft cursor (line ++ newline :: rest) (line :: skipped) overlong
      (step.after records) := by
  refine ⟨?_, h.rest_eq, h.limit_eq, ?_, h.again, h.completed⟩
  · rw [h.buffer_eq, endedLines_cons]
    simp
  · refine h.lines_eq.trans ?_
    simp only [Cursor.nextLine, List.length_cons]
    omega

namespace Cursor

/-! ## One failure -/

/-- Only a search for lines can fail, a tail that is taken cannot. -/
theorem poll_of_failed {stage : Stage} {cursor : Cursor} {buffer : List UInt8}
    {error : ScanError} (h : (cursor.poll stage buffer).outcome = .failed error) :
    cursor.poll stage buffer = cursor.pollLines buffer := by
  unfold poll at h ⊢
  split at h
  next next byte tail records hstep =>
    simp only [Step.after, takeTail] at h
    split at h <;> cases h
  next => rfl

/-- What an overlong tail does to the polls to come. -/
theorem overlongLeft_tail {cursor : Cursor} {tail : List UInt8} (h : cursor.InStep tail)
    (htail : newline ∉ tail) (hover : cursor.limit < lineLength tail) (error : ScanError) :
    OverlongLeft cursor tail [] tail ⟨.failed error, cursor, tail, []⟩ := by
  refine ⟨rfl, rfl, rfl, rfl, poll_overlong_tail h htail hover, ?_⟩
  intro stage more after hmore
  have hall : cursor.InStep ((tail ++ more) ++ newline :: after) := by
    rw [List.append_assoc]
    exact h.append _
  have hline : newline ∉ tail ++ more := by simp [htail, hmore]
  -- The line cannot become shorter by what is added to it.
  have hover : cursor.limit < lineLength (tail ++ more) :=
    Nat.lt_of_lt_of_le hover (lineLength_le_append tail more)
  have hpoll := poll_overlong_line hall hline hover stage
  rw [List.append_assoc] at hpoll
  exact hpoll

/-- A search for lines fails at the first line above the limit, behind lines that are skipped. -/
theorem pollLines_failed {cursor : Cursor} {buffer : List UInt8} (h : cursor.InStep buffer)
    {error : ScanError} (hfailed : (cursor.pollLines buffer).outcome = .failed error) :
    ∃ skipped line, Skipped cursor skipped ∧ newline ∉ line ∧
      cursor.limit < lineLength line ∧ error = .lineTooLong cursor.limit (lineLength line) ∧
      (OverlongTaken cursor buffer skipped line (cursor.pollLines buffer) ∨
        OverlongLeft cursor buffer skipped line (cursor.pollLines buffer)) := by
  induction buffer using line_induction generalizing cursor with
  | tail tail htail =>
      rw [pollLines_tail h htail] at hfailed ⊢
      split at hfailed
      next hover =>
        rw [if_pos hover]
        cases hfailed
        exact ⟨[], tail, .nil cursor, htail, hover, rfl, .inr (overlongLeft_tail h htail hover _)⟩
      next => cases hfailed
  | line line rest hline ih =>
      rw [pollLines_line h hline] at hfailed ⊢
      split at hfailed
      next hover =>
        rw [if_pos hover]
        cases hfailed
        exact ⟨[], line, .nil cursor, hline, hover, rfl, .inl ⟨rfl, rfl⟩⟩
      next hfits =>
        rw [if_neg hfits]
        split at hfailed
        next => cases hfailed
        next hvector =>
          obtain ⟨skipped, overlong, hskipped, hnewline, hover, rfl, hstep⟩ :=
            ih (cursor.inStep_nextLine rest) hfailed
          refine ⟨line :: skipped, overlong, ?_, hnewline, hover, rfl, ?_⟩
          · exact .cons hline (Nat.not_lt.mp hfits) hvector hskipped
          · exact hstep.imp (.skip · _) (.skip · _)

/-! ## Every line by itself -/

/-- What a line gives by itself, if it is not skipped. -/
def lineOutcome? (limit number : Nat) (line : List UInt8) : Option Outcome :=
  if limit < lineLength line then some (.failed (.lineTooLong limit (lineLength line)))
  else (vectorOnLine? number line).map .found

/-- What the lines that follow the first `taken` give, each by itself. -/
def lineOutcomes (limit taken : Nat) (lines : List (List UInt8)) : List Outcome :=
  (lines.zipIdx (taken + 1)).filterMap fun (line, number) => lineOutcome? limit number line

theorem lineOutcomes_cons (limit taken : Nat) (line : List UInt8) (rest : List (List UInt8)) :
    lineOutcomes limit taken (line :: rest) =
      (lineOutcome? limit (taken + 1) line).toList ++ lineOutcomes limit (taken + 1) rest := by
  cases houtcome : lineOutcome? limit (taken + 1) line <;> simp [lineOutcomes, houtcome]

theorem poll_line_of_some {cursor : Cursor} {line rest : List UInt8} {outcome : Outcome}
    (h : cursor.InStep (line ++ newline :: rest)) (hline : newline ∉ line)
    (houtcome : lineOutcome? cursor.limit (cursor.lines + 1) line = some outcome) :
    ∃ records, cursor.poll .reading (line ++ newline :: rest) =
      ⟨outcome, cursor.nextLine, rest, records⟩ := by
  unfold lineOutcome? at houtcome
  split at houtcome
  next hover =>
    cases houtcome
    exact ⟨_, poll_overlong_line h hline hover .reading⟩
  next hfits =>
    obtain ⟨vector, hvector, rfl⟩ := Option.map_eq_some_iff.mp houtcome
    refine ⟨lineRecords (cursor.lines + 1) line, ?_⟩
    rw [poll_line h hline (Nat.not_lt.mp hfits), hvector]

theorem poll_line_of_none {cursor : Cursor} {line rest : List UInt8}
    (h : cursor.InStep (line ++ newline :: rest)) (hline : newline ∉ line)
    (houtcome : lineOutcome? cursor.limit (cursor.lines + 1) line = none) :
    cursor.poll .reading (line ++ newline :: rest) =
      (cursor.nextLine.poll .reading rest).after (lineRecords (cursor.lines + 1) line) := by
  unfold lineOutcome? at houtcome
  split at houtcome
  next => cases houtcome
  next hfits =>
    rw [poll_line h hline (Nat.not_lt.mp hfits), Option.map_eq_none_iff.mp houtcome]

end Cursor

namespace Session

open Cursor

/-- Polls, one after the other. -/
def polls (count : Nat) : List Operation :=
  List.replicate count (.poll .reading)

theorem polls_succ (count : Nat) : polls (count + 1) = .poll .reading :: polls count := rfl

theorem polls_nil {cursor : Cursor} (h : cursor.InStep []) (count : Nat) :
    (performAll ⟨cursor, []⟩ (polls count)).flatMap Response.outcomes =
        List.replicate count .nothing ∧
      afterAll ⟨cursor, []⟩ (polls count) = ⟨cursor, []⟩ := by
  induction count with
  | zero => exact ⟨rfl, rfl⟩
  | succ count ih =>
      have hfirst : perform ⟨cursor, []⟩ (.poll .reading) =
          ⟨[.nothing], ⟨cursor, []⟩, []⟩ := by
        simp only [perform, poll_nil h]
      rw [polls_succ, performAll, afterAll, hfirst, List.flatMap_cons, ih.1, ih.2]
      exact ⟨rfl, rfl⟩

/-- Polls go through the lines one by one, and past those that are too long. -/
theorem polls_endedLines {cursor : Cursor} {lines : List (List UInt8)}
    (hlines : ∀ line ∈ lines, newline ∉ line) (h : cursor.InStep (endedLines lines))
    (count : Nat) :
    let outcomes := lineOutcomes cursor.limit cursor.lines lines
    (performAll ⟨cursor, endedLines lines⟩ (polls count)).flatMap Response.outcomes =
        outcomes.take count ++ List.replicate (count - outcomes.length) Outcome.nothing ∧
      (outcomes.length < count →
        (afterAll ⟨cursor, endedLines lines⟩ (polls count)).buffer = [] ∧
        (afterAll ⟨cursor, endedLines lines⟩ (polls count)).cursor.lines =
          cursor.lines + lines.length) := by
  induction lines generalizing cursor count with
  | nil =>
      obtain ⟨houtcomes, hafter⟩ := polls_nil h count
      rw [endedLines, List.flatMap_nil, houtcomes, hafter]
      exact ⟨by simp [lineOutcomes], fun _ => ⟨rfl, rfl⟩⟩
  | cons line rest ih =>
      obtain ⟨hline, hrest⟩ := List.forall_mem_cons.mp hlines
      have hnext := cursor.inStep_nextLine (endedLines rest)
      have hnumber : cursor.nextLine.lines + rest.length =
          cursor.lines + (line :: rest).length := by
        simp only [nextLine, List.length_cons]
        omega
      rw [endedLines_cons] at h ⊢
      cases count with
      | zero => exact ⟨by simp [polls, performAll], fun hcount => absurd hcount (by omega)⟩
      | succ count =>
          cases houtcome : lineOutcome? cursor.limit (cursor.lines + 1) line with
          | some outcome =>
              obtain ⟨records, hpoll⟩ := poll_line_of_some h hline houtcome
              obtain ⟨houtcomes, hafter⟩ := ih hrest hnext count
              have hfirst : perform ⟨cursor, line ++ newline :: endedLines rest⟩
                  (.poll .reading) =
                  ⟨[outcome], ⟨cursor.nextLine, endedLines rest⟩, records⟩ := by
                simp only [perform, hpoll]
              rw [polls_succ, performAll, afterAll, hfirst, List.flatMap_cons, houtcomes,
                lineOutcomes_cons, houtcome, ← hnumber]
              refine ⟨by simp [nextLine], ?_⟩
              intro hcount
              exact hafter (Nat.lt_of_succ_lt_succ hcount)
          | none =>
              -- The poll goes on with the next line, and so do the induction and the count.
              have hpoll := poll_line_of_none h hline houtcome
              obtain ⟨houtcomes, hafter⟩ := ih hrest hnext (count + 1)
              have hsame : (perform ⟨cursor, line ++ newline :: endedLines rest⟩
                    (.poll .reading)).outcomes =
                  (perform ⟨cursor.nextLine, endedLines rest⟩ (.poll .reading)).outcomes ∧
                (perform ⟨cursor, line ++ newline :: endedLines rest⟩
                    (.poll .reading)).session =
                  (perform ⟨cursor.nextLine, endedLines rest⟩ (.poll .reading)).session := by
                simp only [perform, hpoll]
                exact ⟨rfl, rfl⟩
              rw [polls_succ, performAll, afterAll, List.flatMap_cons, hsame.1, hsame.2,
                lineOutcomes_cons, houtcome, ← hnumber]
              exact ⟨houtcomes, hafter⟩

/-- An overlong line harms no other line, and no other line harms it. Where a poll of a reachable
session fails, it reports the limit and a length above it, that of a line that it has either taken
and counted or left as it is. And polls of lines that are all ended give, line by line, what the
line gives by itself: its vector, nothing, or the failure with its length. -/
theorem polls_past_overlong :
    (∀ (session : Session) (stage : Stage) (limit length : Nat), session.Reachable →
      let step := session.cursor.poll stage session.buffer
      step.outcome = .failed (.lineTooLong limit length) →
      limit = session.cursor.limit ∧ limit < length ∧
        ∃ skipped line, Skipped session.cursor skipped ∧ newline ∉ line ∧
          length = lineLength line ∧
          (OverlongTaken session.cursor session.buffer skipped line step ∨
            OverlongLeft session.cursor session.buffer skipped line step)) ∧
    ∀ (limit : Nat) (bytes : List UInt8), (∀ last ∈ bytes.getLast?, last = newline) →
      let session : Session := { cursor := { limit := limit }, buffer := bytes }
      let outcomes := lineOutcomes limit 0 (textLines bytes)
      ∀ count,
        (session.performAll (polls count)).flatMap Response.outcomes =
          outcomes.take count ++ List.replicate (count - outcomes.length) .nothing ∧
        (outcomes.length < count →
          (session.afterAll (polls count)).buffer = [] ∧
          (session.afterAll (polls count)).cursor.lines = (textLines bytes).length) := by
  refine ⟨?_, ?_⟩
  · intro session stage limit length hreachable step hfailed
    have hpoll : step = session.cursor.pollLines session.buffer := poll_of_failed hfailed
    rw [hpoll] at hfailed ⊢
    obtain ⟨skipped, line, hskipped, hline, hover, herror, hstep⟩ :=
      pollLines_failed hreachable.inStep hfailed
    cases herror
    exact ⟨rfl, hover, skipped, line, hskipped, hline, rfl, hstep⟩
  · intro limit bytes hended session outcomes count
    have hlines : ∀ line ∈ textLines bytes, newline ∉ line :=
      fun line => newline_not_mem_of_mem_textLines
    have hpolls := polls_endedLines hlines
      (inStep_of_searched_eq_zero (rfl : Cursor.searched { limit := limit } = 0) _) count
    rw [endedLines_textLines hended] at hpolls
    simpa only [Nat.zero_add] using hpolls

/-- A line without an end behind one that is skipped, and a vector behind a line that is ended. -/
theorem polls_past_overlong_to_vector :
    let session : Session := perform { cursor := { limit := 34 } }
      (.push "skipped\r\nTransmit Status Vector: 40 00 80 00".toUTF8.toList) |>.session
    let bytes : List UInt8 :=
      "Transmit Status Vector: 40 00 80 00\r\nReceive Status Vector: 3c 00 80 02\r\n".toUTF8.toList
    (session.Reachable ∧
      (session.cursor.poll .ended session.buffer).outcome = .failed (.lineTooLong 34 35) ∧
      ∃ skipped line, 35 = lineLength line ∧
        (OverlongTaken session.cursor session.buffer skipped line
            (session.cursor.poll .ended session.buffer) ∨
          OverlongLeft session.cursor session.buffer skipped line
            (session.cursor.poll .ended session.buffer))) ∧
      (∀ last ∈ bytes.getLast?, last = newline) ∧
      (performAll { cursor := { limit := 34 }, buffer := bytes } (polls 3)).flatMap
          Response.outcomes =
        [.failed (.lineTooLong 34 35),
          .found ⟨2, .receive, .ok ⟨.receive, [0x3c, 0, 0x80, 2], rfl⟩⟩, .nothing] := by
  intro session bytes
  have hreachable : session.Reachable := .perform rfl (.start 34)
  have hfailed : (session.cursor.poll .ended session.buffer).outcome =
      .failed (.lineTooLong 34 35) := by decide +kernel
  have hended : ∀ last ∈ bytes.getLast?, last = newline := by decide +kernel
  obtain ⟨-, -, skipped, line, -, -, hlength, hstep⟩ :=
    polls_past_overlong.1 session .ended 34 35 hreachable hfailed
  refine ⟨⟨hreachable, hfailed, skipped, line, hlength, hstep⟩, hended, ?_⟩
  rw [(polls_past_overlong.2 34 bytes hended 3).1]
  decide +kernel

end Session

end FrameStatus.DebugLog
