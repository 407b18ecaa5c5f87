import FrameStatus.Proofs.DebugLog.Lines

/-!
# What a poll does to a buffer

A cursor is in step with a buffer when the part that it has searched lies in the buffer and holds
no newline. A poll of such a buffer depends on the lines in it and not on how far the first of them
was searched before, and leaves the cursor in step with what is left.
-/

namespace FrameStatus.DebugLog

namespace Cursor

/-- The searched part of the buffer is there and ends no line. -/
structure InStep (cursor : Cursor) (buffer : List UInt8) : Prop where
  searched_le : cursor.searched ≤ buffer.length
  newline_not_mem : newline ∉ buffer.take cursor.searched

theorem inStep_of_searched_eq_zero {cursor : Cursor} (h : cursor.searched = 0)
    (buffer : List UInt8) : cursor.InStep buffer :=
  ⟨by omega, by simp [h]⟩

theorem inStep_nextLine (cursor : Cursor) (buffer : List UInt8) :
    cursor.nextLine.InStep buffer :=
  inStep_of_searched_eq_zero rfl buffer

/-- All of a buffer without a newline may count as searched. -/
theorem inStep_searched {tail : List UInt8} (htail : newline ∉ tail) (cursor : Cursor) :
    InStep { cursor with searched := tail.length } tail :=
  ⟨Nat.le_refl _, by simpa using htail⟩

theorem InStep.append {cursor : Cursor} {buffer : List UInt8} (h : cursor.InStep buffer)
    (data : List UInt8) : cursor.InStep (buffer ++ data) := by
  constructor
  · rw [List.length_append]
    exact Nat.le_add_right_of_le h.searched_le
  · rw [List.take_append_of_le_length h.searched_le]
    exact h.newline_not_mem

/-! ## One line at a time -/

theorem takeLines_append (cursor : Cursor) (seen fresh : List UInt8) {body : List UInt8}
    (hbody : newline ∉ body) :
    cursor.takeLines seen (body ++ fresh) = cursor.takeLines (body.reverse ++ seen) fresh := by
  -- The start of the line is kept backwards, so each byte of the body goes in front of it.
  induction body generalizing seen with
  | nil => rfl
  | cons byte body ih =>
      obtain ⟨hbyte, hbody⟩ := not_or.mp (mt List.mem_cons.mpr hbody)
      rw [List.cons_append, takeLines, if_neg (Ne.symm hbyte), ih _ hbody]
      simp

theorem pollLines_eq_takeLines {cursor : Cursor} {buffer : List UInt8}
    (h : cursor.InStep buffer) : cursor.pollLines buffer = cursor.takeLines [] buffer := by
  -- Searching the searched part once more would come to the same place.
  have hsearched := takeLines_append cursor [] (buffer.drop cursor.searched) h.newline_not_mem
  rw [List.take_append_drop, List.append_nil] at hsearched
  rw [pollLines, if_pos h.searched_le, hsearched]

/-- A buffer without a newline is left as it is: as too long a line, or to be searched no more. -/
theorem pollLines_tail {cursor : Cursor} {tail : List UInt8} (h : cursor.InStep tail)
    (htail : newline ∉ tail) :
    cursor.pollLines tail =
      if cursor.limit < lineLength tail then
        ⟨.failed (.lineTooLong cursor.limit (lineLength tail)), cursor, tail, []⟩
      else ⟨.nothing, { cursor with searched := tail.length }, tail, []⟩ := by
  have htake := takeLines_append cursor [] [] htail
  rw [List.append_nil, List.append_nil] at htake
  rw [pollLines_eq_takeLines h, htake, takeLines, contentLength_reverse, List.reverse_reverse,
    List.length_reverse]

/-- The first line of a buffer is taken and counted, and what follows depends on it alone: an
error, a vector, or a poll of the rest. -/
theorem pollLines_line {cursor : Cursor} {line rest : List UInt8}
    (h : cursor.InStep (line ++ newline :: rest)) (hline : newline ∉ line) :
    cursor.pollLines (line ++ newline :: rest) =
      if cursor.limit < lineLength line then
        ⟨.failed (.lineTooLong cursor.limit (lineLength line)), cursor.nextLine, rest, []⟩
      else
        match vectorOnLine? (cursor.lines + 1) line with
        | some vector =>
            ⟨.found vector, cursor.nextLine, rest, lineRecords (cursor.lines + 1) line⟩
        | none => (cursor.nextLine.pollLines rest).after (lineRecords (cursor.lines + 1) line) := by
  rw [pollLines_eq_takeLines h, takeLines_append cursor [] _ hline, takeLines, if_pos rfl,
    pollLines_eq_takeLines (cursor.inStep_nextLine rest), List.append_nil, contentLength_reverse,
    List.reverse_reverse]
  rfl

/-! ## What stays true -/

theorem pollLines_inStep {cursor : Cursor} {buffer : List UInt8} (h : cursor.InStep buffer) :
    (cursor.pollLines buffer).cursor.InStep (cursor.pollLines buffer).rest ∧
      (cursor.pollLines buffer).outcome ≠ .outOfStep := by
  induction buffer using line_induction generalizing cursor with
  | tail tail htail =>
      rw [pollLines_tail h htail]
      split
      · exact ⟨h, nofun⟩
      · exact ⟨cursor.inStep_searched htail, nofun⟩
  | line line rest hline ih =>
      have hnext := cursor.inStep_nextLine rest
      rw [pollLines_line h hline]
      split
      · exact ⟨hnext, nofun⟩
      · split
        · exact ⟨hnext, nofun⟩
        · exact ih hnext

/-- What is left where no line is left is one line that is not ended yet, and not too long so
far. -/
theorem pollLines_nothing {cursor : Cursor} {buffer : List UInt8} (h : cursor.InStep buffer)
    (hnothing : (cursor.pollLines buffer).outcome = .nothing) :
    newline ∉ (cursor.pollLines buffer).rest ∧
      lineLength (cursor.pollLines buffer).rest ≤ cursor.limit := by
  induction buffer using line_induction generalizing cursor with
  | tail tail htail =>
      rw [pollLines_tail h htail] at hnothing ⊢
      split at hnothing
      · cases hnothing
      next hfits =>
        rw [if_neg hfits]
        exact ⟨htail, Nat.not_lt.mp hfits⟩
  | line line rest hline ih =>
      rw [pollLines_line h hline] at hnothing ⊢
      split at hnothing
      · cases hnothing
      next hfits =>
        rw [if_neg hfits]
        split at hnothing
        · cases hnothing
        · exact ih (cursor.inStep_nextLine rest) hnothing

/-- An empty buffer gives nothing at any stage. -/
theorem poll_nil {cursor : Cursor} (h : cursor.InStep []) (stage : Stage) :
    cursor.poll stage [] = ⟨.nothing, cursor, [], []⟩ := by
  have hsearched : cursor.searched = 0 := Nat.le_zero.mp h.searched_le
  have hpoll := pollLines_tail h List.not_mem_nil
  rw [lineLength_nil, if_neg (Nat.not_lt_zero _), List.length_nil, ← hsearched] at hpoll
  cases stage <;> simp only [poll, hpoll]

theorem poll_tail {cursor : Cursor} {tail : List UInt8} (h : cursor.InStep tail)
    (htail : newline ∉ tail) (hfits : lineLength tail ≤ cursor.limit) :
    cursor.poll .reading tail = ⟨.nothing, { cursor with searched := tail.length }, tail, []⟩ := by
  rw [poll, pollLines_tail h htail, if_neg (Nat.not_lt.mpr hfits)]
  exact nofun

theorem poll_overlong_tail {cursor : Cursor} {tail : List UInt8} (h : cursor.InStep tail)
    (htail : newline ∉ tail) (hover : cursor.limit < lineLength tail) (stage : Stage) :
    cursor.poll stage tail =
      ⟨.failed (.lineTooLong cursor.limit (lineLength tail)), cursor, tail, []⟩ := by
  have hpoll := pollLines_tail h htail
  rw [if_pos hover] at hpoll
  cases stage <;> simp only [poll, hpoll]

theorem poll_overlong_line {cursor : Cursor} {line rest : List UInt8}
    (h : cursor.InStep (line ++ newline :: rest)) (hline : newline ∉ line)
    (hover : cursor.limit < lineLength line) (stage : Stage) :
    cursor.poll stage (line ++ newline :: rest) =
      ⟨.failed (.lineTooLong cursor.limit (lineLength line)), cursor.nextLine, rest, []⟩ := by
  have hpoll := pollLines_line h hline
  rw [if_pos hover] at hpoll
  cases stage <;> simp only [poll, hpoll]

/-- What comes before a search for lines comes before the poll, at any stage. -/
theorem poll_eq_after {cursor next : Cursor} {buffer rest : List UInt8} {records : List LogRecord}
    (h : cursor.pollLines buffer = (next.pollLines rest).after records) (stage : Stage) :
    cursor.poll stage buffer = (next.poll stage rest).after records := by
  cases stage with
  | reading => exact h
  | ended =>
      simp only [poll, h]
      rcases next.pollLines rest with ⟨outcome, cursor, left, logged⟩
      cases outcome <;> cases left <;> simp [Step.after]

/-- A poll at any stage starts with the first line, if it is not too long. -/
theorem poll_line {cursor : Cursor} {line rest : List UInt8}
    (h : cursor.InStep (line ++ newline :: rest)) (hline : newline ∉ line)
    (hfits : lineLength line ≤ cursor.limit) (stage : Stage) :
    cursor.poll stage (line ++ newline :: rest) =
      match vectorOnLine? (cursor.lines + 1) line with
      | some vector =>
          ⟨.found vector, cursor.nextLine, rest, lineRecords (cursor.lines + 1) line⟩
      | none =>
          (cursor.nextLine.poll stage rest).after (lineRecords (cursor.lines + 1) line) := by
  have hpoll := pollLines_line h hline
  rw [if_neg (Nat.not_lt.mpr hfits)] at hpoll
  cases hvector : vectorOnLine? (cursor.lines + 1) line with
  | some vector =>
      rw [hvector] at hpoll
      cases stage <;> simp only [poll, hpoll]
  | none =>
      rw [hvector] at hpoll
      exact poll_eq_after hpoll stage

/-- Where no more bytes can arrive, an unfinished line is taken as the last. -/
theorem poll_ended_tail {cursor : Cursor} {tail : List UInt8} (h : cursor.InStep tail)
    (htail : newline ∉ tail) (hfits : lineLength tail ≤ cursor.limit) (hne : tail ≠ []) :
    cursor.poll .ended tail = cursor.takeTail tail := by
  have hpoll := pollLines_tail h htail
  rw [if_neg (Nat.not_lt.mpr hfits)] at hpoll
  obtain ⟨byte, tail, rfl⟩ := List.exists_cons_of_ne_nil hne
  simp only [poll, hpoll]
  rfl

theorem takeTail_inStep (cursor : Cursor) (tail : List UInt8) :
    (cursor.takeTail tail).cursor.InStep (cursor.takeTail tail).rest ∧
      (cursor.takeTail tail).outcome ≠ .outOfStep := by
  refine ⟨cursor.inStep_nextLine [], ?_⟩
  unfold takeTail
  split <;> exact nofun

theorem poll_inStep (stage : Stage) {cursor : Cursor} {buffer : List UInt8}
    (h : cursor.InStep buffer) :
    (cursor.poll stage buffer).cursor.InStep (cursor.poll stage buffer).rest ∧
      (cursor.poll stage buffer).outcome ≠ .outOfStep := by
  unfold poll
  split
  next next byte tail records hstep => exact next.takeTail_inStep (byte :: tail)
  next => exact pollLines_inStep h

theorem drain_of_found {stage : Stage} {cursor next : Cursor} {buffer rest : List UInt8}
    {vector : LoggedVector} {records : List LogRecord}
    (h : cursor.poll stage buffer = ⟨.found vector, next, rest, records⟩) :
    cursor.drain stage buffer =
      let more := next.drain stage rest
      ⟨vector :: more.found, more.last, records ++ more.records⟩ := by
  have houtcome : (cursor.poll stage buffer).outcome = .found vector := congrArg Step.outcome h
  rw [drain]
  split
  next other hother =>
    obtain rfl : vector = other := Outcome.found.inj (houtcome.symm.trans hother)
    simp only [h]
  next hnot => exact absurd houtcome (hnot vector)

theorem drain_of_not_found {stage : Stage} {cursor : Cursor} {buffer : List UInt8}
    (h : ∀ vector, (cursor.poll stage buffer).outcome ≠ .found vector) :
    cursor.drain stage buffer =
      ⟨[], cursor.poll stage buffer, (cursor.poll stage buffer).records⟩ := by
  rw [drain]
  split
  next vector hfound => exact absurd hfound (h vector)
  next => rfl

theorem drain_inStep (stage : Stage) {cursor : Cursor} {buffer : List UInt8}
    (h : cursor.InStep buffer) :
    (cursor.drain stage buffer).last.cursor.InStep (cursor.drain stage buffer).last.rest ∧
      (cursor.drain stage buffer).last.outcome ≠ .outOfStep := by
  fun_induction Cursor.drain stage cursor buffer with
  | case1 cursor buffer step vector hfound more ih => exact ih (poll_inStep stage h).1
  | case2 cursor buffer step hother => exact poll_inStep stage h

end Cursor

end FrameStatus.DebugLog
