import FrameStatus.Proofs.DebugLog.Sessions

/-!
# Searching a buffer again

The searched part of a buffer is remembered to save time and for nothing else. A cursor that
remembers nothing, and searches the whole buffer for a newline on every poll, gives the same
results under all operations by which the owner of a session can append, set the limit or poll.
-/

namespace FrameStatus.DebugLog

namespace Cursor

/-- The cursor without what it has searched. -/
def forget (cursor : Cursor) : Cursor :=
  { cursor with searched := 0 }

/-- Takes complete lines from a buffer, which is searched from its first byte for the end of each
of them. -/
def rescanLines (cursor : Cursor) (buffer : List UInt8) : Step :=
  match _h : buffer.idxOf? newline with
  | none =>
      if cursor.limit < lineLength buffer then
        ⟨.failed (.lineTooLong cursor.limit (lineLength buffer)), cursor, buffer, []⟩
      else ⟨.nothing, cursor, buffer, []⟩
  | some index =>
      let line := buffer.take index
      let rest := buffer.drop (index + 1)
      if cursor.limit < lineLength line then
        ⟨.failed (.lineTooLong cursor.limit (lineLength line)), cursor.nextLine, rest, []⟩
      else
        match vectorOnLine? (cursor.lines + 1) line with
        | some vector => ⟨.found vector, cursor.nextLine, rest, lineRecords (cursor.lines + 1) line⟩
        | none => (cursor.nextLine.rescanLines rest).after (lineRecords (cursor.lines + 1) line)
termination_by buffer.length
decreasing_by
  have hmem : newline ∈ buffer := List.isSome_idxOf?.mp (by simp [_h])
  have := List.length_pos_of_mem hmem
  simp only [List.length_drop]
  omega

theorem rescanLines_tail {cursor : Cursor} {tail : List UInt8} (htail : newline ∉ tail) :
    cursor.rescanLines tail =
      if cursor.limit < lineLength tail then
        ⟨.failed (.lineTooLong cursor.limit (lineLength tail)), cursor, tail, []⟩
      else ⟨.nothing, cursor, tail, []⟩ := by
  have hindex := List.idxOf?_eq_none_iff.mpr htail
  rw [rescanLines]
  split
  next => rfl
  next index hsome => exact absurd (hindex.symm.trans hsome) nofun

theorem rescanLines_line {cursor : Cursor} {line rest : List UInt8} (hline : newline ∉ line) :
    cursor.rescanLines (line ++ newline :: rest) =
      if cursor.limit < lineLength line then
        ⟨.failed (.lineTooLong cursor.limit (lineLength line)), cursor.nextLine, rest, []⟩
      else
        match vectorOnLine? (cursor.lines + 1) line with
        | some vector =>
            ⟨.found vector, cursor.nextLine, rest, lineRecords (cursor.lines + 1) line⟩
        | none =>
            (cursor.nextLine.rescanLines rest).after (lineRecords (cursor.lines + 1) line) := by
  have hindex : (line ++ newline :: rest).idxOf? newline = some line.length := by
    refine List.idxOf?_eq_some_iff.mpr ⟨by simp, by simp, ?_⟩
    intro position hposition heq
    rw [List.getElem_append_left hposition] at heq
    exact hline (heq ▸ List.getElem_mem hposition)
  rw [rescanLines]
  split
  next hnone => exact absurd (hindex.symm.trans hnone) nofun
  next index hsome =>
    obtain rfl : line.length = index := Option.some.inj (hindex.symm.trans hsome)
    have hrest : (line ++ newline :: rest).drop (line.length + 1) = rest := by
      rw [List.drop_append]
      simp
    simp only [List.take_left, hrest]

/-- Polls with a search from the first byte of the buffer. -/
def rescan (stage : Stage) (cursor : Cursor) (buffer : List UInt8) : Step :=
  match stage, cursor.rescanLines buffer with
  | .ended, ⟨.nothing, next, byte :: tail, records⟩ => (next.takeTail (byte :: tail)).after records
  | _, step => step

theorem length_rest_rescanLines (cursor : Cursor) (buffer : List UInt8) :
    (cursor.rescanLines buffer).rest.length ≤ buffer.length ∧
      ∀ vector, (cursor.rescanLines buffer).outcome = .found vector →
        (cursor.rescanLines buffer).rest.length < buffer.length := by
  induction buffer using line_induction generalizing cursor with
  | tail tail htail =>
      rw [rescanLines_tail htail]
      split <;> exact ⟨Nat.le_refl _, nofun⟩
  | line line rest hline ih =>
      have hshorter : rest.length < (line ++ newline :: rest).length := by
        simp only [List.length_append, List.length_cons]
        omega
      rw [rescanLines_line hline]
      split
      · exact ⟨Nat.le_of_lt hshorter, nofun⟩
      · split
        · exact ⟨Nat.le_of_lt hshorter, fun _ _ => hshorter⟩
        · obtain ⟨hle, hlt⟩ := ih cursor.nextLine
          exact ⟨Nat.le_trans hle (Nat.le_of_lt hshorter),
            fun vector h => Nat.lt_trans (hlt vector h) hshorter⟩

theorem length_rest_rescan {stage : Stage} {cursor : Cursor} {buffer : List UInt8}
    {vector : LoggedVector} (h : (cursor.rescan stage buffer).outcome = .found vector) :
    (cursor.rescan stage buffer).rest.length < buffer.length := by
  obtain ⟨hle, hlt⟩ := length_rest_rescanLines cursor buffer
  unfold rescan at h ⊢
  split at h
  next next byte tail records hstep =>
    rw [hstep] at hle
    rw [List.length_cons] at hle
    exact Nat.lt_of_lt_of_le (Nat.succ_pos _) hle
  next => exact hlt vector h

/-- Polls until a poll gives no vector, each time with a search from the first byte. -/
def rescanDrain (stage : Stage) (cursor : Cursor) (buffer : List UInt8) : Drained :=
  let step := cursor.rescan stage buffer
  match _h : step.outcome with
  | .found vector =>
      let more := step.cursor.rescanDrain stage step.rest
      ⟨vector :: more.found, more.last, step.records ++ more.records⟩
  | _ => ⟨[], step, step.records⟩
termination_by buffer.length
decreasing_by exact length_rest_rescan _h

/-! ## The search is all that differs -/

@[simp] theorem limit_forget (cursor : Cursor) : cursor.forget.limit = cursor.limit := rfl

@[simp] theorem lines_forget (cursor : Cursor) : cursor.forget.lines = cursor.lines := rfl

theorem nextLine_forget (cursor : Cursor) : cursor.forget.nextLine = cursor.nextLine := rfl

theorem forget_nextLine (cursor : Cursor) : cursor.nextLine.forget = cursor.nextLine := rfl

end Cursor

/-- The step without what its cursor has searched. -/
def Step.forget (step : Step) : Step :=
  { step with cursor := step.cursor.forget }

/-- The polls without what their cursors have searched. -/
def Cursor.Drained.forget (drained : Drained) : Drained :=
  { drained with last := drained.last.forget }

namespace Cursor

theorem forget_pollLines {cursor : Cursor} {buffer : List UInt8} (h : cursor.InStep buffer) :
    (cursor.pollLines buffer).forget = cursor.forget.rescanLines buffer := by
  -- Both cursors take the same line, and have searched nothing of the next one.
  induction buffer using line_induction generalizing cursor with
  | tail tail htail =>
      rw [pollLines_tail h htail, rescanLines_tail htail, limit_forget]
      split <;> rfl
  | line line rest hline ih =>
      rw [pollLines_line h hline, rescanLines_line hline, limit_forget, lines_forget,
        nextLine_forget]
      split
      · rfl
      · cases vectorOnLine? (cursor.lines + 1) line with
        | some vector => rfl
        | none =>
            have hrest := ih (cursor.inStep_nextLine rest)
            rw [forget_nextLine] at hrest
            simp only [← hrest]
            rfl

theorem forget_poll (stage : Stage) {cursor : Cursor} {buffer : List UInt8}
    (h : cursor.InStep buffer) :
    (cursor.poll stage buffer).forget = cursor.forget.rescan stage buffer := by
  unfold rescan poll
  rw [← forget_pollLines h]
  obtain ⟨outcome, next, rest, records⟩ := cursor.pollLines buffer
  cases stage <;> cases outcome <;> cases rest <;> rfl

theorem rescanDrain_of_found {stage : Stage} {cursor : Cursor} {buffer : List UInt8}
    {vector : LoggedVector} (h : (cursor.rescan stage buffer).outcome = .found vector) :
    cursor.rescanDrain stage buffer =
      let step := cursor.rescan stage buffer
      let more := step.cursor.rescanDrain stage step.rest
      ⟨vector :: more.found, more.last, step.records ++ more.records⟩ := by
  rw [rescanDrain]
  split
  next other hother =>
    obtain rfl : vector = other := Outcome.found.inj (h.symm.trans hother)
    rfl
  next hnot => exact absurd h (hnot vector)

theorem rescanDrain_of_not_found {stage : Stage} {cursor : Cursor} {buffer : List UInt8}
    (h : ∀ vector, (cursor.rescan stage buffer).outcome ≠ .found vector) :
    cursor.rescanDrain stage buffer =
      ⟨[], cursor.rescan stage buffer, (cursor.rescan stage buffer).records⟩ := by
  rw [rescanDrain]
  split
  next vector hfound => exact absurd hfound (h vector)
  next => rfl

theorem forget_drain (stage : Stage) {cursor : Cursor} {buffer : List UInt8}
    (h : cursor.InStep buffer) :
    (cursor.drain stage buffer).forget = cursor.forget.rescanDrain stage buffer := by
  fun_induction Cursor.drain stage cursor buffer with
  | case1 cursor buffer step vector hfound more ih =>
      -- The polls agree on the vector, and what is left is in step for those that follow.
      have hstep : step.forget = cursor.forget.rescan stage buffer := forget_poll stage h
      have hmore : more.forget = step.cursor.forget.rescanDrain stage step.rest :=
        ih (poll_inStep stage h).1
      have hrescan : (cursor.forget.rescan stage buffer).outcome = .found vector := by
        rw [← hstep]
        exact hfound
      rw [rescanDrain_of_found hrescan, ← hstep]
      calc
        _ = (⟨vector :: more.forget.found, more.forget.last,
              step.records ++ more.forget.records⟩ : Drained) := rfl
        _ = _ := by
          rw [hmore]
          rfl
  | case2 cursor buffer step hother =>
      have hstep : step.forget = cursor.forget.rescan stage buffer := forget_poll stage h
      have hrescan : ∀ vector, (cursor.forget.rescan stage buffer).outcome ≠ .found vector := by
        rw [← hstep]
        exact hother
      rw [rescanDrain_of_not_found hrescan, ← hstep]
      rfl

end Cursor

/-! ## Sessions that search again -/

/-- The session without what its cursor has searched. -/
def Session.forget (session : Session) : Session :=
  { session with cursor := session.cursor.forget }

/-- The response without what its cursor has searched. -/
def Response.forget (response : Response) : Response :=
  { response with session := response.session.forget }

namespace Session

/-- Performs one operation, with a search from the first byte of the buffer on every poll. -/
def rescan (session : Session) : Operation → Response
  | .poll stage =>
      let step := session.cursor.rescan stage session.buffer
      ⟨[step.outcome], ⟨step.cursor, step.rest⟩, step.records⟩
  | .drain stage =>
      let drained := session.cursor.rescanDrain stage session.buffer
      ⟨drained.found.map .found ++ [drained.last.outcome],
        ⟨drained.last.cursor, drained.last.rest⟩, drained.records⟩
  | operation => session.perform operation

/-- Performs operations one after the other, with a search from the first byte on every poll. -/
def rescanAll (session : Session) : List Operation → List Response
  | [] => []
  | operation :: rest =>
      let response := session.rescan operation
      response :: response.session.rescanAll rest

theorem forget_perform {session : Session} (h : session.InStep) {operation : Operation}
    (hcut : operation.isCut = false) :
    (session.perform operation).forget = session.forget.rescan operation := by
  cases operation with
  | push data => rfl
  | cut length => cases hcut
  | setLimit limit => rfl
  | poll stage =>
      have hstep := Cursor.forget_poll stage h
      simp only [rescan, forget, ← hstep]
      rfl
  | drain stage =>
      have hdrain := Cursor.forget_drain stage h
      simp only [rescan, forget, ← hdrain]
      rfl

theorem forget_performAll {session : Session} (h : session.InStep) {operations : List Operation}
    (hcut : ∀ operation ∈ operations, operation.isCut = false) :
    (session.performAll operations).map Response.forget =
      session.forget.rescanAll operations := by
  induction operations generalizing session with
  | nil => rfl
  | cons operation rest ih =>
      obtain ⟨hfirst, hrest⟩ := List.forall_mem_cons.mp hcut
      have hresponse := forget_perform h hfirst
      have hlater := ih (perform_inStep h hfirst).1 hrest
      rw [performAll, rescanAll, List.map_cons, hlater, hresponse, ← hresponse]
      rfl

theorem performAll_inStep {session : Session} (h : session.InStep) {operations : List Operation}
    (hcut : ∀ operation ∈ operations, operation.isCut = false) :
    ∀ response ∈ session.performAll operations,
      response.session.InStep ∧ .outOfStep ∉ response.outcomes := by
  induction operations generalizing session with
  | nil => exact nofun
  | cons operation rest ih =>
      obtain ⟨hfirst, hrest⟩ := List.forall_mem_cons.mp hcut
      have hstep := perform_inStep h hfirst
      exact List.forall_mem_cons.mpr ⟨hstep, ih hstep.1 hrest⟩

/-- Remembering how far the buffer was searched changes no result: whatever is appended, polled
and drained, with whatever limits, the results, the lines counted, the bytes left and the records
are those of a cursor that searches from the first byte on every poll. After every operation the
searched part lies in the buffer and holds no newline. -/
theorem performAll_eq_rescanAll (limit : Nat) (operations : List Operation)
    (hcut : ∀ operation ∈ operations, operation.isCut = false) :
    let session : Session := { cursor := { limit := limit } }
    (session.performAll operations).map Response.forget = session.rescanAll operations ∧
      ∀ response ∈ session.performAll operations,
        response.session.cursor.searched ≤ response.session.buffer.length ∧
        newline ∉ response.session.buffer.take response.session.cursor.searched ∧
        .outOfStep ∉ response.outcomes := by
  intro session
  have hstep : session.InStep := Cursor.inStep_of_searched_eq_zero rfl []
  refine ⟨forget_performAll hstep hcut, ?_⟩
  intro response hresponse
  obtain ⟨hafter, houtcomes⟩ := performAll_inStep hstep hcut response hresponse
  exact ⟨hafter.searched_le, hafter.newline_not_mem, houtcomes⟩

/-- A line that is pushed in parts, before and after a limit that one of them exceeds. -/
theorem performAll_eq_rescanAll_across_limit :
    let operations : List Operation :=
      [.push [97, 98], .poll .reading, .push [99, 10, 100], .setLimit 2, .poll .reading,
        .drain .reading, .push [10, 101], .poll .ended, .drain .ended]
    let session : Session := { cursor := { limit := 3 } }
    (∀ operation ∈ operations, operation.isCut = false) ∧
      (session.performAll operations).map Response.forget = session.rescanAll operations ∧
      ∀ response ∈ session.performAll operations,
        response.session.cursor.searched ≤ response.session.buffer.length ∧
        newline ∉ response.session.buffer.take response.session.cursor.searched ∧
        .outOfStep ∉ response.outcomes :=
  ⟨by decide, performAll_eq_rescanAll 3 _ (by decide)⟩

end Session

end FrameStatus.DebugLog
