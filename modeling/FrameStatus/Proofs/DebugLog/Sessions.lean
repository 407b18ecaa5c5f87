import FrameStatus.DebugLog.Session
import FrameStatus.Proofs.DebugLog.Polling

/-!
# Sessions whose buffer is never cut

The owner of a session may push, poll, drain and set the limit as it likes. As long as it does not
cut the buffer, the cursor stays in step with it. The sessions that come about so are the reachable
ones.
-/

namespace FrameStatus.DebugLog

/-- Whether the operation cuts the buffer behind the back of the cursor. -/
def Operation.isCut : Operation → Bool
  | .cut _ => true
  | _ => false

namespace Session

/-- The cursor of the session is in step with its buffer. -/
def InStep (session : Session) : Prop :=
  session.cursor.InStep session.buffer

theorem perform_inStep {session : Session} (h : session.InStep) {operation : Operation}
    (hcut : operation.isCut = false) :
    (session.perform operation).session.InStep ∧
      .outOfStep ∉ (session.perform operation).outcomes := by
  cases operation with
  | push data => exact ⟨h.append data, List.not_mem_nil⟩
  | cut length => cases hcut
  | setLimit limit => exact ⟨⟨h.searched_le, h.newline_not_mem⟩, List.not_mem_nil⟩
  | poll stage =>
      obtain ⟨hstep, houtcome⟩ := Cursor.poll_inStep stage h
      exact ⟨hstep, by simpa [perform] using houtcome.symm⟩
  | drain stage =>
      obtain ⟨hstep, houtcome⟩ := Cursor.drain_inStep stage h
      exact ⟨hstep, by simpa [perform] using houtcome.symm⟩

/-- The session after operations done one after the other. -/
def afterAll (session : Session) : List Operation → Session
  | [] => session
  | operation :: rest => (session.perform operation).session.afterAll rest

/-- The sessions that a cursor and an empty buffer can come to without a cut. -/
inductive Reachable : Session → Prop
  | start (limit : Nat) : Reachable { cursor := { limit := limit } }
  | perform {session : Session} {operation : Operation} (hcut : operation.isCut = false)
      (hbefore : Reachable session) : Reachable (session.perform operation).session

theorem Reachable.inStep {session : Session} (h : session.Reachable) : session.InStep := by
  induction h with
  | start limit => exact Cursor.inStep_of_searched_eq_zero rfl []
  | perform hcut _ ih => exact (perform_inStep ih hcut).1

end Session

end FrameStatus.DebugLog
