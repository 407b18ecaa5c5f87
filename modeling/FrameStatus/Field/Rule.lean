/-!
# Verdicts

What the value of a field says about the frame, and the rules that decide it.
-/

namespace FrameStatus

/-- What a value says about the frame. -/
inductive Verdict where
  /-- A frame that was handled well reports such a value. -/
  | healthy
  /-- Something is wrong with the frame or the controller. -/
  | error
  /-- The value says nothing either way. -/
  | neutral
  deriving DecidableEq, Repr

/-- The name of a verdict in documents. -/
def Verdict.key : Verdict → String
  | healthy => "healthy"
  | error => "error"
  | neutral => "neutral"

/-- How the value of a field is judged. -/
inductive Rule where
  /-- No value says anything. -/
  | neutral
  /-- Values up to the limit are healthy. -/
  | atMost (limit : Nat)
  /-- Only zero is healthy. -/
  | zero
  /-- All but zero is healthy. -/
  | nonzero
  deriving DecidableEq, Repr

/-- The verdict of a rule on a value. -/
def Rule.judge (value : Nat) : Rule → Verdict
  | neutral => .neutral
  | atMost limit => if value ≤ limit then .healthy else .error
  | zero => if value = 0 then .healthy else .error
  | nonzero => if value = 0 then .error else .healthy

end FrameStatus
