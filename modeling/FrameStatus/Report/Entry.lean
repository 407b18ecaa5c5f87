import FrameStatus.DebugLog.Line

/-!
# Entries of a report

An entry is an input that was decoded, under the name that the report gives it.
-/

namespace FrameStatus

/-- A decoded input and where it came from. -/
structure Entry where
  source : String
  outcome : Except DecodeError StatusVector
  deriving DecidableEq, Repr

namespace Entry

/-- The entry of a dump, which is its own name. -/
def ofDump (dump : String) : Entry :=
  ⟨dump, decode dump⟩

/-- The entry of a vector in a debug log, named by its line. -/
def ofLogged (logged : DebugLog.LoggedVector) : Entry :=
  ⟨"line " ++ Text.decimal logged.line, logged.outcome⟩

/-- Whether decoding failed. -/
def isFailed (entry : Entry) : Bool :=
  match entry.outcome with
  | .ok _ => false
  | .error _ => true

end Entry

end FrameStatus
