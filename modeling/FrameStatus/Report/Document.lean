import FrameStatus.Document
import FrameStatus.Report.Entry

/-!
# Reports for programs

A report is a JSON array with an object for every entry. The members of all objects stand in the
order of their keys.
-/

namespace FrameStatus

/-- The document of an entry: its vector, or the text of the error. -/
def Entry.toJson (entry : Entry) : Json :=
  match entry.outcome with
  | .ok vector => .object [("source", .string entry.source), ("vector", vector.toJson)]
  | .error e => .object [("source", .string entry.source), ("error", .string e.message)]

/-- The report of entries for programs. -/
def documentReport (entries : List Entry) : String :=
  (Json.array (entries.map Entry.toJson)).sortKeys.pretty 0 ++ "\n"

end FrameStatus
