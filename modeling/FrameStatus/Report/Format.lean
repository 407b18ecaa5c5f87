import FrameStatus.Report.Document
import FrameStatus.Report.Table

/-!
# Formats of a report
-/

namespace FrameStatus

/-- How a report is written. -/
inductive ReportFormat where
  /-- Tables for people. -/
  | text
  /-- A document for programs. -/
  | json
  deriving DecidableEq, Repr

namespace ReportFormat

/-- The name of a format. -/
def name : ReportFormat → String
  | text => "text"
  | json => "json"

/-- The format of a name. -/
def ofName? (text : String) : Option ReportFormat :=
  [ReportFormat.text, .json].find? (·.name == text)

end ReportFormat

/-- The report of entries in a format. Only tables can show descriptions by choice. -/
def report (format : ReportFormat) (describe : Bool) (entries : List Entry) : String :=
  match format with
  | .text => tableReport describe entries
  | .json => documentReport entries

end FrameStatus
