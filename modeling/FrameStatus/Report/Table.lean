import FrameStatus.Report.Entry
import FrameStatus.Reading
import FrameStatus.Text.Column

/-!
# Reports for people

Every entry is a block of lines: a failed one its error, a decoded one a table with a row for every
field. Blank lines stand between the blocks.
-/

namespace FrameStatus

/-- The bits of a range: a single one, or the first and the last. -/
def BitRange.text (bits : BitRange) : String :=
  if bits.first = bits.last then Text.decimal bits.first.toNat
  else Text.decimal bits.first.toNat ++ "-" ++ Text.decimal bits.last.toNat

/-- How a verdict stands in a table, where the neutral one leaves no mark. -/
def Verdict.mark : Verdict → String
  | healthy => "ok"
  | error => "ERROR"
  | neutral => ""

/-- A row of a table. -/
def tableRow (bits name value verdict : String) : String :=
  "  " ++ Text.alignLeft 6 bits ++ " " ++ Text.alignLeft 32 name ++ " " ++
    Text.alignRight 6 value ++ "  " ++ verdict

/-- The row above all others. -/
def tableHeading : String :=
  tableRow "Bits" "Field" "Value" "Verdict"

namespace Reading

/-- The row of a reading. -/
def row (reading : Reading) : String :=
  tableRow reading.field.slice.bits.text reading.field.name reading.display reading.verdict.mark

/-- The description of the field, below its name. -/
def descriptionLine (reading : Reading) : String :=
  Text.blanks 9 ++ reading.field.description

/-- The lines of a reading, with or without the description. -/
def lines (describe : Bool) (reading : Reading) : List String :=
  if describe then [reading.row, reading.descriptionLine] else [reading.row]

end Reading

namespace Entry

/-- The lines of an entry. -/
def lines (describe : Bool) (entry : Entry) : List String :=
  match entry.outcome with
  | .error e => [entry.source ++ ": " ++ e.message]
  | .ok vector =>
      (entry.source ++ ": " ++ vector.kind.title ++ " (" ++ vector.hex ++ ")") :: tableHeading ::
        vector.readings.flatMap (Reading.lines describe)

/-- The block of an entry. -/
def block (describe : Bool) (entry : Entry) : String :=
  String.join ((entry.lines describe).map (· ++ "\n"))

end Entry

/-- The report of entries for people. -/
def tableReport (describe : Bool) (entries : List Entry) : String :=
  "\n".intercalate (entries.map (Entry.block describe))

end FrameStatus
