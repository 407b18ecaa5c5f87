import FrameStatus.CommandLine.Request
import FrameStatus.DebugLog.Scanner
import FrameStatus.Text.ControlSequence

/-!
# Runs of the program

What the program writes and how it exits, for every command line and everything it may read. A scan
reports all vectors of a log or, if the log cannot be read to its end, none.
-/

namespace FrameStatus.CommandLine

/-- What opening a log gives: the data that can be read from it, or why it cannot be opened. -/
abbrev Inputs := Origin → Except IoError (List DebugLog.ReadResult)

/-- What a run comes to. -/
structure Outcome where
  exitCode : Nat
  stdout : String
  records : List LogRecord
  /-- The message of a run that was broken off. -/
  failure? : Option String
  deriving DecidableEq, Repr

/-- A record as it is shown to a user. Its text may come from the command line, so that it is kept
from controlling the terminal. -/
def showRecord (record : LogRecord) : String :=
  Text.withoutControls ("[" ++ Text.alignLeft 5 record.level.name ++ " " ++ record.source.name ++
    "] " ++ Text.hangingIndent 4 record.text ++ "\n")

/-- What is written to the standard error: the records for users, and the failure. -/
def Outcome.stderr (outcome : Outcome) : String :=
  String.join ((outcome.records.filter (·.level.isShown)).map showRecord) ++
    (outcome.failure?.map (· ++ "\n")).getD ""

/-- The run that an error breaks off. -/
def brokenOff (records : List LogRecord) (diagnostic : String) : Outcome :=
  ⟨1, "", records, some ("Error: " ++ diagnostic)⟩

/-- What is said when there is nothing to do. -/
def hint : String :=
  "No status vector given. Use svdecode <VECTOR>... to decode dumps or svdecode scan <PATH> " ++
    "to scan a debug log.\n"

/-- The entries of vectors given as words. -/
def wordEntries (join : Bool) (vectors : List String) : List Entry :=
  if join then [Entry.ofDump (" ".intercalate vectors)] else vectors.map Entry.ofDump

/-- A record of the program itself. -/
def programRecord (level : LogLevel) (text : String) : LogRecord :=
  ⟨level, .commandLine, text⟩

/-- The number of entries that failed. -/
def failedCount (entries : List Entry) : Nat :=
  entries.countP Entry.isFailed

/-- The record that counts the failed entries, if there are any. -/
def failureRecords (entries : List Entry) : List LogRecord :=
  if failedCount entries = 0 then []
  else
    [programRecord .error (Text.decimal (failedCount entries) ++ " of " ++
      Text.decimal entries.length ++ " inputs could not be decoded")]

/-- The name of an origin. -/
def Origin.name : Origin → String
  | stdin => "stdin"
  | file path => path

/-- The record at the start of a scan. -/
def scanningRecord (origin : Origin) : LogRecord :=
  programRecord .info ("Scanning " ++ origin.name)

/-- The record at the end of a scan. -/
def foundRecord (count : Nat) : LogRecord :=
  programRecord .info ("Found " ++ Text.decimal count ++ " status vectors")

namespace Invocation

/-- Reports entries, after records of how they were found. -/
def reportEntries (invocation : Invocation) (records : List LogRecord) (entries : List Entry) :
    Outcome where
  exitCode := if failedCount entries = 0 then 0 else 1
  stdout := report invocation.format invocation.describe entries
  records := records ++ failureRecords entries
  failure? := none

/-- Reports the vectors of a log that was read. -/
def reportScanned (invocation : Invocation) (origin : Origin) (scanned : DebugLog.Scanner.Scanned) :
    Outcome :=
  match scanned.outcome with
  | .error e => brokenOff (scanningRecord origin :: scanned.records) e.diagnostic
  | .ok vectors =>
      invocation.reportEntries
        (scanningRecord origin :: scanned.records ++ [foundRecord vectors.length])
        (vectors.map Entry.ofLogged)

/-- Performs an invocation. -/
def perform (inputs : Inputs) (invocation : Invocation) : Outcome :=
  match invocation.command with
  | .nothing => ⟨1, hint, [], none⟩
  | .decode join vectors => invocation.reportEntries [] (wordEntries join vectors)
  | .scan origin limit =>
      match inputs origin with
      | .error e => brokenOff [scanningRecord origin] e.diagnostic
      | .ok source =>
          invocation.reportScanned origin
            (DebugLog.Scanner.start { limit } (DebugLog.reads source)).run

end Invocation

/-- How the program is used. -/
def usage : String :=
  "Usage: svdecode [OPTION]... [VECTOR]...\n" ++
  "       svdecode [OPTION]... decode [OPTION]... [VECTOR]...\n" ++
  "       svdecode [OPTION]... scan [OPTION]... [PATH]\n" ++
  "\n" ++
  "Decodes status vectors given as hex dumps, or found in a debug log.\n" ++
  "\n" ++
  "  -f, --format text|json       how the report is written\n" ++
  "  -d, --describe               describe every field\n" ++
  "  -j, --join                   treat all words as one vector (not in a scan)\n" ++
  "  -m, --max-line-length COUNT  the longest line of a log (only in a scan)\n" ++
  "  -h, --help                   print this text\n"

/-- Runs the program. -/
def run (inputs : Inputs) (args : List String) : Outcome :=
  match Request.ofArguments args with
  | .error e => ⟨2, "", [], some ("svdecode: " ++ e.message)⟩
  | .ok .help => ⟨0, usage, [], none⟩
  | .ok (.perform invocation) => invocation.perform inputs

end FrameStatus.CommandLine
