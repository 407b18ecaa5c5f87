import FrameStatus.Decode
import FrameStatus.Text.Search
import FrameStatus.Text.Utf8

/-!
# Lines of a debug log

The firmware prints every vector on a line of its own, behind the name of its kind and the marker
`Status Vector:`. Anything may stand in front of that, and the line may hold bytes that are no
text.
-/

namespace FrameStatus.DebugLog

/-- A vector found in a debug log: the number of its line, the kind that the line announces, and
what decoding as that kind gave. -/
structure LoggedVector where
  line : Nat
  announced : Kind
  outcome : Except DecodeError StatusVector
  deriving DecidableEq, Repr

/-- What the text of a line is. -/
inductive LineContent where
  /-- The marker does not occur. -/
  | plain
  /-- The marker occurs, but no kind is named in front of its first occurrence. -/
  | unannounced
  /-- A kind is named in front of the first marker. The rest of the line is the dump. -/
  | vector (announced : Kind) (dump : String)
  deriving DecidableEq, Repr

/-- The marker in front of every dump. -/
def marker : String := "Status Vector:"

/-- The kind that a text ends in naming, white space aside. -/
def announcedKind? (text : List Char) : Option Kind :=
  [Kind.receive, Kind.transmit].find? fun kind => kind.name.toList.isSuffixOf (Text.trimEnd text)

/-- What a text is, judged by the first marker in it. -/
def LineContent.ofText (text : List Char) : LineContent :=
  match Text.splitFirst? marker.toList text with
  | none => .plain
  | some (before, dump) =>
      match announcedKind? before with
      | none => .unannounced
      | some kind => .vector kind (String.ofList dump)

/-- The text of a line, without white space at its end. -/
def lineText (line : List UInt8) : List Char :=
  Text.trimEnd (Text.Utf8.decode line)

/-- A record about the line of the given number. -/
def lineRecord (level : LogLevel) (number : Nat) (text : String) : LogRecord :=
  ⟨level, .debugLog, "Line " ++ Text.decimal number ++ ": " ++ text⟩

/-- The record about the outcome of a dump. -/
def outcomeRecord (number : Nat) (announced : Kind) :
    Except DecodeError StatusVector → LogRecord
  | .ok vector => lineRecord .trace number (announced.title ++ " " ++ vector.hex)
  | .error e => lineRecord .warn number e.message

/-- The vector on a line, if there is one. -/
def vectorOnLine? (number : Nat) (line : List UInt8) : Option LoggedVector :=
  match LineContent.ofText (lineText line) with
  | .vector announced dump => some ⟨number, announced, decodeAs announced dump⟩
  | _ => none

/-- What reading a line logs. -/
def lineRecords (number : Nat) (line : List UInt8) : List LogRecord :=
  match LineContent.ofText (lineText line) with
  | .plain => []
  | .unannounced =>
      [lineRecord .debug number
        ("unknown vector kind in " ++ Text.quoteText (String.ofList (lineText line)))]
  | .vector announced dump =>
      decodeRecords dump ++ [outcomeRecord number announced (decodeAs announced dump)]

end FrameStatus.DebugLog
