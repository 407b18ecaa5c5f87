import FrameStatus.Json.Basic
import FrameStatus.Text.Numeral

/-!
# JSON text

Two layouts of one value: compact without any white space, and pretty with one item or member a
line, indented by two spaces for every level.
-/

namespace FrameStatus.Json

/-- A character as it stands in a JSON string. -/
def escape (c : Char) : List Char :=
  match c with
  | '"' => ['\\', '"']
  | '\\' => ['\\', '\\']
  | '\x08' => ['\\', 'b']
  | '\x0C' => ['\\', 'f']
  | '\n' => ['\\', 'n']
  | '\r' => ['\\', 'r']
  | '\t' => ['\\', 't']
  | c =>
      if c.toNat < 0x20 then
        ['\\', 'u', '0', '0'] ++ Text.hexByte (UInt8.ofNat c.toNat)
      else [c]

/-- A text as a JSON string. -/
def quote (text : String) : String :=
  String.ofList (['"'] ++ text.toList.flatMap escape ++ ['"'])

mutual

/-- The text of a value without white space. -/
def compact : Json → String
  | number value => Text.decimal value
  | bool value => if value then "true" else "false"
  | string text => quote text
  | array items => "[" ++ compactItems items ++ "]"
  | object members => "\x7b" ++ compactMembers members ++ "\x7d"

/-- Items with commas between them. -/
def compactItems : List Json → String
  | [] => ""
  | item :: rest => compact item ++ if rest.isEmpty then "" else "," ++ compactItems rest

/-- Members with commas between them. -/
def compactMembers : List (String × Json) → String
  | [] => ""
  | (key, value) :: rest =>
      quote key ++ ":" ++ compact value ++ if rest.isEmpty then "" else "," ++ compactMembers rest

end

/-- A new line, indented for the given level. -/
def newLine (level : Nat) : String :=
  String.ofList ('\n' :: List.replicate (2 * level) ' ')

mutual

/-- The text of a value with one item or member a line. The value itself starts at a level. -/
def pretty (level : Nat) : Json → String
  | number value => Text.decimal value
  | bool value => if value then "true" else "false"
  | string text => quote text
  | array items =>
      if items.isEmpty then "[]" else "[" ++ prettyItems level items ++ newLine level ++ "]"
  | object members =>
      if members.isEmpty then "\x7b\x7d"
      else "\x7b" ++ prettyMembers level members ++ newLine level ++ "\x7d"

/-- Items, each on a line of the next level. -/
def prettyItems (level : Nat) : List Json → String
  | [] => ""
  | item :: rest =>
      newLine (level + 1) ++ pretty (level + 1) item ++
        if rest.isEmpty then "" else "," ++ prettyItems level rest

/-- Members, each on a line of the next level. -/
def prettyMembers (level : Nat) : List (String × Json) → String
  | [] => ""
  | (key, value) :: rest =>
      newLine (level + 1) ++ quote key ++ ": " ++ pretty (level + 1) value ++
        if rest.isEmpty then "" else "," ++ prettyMembers level rest

end

end FrameStatus.Json
