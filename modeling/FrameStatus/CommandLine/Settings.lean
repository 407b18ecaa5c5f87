import FrameStatus.Report.Format
import FrameStatus.Text.Numeral

/-!
# Settings

What the options of the command line set, which of them may stand where, and why a command line is
refused.
-/

namespace FrameStatus.CommandLine

/-- What an option sets or asks for. -/
inductive Setting where
  | format
  | describe
  | join
  | lineLimit
  | help
  deriving DecidableEq, Repr

namespace Setting

/-- The name behind two dashes. -/
def name : Setting → String
  | format => "format"
  | describe => "describe"
  | join => "join"
  | lineLimit => "max-line-length"
  | help => "help"

/-- The letter behind one dash. -/
def letter : Setting → Char
  | format => 'f'
  | describe => 'd'
  | join => 'j'
  | lineLimit => 'm'
  | help => 'h'

/-- Whether the option has a value. -/
def hasValue : Setting → Bool
  | format | lineLimit => true
  | describe | join | help => false

end Setting

/-- The commands that a word can name. -/
inductive CommandName where
  | decode
  | scan
  | help
  deriving DecidableEq, Repr

namespace CommandName

/-- The word that names a command. -/
def word : CommandName → String
  | decode => "decode"
  | scan => "scan"
  | help => "help"

/-- The command that a word names. -/
def ofWord? (text : String) : Option CommandName :=
  [CommandName.decode, .scan, .help].find? (·.word == text)

end CommandName

/-- The part of the command line that a word belongs to: that before the name of a command, or that
behind it. -/
inductive Scope where
  | outer
  | decode
  | scan
  deriving DecidableEq, Repr

namespace Scope

/-- The settings that options of a scope can set. -/
def settings : Scope → List Setting
  | outer | decode => [.format, .describe, .join, .help]
  | scan => [.format, .describe, .lineLimit, .help]

/-- The setting of a long option. -/
def settingOfName? (scope : Scope) (name : String) : Option Setting :=
  scope.settings.find? (·.name == name)

/-- The setting of a short option. -/
def settingOfLetter? (scope : Scope) (letter : Char) : Option Setting :=
  scope.settings.find? (·.letter == letter)

/-- The command that a word names in a scope. -/
def command? (scope : Scope) (text : String) : Option CommandName :=
  match scope with
  | outer => CommandName.ofWord? text
  | decode | scan => none

end Scope

/-- Why a command line is refused. -/
inductive UsageError where
  /-- No option of this name may stand here. -/
  | unknownOption (text : String)
  /-- The option needs a value and has none. -/
  | missingValue (setting : Setting)
  /-- The option has a value and takes none. -/
  | needlessValue (setting : Setting) (value : String)
  /-- The option cannot have this value. -/
  | invalidValue (setting : Setting) (value : String)
  /-- The option was given before. -/
  | repeatedOption (setting : Setting)
  /-- The path of the log is empty. -/
  | emptyPath
  /-- The log has a path already. -/
  | secondPath (text : String)
  /-- Help is asked for a command that does not exist. -/
  | unknownCommand (text : String)
  deriving DecidableEq, Repr

/-- The text shown to a user. -/
def UsageError.message : UsageError → String
  | unknownOption text => "unknown option " ++ text
  | missingValue setting => "option --" ++ setting.name ++ " needs a value"
  | needlessValue setting value =>
      "option --" ++ setting.name ++ " takes no value, but got " ++ value
  | invalidValue setting value => "option --" ++ setting.name ++ " cannot be " ++ value
  | repeatedOption setting => "option --" ++ setting.name ++ " is given twice"
  | emptyPath => "the path of the log is empty"
  | secondPath text => "only one log can be scanned, but got " ++ text ++ " as well"
  | unknownCommand text => "there is no command " ++ text

/-- What the words of a scope set. -/
structure Settings where
  format? : Option ReportFormat := none
  describe : Bool := false
  join : Bool := false
  limit? : Option Nat := none
  /-- The words that are no options. -/
  words : List String := []
  deriving DecidableEq, Repr

/-- The greatest limit on the length of a line that can be set. -/
def greatestLimit : Nat := UInt64.size - 1

/-- A numeral without the plus sign that it may have. -/
def dropPlus : List Char → List Char
  | '+' :: digits => digits
  | digits => digits

/-- The limit that a numeral sets. -/
def limitOfText? (text : String) : Option Nat :=
  (Text.decimalValue? (dropPlus text.toList)).filter (· ≤ greatestLimit)

namespace Settings

/-- Sets what an option with a value sets. -/
def assign (settings : Settings) (setting : Setting) (value : String) :
    Except UsageError Settings :=
  match setting with
  | .format =>
      match settings.format?, ReportFormat.ofName? value with
      | some _, _ => .error (.repeatedOption .format)
      | none, none => .error (.invalidValue .format value)
      | none, some format => .ok { settings with format? := some format }
  | .lineLimit =>
      match settings.limit?, limitOfText? value with
      | some _, _ => .error (.repeatedOption .lineLimit)
      | none, none => .error (.invalidValue .lineLimit value)
      | none, some limit => .ok { settings with limit? := some limit }
  | .describe | .join | .help => .error (.needlessValue setting value)

/-- Sets what an option without a value sets. -/
def turnOn (settings : Settings) (setting : Setting) : Except UsageError Settings :=
  match setting with
  | .describe =>
      if settings.describe then .error (.repeatedOption .describe)
      else .ok { settings with describe := true }
  | .join =>
      if settings.join then .error (.repeatedOption .join) else .ok { settings with join := true }
  | .help => .ok settings
  | .format | .lineLimit => .error (.missingValue setting)

/-- Adds a word that is no option. A scan has at most one, the path of the log. -/
def addWord (settings : Settings) (scope : Scope) (text : String) : Except UsageError Settings :=
  match scope with
  | .outer | .decode => .ok { settings with words := settings.words ++ [text] }
  | .scan =>
      if text = "" then .error .emptyPath
      else if settings.words = [] then .ok { settings with words := [text] }
      else .error (.secondPath text)

/-- The settings of a command, where those before its name hold unless it sets them itself. -/
def within (inner outer : Settings) : Settings :=
  { inner with
    format? := inner.format?.or outer.format?
    describe := inner.describe || outer.describe }

end Settings

end FrameStatus.CommandLine
