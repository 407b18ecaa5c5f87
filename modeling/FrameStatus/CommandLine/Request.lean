import FrameStatus.CommandLine.Settings
import FrameStatus.CommandLine.Word
import FrameStatus.DebugLog.Cursor

/-!
# Requests

A command line is read word by word. Where an option or nothing came before, a word may name a
command, and the words behind it belong to that command. Once a plain word has been read, no
command can be named before the next option.
-/

namespace FrameStatus.CommandLine

/-- What the next word may be. -/
inductive Mode where
  /-- Anything. -/
  | anything
  /-- Anything but the name of a command. -/
  | noCommand
  /-- The value of an option. -/
  | value (setting : Setting)
  /-- A plain word, whatever it looks like. -/
  | plainOnly
  /-- Help was asked for, and no further word counts. -/
  | help
  deriving DecidableEq, Repr

/-- Settings so far and what may come next. -/
structure State where
  settings : Settings := {}
  mode : Mode := .anything
  deriving DecidableEq, Repr

/-- What the words of a scope come to. -/
inductive Scoped where
  | help
  | settings (settings : Settings)
  /-- A command is named, and the rest belongs to it. -/
  | command (settings : Settings) (name : CommandName) (rest : List String)
  deriving DecidableEq, Repr

/-- The settings with a value of an option. -/
def readValue (settings : Settings) (setting : Setting) (value : String) :
    Except UsageError State :=
  (settings.assign setting value).map (⟨·, .anything⟩)

/-- Reads the letters behind one dash. Behind an option with a value, all that is left is its
value. -/
def readLetters (scope : Scope) (settings : Settings) : List Char → Except UsageError State
  | [] => .ok ⟨settings, .anything⟩
  | letter :: rest =>
      match scope.settingOfLetter? letter with
      | none => .error (.unknownOption (String.ofList ['-', letter]))
      | some .help => .ok ⟨settings, .help⟩
      | some setting =>
          if setting.hasValue then
            match rest with
            | [] => .ok ⟨settings, .value setting⟩
            | '=' :: value => readValue settings setting (String.ofList value)
            | value => readValue settings setting (String.ofList value)
          else
            match settings.turnOn setting with
            | .error e => .error e
            | .ok next => readLetters scope next rest

/-- Reads a long option. -/
def readLong (scope : Scope) (settings : Settings) (name : String) (value? : Option String) :
    Except UsageError State :=
  match scope.settingOfName? name, value? with
  | none, _ => .error (.unknownOption ("--" ++ name))
  | some setting, some value => readValue settings setting value
  | some .help, none => .ok ⟨settings, .help⟩
  | some setting, none =>
      if setting.hasValue then .ok ⟨settings, .value setting⟩
      else (settings.turnOn setting).map (⟨·, .anything⟩)

namespace State

/-- Adds a plain word and goes on in the given mode. -/
def addWord (state : State) (scope : Scope) (text : String) (mode : Mode) :
    Except UsageError State :=
  (state.settings.addWord scope text).map (⟨·, mode⟩)

/-- Reads a word that names no command. -/
def step (state : State) (scope : Scope) (text : String) : Except UsageError State :=
  match state.mode with
  | .help => .ok state
  | .plainOnly => state.addWord scope text .plainOnly
  | .value setting =>
      match Word.ofText text with
      | .plain => readValue state.settings setting text
      | _ => .error (.missingValue setting)
  | .anything | .noCommand =>
      match Word.ofText text with
      | .plain => state.addWord scope text .noCommand
      | .endOfOptions => .ok ⟨state.settings, .plainOnly⟩
      | .long name value? => readLong scope state.settings name value?
      | .short letters => readLetters scope state.settings letters

/-- What the words come to when no more follow. -/
def finish (state : State) : Except UsageError Scoped :=
  match state.mode with
  | .help => .ok .help
  | .value setting => .error (.missingValue setting)
  | _ => .ok (.settings state.settings)

/-- The command that a word names, where one may be named. -/
def command? (state : State) (scope : Scope) (text : String) : Option CommandName :=
  match state.mode with
  | .anything => scope.command? text
  | _ => none

/-- Reads the words of a scope. -/
def read (scope : Scope) (state : State) : List String → Except UsageError Scoped
  | [] => state.finish
  | text :: rest =>
      match state.command? scope text with
      | some name => .ok (.command state.settings name rest)
      | none =>
          match state.step scope text with
          | .error e => .error e
          | .ok next => next.read scope rest

end State

/-- Where a debug log comes from. -/
inductive Origin where
  | stdin
  | file (path : String)
  deriving DecidableEq, Repr

/-- The origin that the words of a scan name. A dash, or no word at all, is the standard input. -/
def Origin.ofWords : List String → Origin
  | [] => stdin
  | path :: _ => if path = "-" then stdin else file path

/-- What is to be done. -/
inductive Command where
  /-- No command is named and no vector given. -/
  | nothing
  /-- Decode vectors one by one, or all joined to one. -/
  | decode (join : Bool) (vectors : List String)
  /-- Look for vectors in a debug log with lines of limited length. -/
  | scan (origin : Origin) (limit : Nat)
  deriving DecidableEq, Repr

/-- What is to be done and how it is reported. -/
structure Invocation where
  format : ReportFormat
  describe : Bool
  command : Command
  deriving DecidableEq, Repr

/-- What a command line asks for. -/
inductive Request where
  | help
  | perform (invocation : Invocation)
  deriving DecidableEq, Repr

namespace Settings

/-- The request to perform a command under these settings. -/
def request (settings : Settings) (command : Command) : Request :=
  .perform ⟨settings.format?.getD .text, settings.describe, command⟩

/-- The command where none is named. -/
def unnamedCommand (settings : Settings) : Command :=
  if settings.words = [] then .nothing else .decode settings.join settings.words

/-- The command that decodes the words. -/
def decodeCommand (settings : Settings) : Command :=
  .decode settings.join settings.words

/-- The command that scans the log the words name. -/
def scanCommand (settings : Settings) : Command :=
  .scan (Origin.ofWords settings.words) (settings.limit?.getD DebugLog.defaultLimit)

end Settings

namespace Request

/-- The request that the words behind the name of a command make. -/
def ofScope (scope : Scope) (command : Settings → Command) (outer : Settings)
    (words : List String) : Except UsageError Request :=
  match State.read scope {} words with
  | .error e => .error e
  | .ok (.settings inner) => .ok ((inner.within outer).request (command inner))
  | .ok _ => .ok .help

/-- The request for help, which may name one command. -/
def ofHelp : List String → Except UsageError Request
  | [] => .ok .help
  | text :: rest =>
      match CommandName.ofWord? text, rest with
      | none, _ => .error (.unknownCommand text)
      | some _, [] => .ok .help
      | some _, text :: _ => .error (.unknownCommand text)

/-- What a command line asks for. -/
def ofArguments (args : List String) : Except UsageError Request :=
  match State.read .outer {} args with
  | .error e => .error e
  | .ok .help => .ok .help
  | .ok (.settings settings) => .ok (settings.request settings.unnamedCommand)
  | .ok (.command outer .decode rest) => ofScope .decode Settings.decodeCommand outer rest
  | .ok (.command outer .scan rest) => ofScope .scan Settings.scanCommand outer rest
  | .ok (.command _ .help rest) => ofHelp rest

end Request

end FrameStatus.CommandLine
