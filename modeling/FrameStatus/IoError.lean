import FrameStatus.Text.Numeral
import FrameStatus.Text.Quoted

/-!
# Failed reads

Why a file cannot be opened or a read fails, as the operating system or a source of its own tells
it.
-/

namespace FrameStatus

/-- The kinds of failure that are told apart by name. -/
inductive IoErrorKind where
  | interrupted
  | notFound
  | permissionDenied
  | isADirectory
  | other
  deriving DecidableEq, Repr

/-- The name of a kind of failure. -/
def IoErrorKind.name : IoErrorKind → String
  | interrupted => "Interrupted"
  | notFound => "NotFound"
  | permissionDenied => "PermissionDenied"
  | isADirectory => "IsADirectory"
  | other => "Other"

/-- A failure to open or to read. -/
inductive IoError where
  /-- The operating system refused, for the reason that belongs to an error number. -/
  | system (code : Nat) (kind : IoErrorKind) (reason : String)
  /-- The source itself failed, with a text of its own. -/
  | custom (kind : IoErrorKind) (text : String)
  deriving DecidableEq, Repr

namespace IoError

/-- No file has the name given. -/
def noSuchFile : IoError :=
  .system 2 .notFound "No such file or directory"

/-- A directory cannot be read as a file. -/
def directoryRead : IoError :=
  .system 21 .isADirectory "Is a directory"

/-- Whether the read was merely interrupted and may be tried again. -/
def isInterrupted : IoError → Bool
  | system _ kind _ => kind == .interrupted
  | custom kind _ => kind == .interrupted

/-- The text shown to a user. -/
def message : IoError → String
  | system code _ reason => reason ++ " (os error " ++ Text.decimal code ++ ")"
  | custom _ text => text

/-- The structural form: the cause and its data by name. -/
def diagnostic : IoError → String
  | system code kind reason =>
      "Os \x7b code: " ++ Text.decimal code ++ ", kind: " ++ kind.name ++ ", message: " ++
        Text.quoteText reason ++ " \x7d"
  | custom kind text =>
      "Custom \x7b kind: " ++ kind.name ++ ", error: " ++ Text.quoteText text ++ " \x7d"

end IoError

end FrameStatus
