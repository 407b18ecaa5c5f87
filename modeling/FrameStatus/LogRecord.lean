/-!
# Log records

What the library has to tell about its work is a list of records beside the result.
-/

namespace FrameStatus

/-- How much a record matters, most first. -/
inductive LogLevel where
  | error
  | warn
  | info
  | debug
  | trace
  deriving DecidableEq, Repr

/-- The name of a level. -/
def LogLevel.name : LogLevel → String
  | error => "ERROR"
  | warn => "WARN"
  | info => "INFO"
  | debug => "DEBUG"
  | trace => "TRACE"

/-- Whether records of this level are shown to a user who asked for nothing more. -/
def LogLevel.isShown : LogLevel → Bool
  | error | warn | info => true
  | debug | trace => false

/-- The part of the program that a record comes from. -/
inductive LogSource where
  | decoder
  | debugLog
  | commandLine
  deriving DecidableEq, Repr

/-- The name under which a part of the program logs. -/
def LogSource.name : LogSource → String
  | decoder => "enc28j60_status::codec"
  | debugLog => "enc28j60_status::stream"
  | commandLine => "svdecode"

/-- One record. -/
structure LogRecord where
  level : LogLevel
  source : LogSource
  text : String
  deriving DecidableEq, Repr

end FrameStatus
