import FrameStatus.IoError

/-!
# Why a scan stops

A debug log can be read no further when its source fails or when a line is longer than allowed.
-/

namespace FrameStatus.DebugLog

/-- Why a debug log can be read no further. -/
inductive ScanError where
  /-- A read failed. -/
  | io (error : IoError)
  /-- A line has more bytes than the limit, its line ending not counted. -/
  | lineTooLong (limit length : Nat)
  deriving DecidableEq, Repr

namespace ScanError

/-- The text shown to a user. -/
def message : ScanError → String
  | io error => error.message
  | lineTooLong limit length =>
      "Log line too long! Maximum is " ++ Text.decimal limit ++ ", but got " ++ Text.decimal length

/-- The failure behind this one. -/
def cause? : ScanError → Option IoError
  | io error => some error
  | lineTooLong .. => none

/-- The structural form: the cause and its data by name. -/
def diagnostic : ScanError → String
  | io error => "IoError(" ++ error.diagnostic ++ ")"
  | lineTooLong limit length =>
      "LineTooLong \x7b max: " ++ Text.decimal limit ++ ", got: " ++ Text.decimal length ++ " \x7d"

end ScanError

end FrameStatus.DebugLog
