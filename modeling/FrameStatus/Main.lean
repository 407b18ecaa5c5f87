import FrameStatus.CommandLine.Run

/-!
# The program

Reads what a command line asks for and writes what the run comes to.
-/

namespace FrameStatus.CommandLine

/-- The failure that the system reports. -/
def ioError (error : IO.Error) : IoError :=
  match error with
  | .noFileOrDirectory .. => .noSuchFile
  | .inappropriateType _ code details =>
      if code = 21 then .directoryRead else .system code.toNat .other details
  | .permissionDenied _ code details => .system code.toNat .permissionDenied details
  | .interrupted _ code details => .system code.toNat .interrupted details
  | error => .custom .other (toString error)

/-- Reads to the end, or to an error. -/
partial def readAll (read : IO ByteArray) : IO (List DebugLog.ReadResult) := do
  match ← read.toBaseIO with
  | .error error => return [.failed (ioError error)]
  | .ok data =>
      if data.isEmpty then return []
      else return .bytes data.toList :: (← readAll read)

/-- Opens and reads a log. -/
def readOrigin (origin : Origin) : IO (Except IoError (List DebugLog.ReadResult)) := do
  let length := DebugLog.readLength.toUSize
  match origin with
  | .stdin =>
      let stream ← IO.getStdin
      return .ok (← readAll (stream.read length))
  | .file path =>
      match ← (IO.FS.Handle.mk path .read).toBaseIO with
      | .error error => return .error (ioError error)
      | .ok handle => return .ok (← readAll (handle.read length))

/-- What the run of these arguments reads. -/
def readInputs (args : List String) : IO Inputs := do
  match Request.ofArguments args with
  | .ok (.perform ⟨_, _, .scan origin _⟩) =>
      let log ← readOrigin origin
      return fun _ => log
  | _ => return fun _ => .ok []

end FrameStatus.CommandLine

/-- Runs the program on its arguments and gives its exit code. -/
def main (args : List String) : IO UInt32 := do
  let inputs ← FrameStatus.CommandLine.readInputs args
  let outcome := FrameStatus.CommandLine.run inputs args
  IO.print outcome.stdout
  IO.eprint outcome.stderr
  return outcome.exitCode.toUInt32
