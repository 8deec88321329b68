import CellExpr.CommandLine.Command
import Std.Time.DateTime.Timestamp

/-!
# The program

Looks at the clock, the processors, the environment and the file that is asked for, and prints the reply.
-/

namespace CellExpr.CommandLine

/-- The present instant. -/
def currentInstant : IO Calendar.Instant := do
  let now := (← Std.Time.Timestamp.now).toDurationSinceUnixEpoch
  match Calendar.Instant.of? now.second.val now.nano.val.toNat with
  | some instant => return instant
  | none => throw (IO.userError "the clock is out of range")

/-- The number of processors, as far as the system tells. -/
def processorCount : IO Nat := do
  try
    let text ← IO.FS.readFile "/proc/cpuinfo"
    return max 1 ((lines text.toList).filter fun line => "processor".toList.isPrefixOf line).length
  catch _ => return 1

/-- The text of a file. -/
def readFile (path : String) : IO (Except ReadFailure String) := do
  try
    return .ok (← IO.FS.readFile path)
  catch
    | .noFileOrDirectory .. | .permissionDenied .. => return .error .cannotOpen
    | .inappropriateType .. => return .error (.unreadable "Is a directory (os error 21)")
    | e => return .error (.unreadable (toString e))

/-- The file that some arguments ask for. -/
def requestedFile (args : List String) : IO (Except ReadFailure String) :=
  match Request.read args with
  | .ok (.evaluate { rows := some path, .. }) => readFile path
  | _ => return .error .cannotOpen

/-- What the command finds around it when it is called with some arguments. -/
def surroundings (args : List String) : IO Surroundings := do
  let threads ← IO.getEnv BatchSettings.threadsSetting
  let chunkSize ← IO.getEnv BatchSettings.chunkSizeSetting
  let file ← requestedFile args
  return {
    now := ← currentInstant
    processors := ← processorCount
    environment := fun name =>
      if name = BatchSettings.threadsSetting then threads
      else if name = BatchSettings.chunkSizeSetting then chunkSize
      else none
    file := fun _ => file }

end CellExpr.CommandLine

open CellExpr.CommandLine in
def main (args : List String) : IO UInt32 := do
  let reply := run (← surroundings args) args
  IO.print reply.output
  IO.eprint reply.complaint
  return reply.code.toUInt32
