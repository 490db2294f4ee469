/-
# The program

Key definitions: `main`.
-/
import PathTemplate.CommandLine
import Std.Time.DateTime.Timestamp

namespace PathTemplate.CommandLine

open Time

/-- The cause of a failure to read a file. -/
def readFault : IO.Error → ReadFault
  | .noFileOrDirectory _ _ _ => .missing
  | .permissionDenied _ _ _ => .denied
  | .inappropriateType _ 21 _ => .directory
  | .inappropriateType _ _ _ => .other "Not a directory (os error 20)"
  | .invalidArgument _ 36 _ => .other "File name too long (os error 36)"
  | e => .other (toString e)

/-- Reads a file. -/
def readFile (path : String) : IO (Except ReadFault ByteArray) := do
  try
    return .ok (← IO.FS.readBinFile path)
  catch e =>
    return .error (readFault e)

/-- The current time. -/
def currentTime : IO Instant := do
  let t ← Std.Time.Timestamp.now
  let n := t.toNanosecondsSinceUnixEpoch.val
  return ⟨n / nanosPerSecond, (n % nanosPerSecond).toNat⟩

/-- The time and the file that some options ask for. -/
def observe (o : Options) : IO World := do
  let now ← currentTime
  match o.contextPath with
  | none => return ⟨now, fun _ => .error .missing⟩
  | some path =>
    let content ← readFile path
    return ⟨now, fun _ => content⟩

/-- Writes the outcome of the program. -/
def deliver (outcome : Outcome) : IO UInt32 := do
  (← IO.getStdout).putStr outcome.stdout
  (← IO.getStderr).putStr outcome.stderr
  return outcome.exit.toUInt32

/-- Writes the lines of the log with the time in front of each. -/
def writeLog (now : Instant) (lines : List String) : IO Unit := do
  let stamp := String.ofList (plainText ⟨now, Zone.utc⟩)
  lines.forM fun line => do (← IO.getStderr).putStrLn (stamp ++ " " ++ line)

end PathTemplate.CommandLine

open PathTemplate.CommandLine in
/-- Reads the arguments, fills in the template and writes the result. -/
def main (args : List String) : IO UInt32 := do
  match Options.read args with
  | .error r => deliver (refuse r)
  | .ok o =>
    let w ← observe o
    writeLog w.now (o.log w)
    deliver (conclude (o.answer w))
