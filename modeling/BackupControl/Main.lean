/-
# The program

The command line: what a run meets is looked at before it starts, the run itself is a function
of that, and what it leaves behind is written at the end.  No other program can be started from
here, so every call of the engine ends as one that is not permitted.
-/
import BackupControl.Launch.Run
import Std.Time

namespace BackupControl

/-! ## What a run meets -/

/-- What stands at a path: a file is what can be read as text, and a folder is what can be
listed. -/
def lookAt (path : String) : IO FileEntry := do
  try
    return .file (← IO.FS.readFile path)
  catch e =>
    match e with
    | .noFileOrDirectory .. | .noSuchThing .. => return .missing
    | .permissionDenied .. => return .unreadable .denied
    | .inappropriateType .. => return .directory
    | .userError _ => return .unreadable .notText
    | _ => return .missing

/-- The file system as far as some paths are concerned. -/
def survey (paths : List String) : IO FileSystem := do
  let entries ← paths.mapM fun path => return (path, ← lookAt path)
  return fun path => (entries.lookup path).getD .missing

/-- The file system as far as a run is concerned. -/
def surveyFor (args : List String) : IO FileSystem :=
  match CommandLine.Invocation.ofArguments args with
  | .error _ => survey []
  | .ok i => do
    let configPaths := i.globals.configPath.toList
    let files ← survey configPaths
    survey (configPaths ++ i.logPaths files)

/-- The zone of the machine, with the changes that its description lists. -/
def localZone : IO Zone := do
  try
    let rules ← Std.Time.Database.defaultGetLocalZoneRules
    return {
      base := rules.initialLocalTimeType.gmtOffset.second.val
      changes := rules.transitions.toList.map fun change =>
        ⟨change.time.val, change.localTimeType.gmtOffset.second.val⟩ }
  catch _ => return .universal

/-- The number of processors, or one if the machine does not tell. -/
def processorCount : IO Nat := do
  try
    let lines := (← IO.FS.readFile "/proc/cpuinfo").splitOn "\n"
    return max 1 (lines.filter fun line => line.startsWith "processor").length
  catch _ => return 1

/-- The machine of a run. -/
def thisMachine : IO Machine := do
  let now ← Std.Time.Timestamp.now
  let zone ← localZone
  return ⟨zone, zone.dateAt now.toSecondsSinceUnixEpoch.val, ← processorCount⟩

/-- The engine, which cannot be started. -/
def unstartableEngine : Engine := fun _ => .notStarted .denied

/-! ## What a run leaves behind -/

/-- Writes the lines of a log to its file, or else to the error output. -/
def writeLog (logFile : Option String) (lines : List String) : IO Unit := do
  match logFile with
  | none => lines.forM fun line => IO.eprintln line
  | some path =>
    let above := parentPath path
    if above ≠ "" then IO.FS.createDirAll above
    let handle ← IO.FS.Handle.mk path .append
    lines.forM fun line => handle.putStrLn line

/-- Writes what a run leaves behind. -/
def Ending.write (e : Ending) : IO Unit := do
  writeLog e.logFile e.logLines
  IO.print e.transcript.output
  IO.eprint e.transcript.errors

end BackupControl

open BackupControl in
/-- Runs the program on its arguments. -/
def main (args : List String) : IO UInt32 := do
  let named ← IO.getEnv CommandLine.Invocation.engineVariable
  let ending := runIn named ⟨← thisMachine, ← surveyFor args, unstartableEngine⟩ args
  ending.write
  return ending.status.toUInt32
