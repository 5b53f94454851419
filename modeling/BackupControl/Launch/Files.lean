/-
# Files of a run

What a run finds on the file system: the config file that it reads, and the place of the log
file that it appends to.
-/
import BackupControl.CommandLine.Invocation
import BackupControl.Failure
import BackupControl.Service.Load
import BackupControl.Text.Path

namespace BackupControl

/-- What stands at a path. -/
inductive FileEntry where
  | missing
  | directory
  | file (text : String)
  | unreadable (fault : FileFault)
  deriving DecidableEq, Repr

/-- A file system as a function of the path. -/
abbrev FileSystem : Type := String → FileEntry

/-! ## Config files -/

/-- The layer of the config file, or the empty layer when none is named. -/
def readConfig (files : FileSystem) : Option String → Result Layer
  | none => .ok .empty
  | some path =>
    match files path with
    | .missing => .error (.configNotFound path)
    | .directory => .error (.during (.readingFile path) (.file .isADirectory))
    | .unreadable fault => .error (.during (.readingFile path) (.file fault))
    | .file text =>
      Result.during (.parsingFile path) ((Layer.ofText text).mapError .config)

namespace CommandLine.Invocation

/-- The layer of the config file with the logging flags over it. -/
def baseLayer (files : FileSystem) (i : Invocation) : Result Layer :=
  (readConfig files i.globals.configPath).map fun l => l.overlay i.appLayer

/-- The logging options of a run. -/
def session (defaults : Defaults) (i : Invocation) (base : Layer) : Result Session :=
  Result.during .configuring
    ((Session.ofLayer defaults i.globals.configPath base).mapError .violation)

/-- The layer of a run: the config file, with all flags over it. -/
def wholeLayer (i : Invocation) (base : Layer) : Layer := base.overlay i.layer

end CommandLine.Invocation

/-! ## Log files -/

/-- The folders above a path, nearest first, as many as there are steps. -/
def foldersAbove : Nat → String → List String
  | 0, _ => []
  | n + 1, path =>
    let above := parentPath path
    if above = "" then [] else above :: foldersAbove n above

/-- Something other than a folder stands at a path. -/
def FileSystem.blocks (files : FileSystem) (path : String) : Bool :=
  match files path with
  | .missing | .directory => false
  | .file _ | .unreadable _ => true

/-- Makes a folder and those above it, unless something else is in the way. -/
def makeFolder (files : FileSystem) (path : String) : Except FileFault Unit :=
  if files.blocks path then .error .exists
  else if (foldersAbove path.length path).any files.blocks then .error .notADirectory
  else .ok ()

/-- Opens a file for appending; it is made if nothing stands at its path.  A path that ends with
a slash denotes no file. -/
def openFile (files : FileSystem) (path : String) : Except FileFault Unit :=
  match files path with
  | .directory => .error .isADirectory
  | .unreadable fault => .error fault
  | .file _ => if path.endsWith "/" then .error .notADirectory else .ok ()
  | .missing => if path.endsWith "/" then .error .isADirectory else .ok ()

/-- Opens the log file. -/
def openLog (files : FileSystem) (path : String) : Result Unit := do
  let above := parentPath path
  if above ≠ "" then
    Result.during (.creatingLogDirectory above) ((makeFolder files above).mapError .file)
  Result.during (.openingLogFile path) ((openFile files path).mapError .file)

/-! ## Paths of a run -/

namespace CommandLine.Invocation

/-- The paths that matter to a run once its config file is known: those of its log. -/
def logPaths (files : FileSystem) (i : Invocation) : List String :=
  let path? := do
    let session ← i.session .builtIn (← i.baseLayer files)
    return session.logFile?
  match path? with
  | .ok (some path) => path :: foldersAbove path.length path
  | _ => []

end CommandLine.Invocation

end BackupControl
