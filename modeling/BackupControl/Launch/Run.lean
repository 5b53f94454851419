/-
# Runs

A run of the program as a function of its arguments and of what it meets: the machine, the file
system and the engine.  The engine is started for every secret that is looked up, and once more
when the job is ready, unless the job is only to be shown.
-/
import BackupControl.Job.Payload
import BackupControl.Launch.Engine
import BackupControl.Launch.Files
import BackupControl.Launch.Log
import BackupControl.Launch.Report

namespace BackupControl

open CommandLine (Invocation Stop)

/-- What a run meets. -/
structure World where
  machine : Machine
  files : FileSystem
  engine : Engine

/-- What a run leaves behind. -/
structure Outcome where
  transcript : Transcript := {}
  failure : Option Failure := none
  calls : List EngineCall := []
  events : List LogEvent := []

/-! ## Hand-over to the engine -/

/-- Who writes to the standard output while the engine runs: this program, which shows stages,
or the engine, which writes the backup itself. -/
inductive OutputMode where
  | captured
  | inherited
  deriving DecidableEq, Repr

/-- Shows the job instead of carrying it out. -/
def showJob : Result Json → Outcome
  | .ok payload => { transcript := .line payload.pretty }
  | .error f => { failure := some f }

/-- Carries out a job whose output belongs to the engine. -/
def runInherited (engine : Engine) (program : String) (op : Operation) :
    Result Json → Outcome
  | .error f => { failure := some f }
  | .ok payload =>
    let call := EngineCall.ofJob program op payload
    let started : Outcome := { calls := [call], events := [.starting] }
    match engine call with
    | .notStarted fault =>
      { started with calls := [], failure := some (.during (.starting call.command) (.file fault)) }
    | .exited true output errors => { started with transcript := ⟨output, errors⟩ }
    | .exited false output errors =>
      { started with transcript := ⟨output, errors⟩, failure := some (.engineFailed op) }

/-- Carries out a job and shows its stages. -/
def runCaptured (engine : Engine) (program : String) (op : Operation) : Result Json → Outcome
  | .error f =>
    { transcript := .join [.line "", Stage.configure.failed { error := f.message },
        failureBanner op .configure]
      failure := some (.aborted op) }
  | .ok payload =>
    let call := EngineCall.ofJob program op payload
    let front := [.line "", Stage.configure.succeeded]
    let failed (calls : List EngineCall) (fault : StageFault) : Outcome :=
      { transcript := .join (front ++ [Stage.engine.failed fault, failureBanner op .engine])
        failure := some (.engineFailed op)
        calls := calls
        events := [.starting] }
    match engine call with
    | .notStarted fault =>
      let f : Failure := .during (.starting call.command) (.file fault)
      failed [] { error := f.message }
    | .exited true _ _ =>
      { transcript := .join (front ++ [Stage.engine.succeeded, successBanner op])
        calls := [call]
        events := [.starting] }
    | .exited false output errors =>
      failed [call] {
        error := "command exited non-zero: " ++ " ".intercalate call.command
        output := output
        errors := errors }

/-- Shows or carries out a job. -/
def execute (engine : Engine) (program : String) (op : Operation) (printConfig : Bool)
    (mode : OutputMode) (job : Result Json) : Outcome :=
  if printConfig then showJob job
  else match mode with
    | .inherited => runInherited engine program op job
    | .captured => runCaptured engine program op job

/-! ## Preparation -/

/-- The call that looks up a secret. -/
def Lookup.call (program : String) (l : Lookup) : EngineCall :=
  .ofSecret program l.reference l.agent.payload

/-- The resolver that asks the engine. -/
def Engine.resolver (engine : Engine) (program : String) : SecretResolver := fun agent reference =>
  let call := Lookup.call program ⟨agent, reference⟩
  (engine call).secret call

/-- The engine can be started at all for a call. -/
def Engine.starts (engine : Engine) (call : EngineCall) : Bool := engine call matches .exited _ _ _

/-- A job before it is carried out: its payload, the mode of its output, and the traces that
its preparation left. -/
structure Preparation where
  job : Result Json
  mode : OutputMode := .captured
  lookups : List Lookup := []
  events : List LogEvent := []

/-- Prepares the job of a backup. -/
def prepareBackup (m : Machine) (resolver : SecretResolver) (l : Layer) : Preparation :=
  let loaded := BackupService.load .builtIn resolver l
  match loaded.result with
  | .error f => { job := .error f, lookups := loaded.lookups }
  | .ok s =>
    let ready := if s.isChangeFeed then LogEvent.feedReady else LogEvent.scanReady
    let job := s.job m
    { job := job.map (·.payload)
      mode := if s.writesToOutput then .inherited else .captured
      lookups := loaded.lookups
      events := [.validated .backup, .assembling] ++ (if job.isOk then [ready] else []) }

/-- Prepares the job of a restore. -/
def prepareRestore (resolver : SecretResolver) (l : Layer) : Preparation :=
  let loaded := RestoreService.load .builtIn resolver l
  match loaded.result with
  | .error f => { job := .error f, lookups := loaded.lookups }
  | .ok s =>
    let job := s.job
    { job := job.map (·.payload)
      lookups := loaded.lookups
      events := .validated .restore :: (if job.isOk then [.restoreReady] else []) }

/-- Prepares the job of an operation. -/
def prepare (m : Machine) (resolver : SecretResolver) (op : Operation) (l : Layer) :
    Preparation :=
  match op with
  | .backup => prepareBackup m resolver l
  | .restore => prepareRestore resolver l

/-! ## Whole runs -/

/-- Runs a command whose options are known. -/
def runCommand (w : World) (i : Invocation) (l : Layer) : Outcome :=
  let p := prepare w.machine (w.engine.resolver i.engine) i.op l
  let asked := (p.lookups.map (Lookup.call i.engine)).filter w.engine.starts
  let o := execute w.engine i.engine i.op i.globals.printConfig p.mode p.job
  { o with calls := asked ++ o.calls, events := p.events ++ o.events }

/-- The end of a program: what it wrote, its exit status, the calls of the engine, and the lines
for its log, which go to a file if one was named. -/
structure Ending where
  transcript : Transcript := {}
  status : Nat := 0
  calls : List EngineCall := []
  logFile : Option String := none
  logLines : List String := []

namespace Ending

/-- The end of a program that failed before any command ran. -/
def ofFailure (f : Failure) : Ending := { transcript := f.report, status := 1 }

/-- The end of a program after a command. -/
def ofOutcome (s : Session) (o : Outcome) : Ending where
  transcript := match o.failure with
    | some f => o.transcript ++ f.report
    | none => o.transcript
  status := if o.failure.isSome then 1 else 0
  calls := o.calls
  logFile := s.logFile?
  logLines := s.logLines o.events

/-- The name and the version of the program. -/
def versionText : String := "backupctl 0.1.0"

/-- The short description of the program. -/
def helpText : String :=
  "Configure and launch database backups and restores\n\nUsage: backupctl [OPTIONS] <COMMAND>"

/-- The end of a program whose arguments lead to no run.  What is asked for succeeds. -/
def ofStop : Stop → Ending
  | .version => { transcript := .line versionText }
  | .help => { transcript := .line helpText }
  | _ => { status := 2 }

end Ending

/-- Runs an invocation: reads its config file, opens its log, and carries out its command. -/
def Invocation.run (w : World) (i : Invocation) : Ending :=
  let start : Result (Layer × Session) := do
    let base ← i.baseLayer w.files
    let session ← i.session .builtIn base
    if let some path := session.logFile? then openLog w.files path
    return (base, session)
  match start with
  | .error f => .ofFailure f
  | .ok (base, session) => .ofOutcome session (runCommand w i (i.wholeLayer base))

/-- Runs the program on the arguments behind its name, where the environment may name an engine. -/
def runIn (named : Option String) (w : World) (args : List String) : Ending :=
  match Invocation.ofArguments args with
  | .error stop => .ofStop stop
  | .ok i => Invocation.run w (i.inEnvironment named)

/-- Runs the program where the environment names no engine. -/
def run (w : World) (args : List String) : Ending := runIn none w args

end BackupControl
