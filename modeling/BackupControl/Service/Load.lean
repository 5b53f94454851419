/-
# Loading

From a layer to a service that meets every rule: options are settled, secrets are replaced, and
only then are the rules checked, so that a secret can stand for any value that a rule looks at.
-/
import BackupControl.Service.Backup
import BackupControl.Service.Restore
import BackupControl.Service.Secrets

namespace BackupControl

/-! ## Logging options -/

/-- The options of the whole program, and where they were read. -/
structure Session where
  options : App Settled
  configPath : String := ""

namespace Session

/-- What a layer sets, over the values of a session.  The path, which no option names, stays. -/
def settle (l : Layer) (s : Session) : Session :=
  { s with options := settleSection l.app s.options }

/-- The session of a layer that was read from a file, or from none. -/
def ofLayer (defaults : Defaults) (configPath : Option String) (l : Layer) :
    Except Violation Session := do
  let settled : Session := Session.settle l { options := defaults.app }
  let session := { settled with configPath := configPath.getD settled.configPath }
  session.options.check
  return session

/-- The lowest level of the log lines that are kept: that of the options in a verbose run. -/
def logFilter (s : Session) : String :=
  if s.options.verbose && s.options.logLevel != "" then lowerCase s.options.logLevel else "info"

/-- The file that log lines go to, if they go to one. -/
def logFile? (s : Session) : Option String := nonEmpty? s.options.logFile

end Session

/-! ## Lookups -/

/-- One question to a secret agent. -/
structure Lookup where
  agent : AgentConfig
  reference : String
  deriving DecidableEq, Repr

/-- The questions that a pass over the options asks, in order. -/
def Infrastructure.lookups (resolver : SecretResolver) (i : Infrastructure) : List Lookup :=
  match i.secretAgent.config? with
  | some agent => (i.resolution resolver).lookups.map fun reference => ⟨agent, reference⟩
  | none => []

/-! ## Services -/

/-- The outcome of loading: what was looked up on the way, and the service or a failure. -/
structure Loaded (α : Type) where
  lookups : List Lookup
  result : Result α

namespace BackupService

/-- The service with its references replaced, if it then meets the rules. -/
def complete (resolver : SecretResolver) (s : BackupService) : Result BackupService := do
  let infrastructure ← s.infrastructure.resolve resolver
  let s := { s with infrastructure := infrastructure }
  (Result.ofCheck s.check).during .configuring
  return s

/-- The backup that a layer asks for. -/
def load (defaults : Defaults) (resolver : SecretResolver) (l : Layer) : Loaded BackupService :=
  match ofLayer defaults l with
  | .error v => ⟨[], .error (.during .configuring (.violation v))⟩
  | .ok s => ⟨s.infrastructure.lookups resolver, s.complete resolver⟩

end BackupService

namespace RestoreService

/-- The service with its references replaced, if it then meets the rules. -/
def complete (resolver : SecretResolver) (s : RestoreService) : Result RestoreService := do
  let infrastructure ← s.infrastructure.resolve resolver
  let s := { s with infrastructure := infrastructure }
  (Result.ofCheck s.check).during .configuring
  return s

/-- The restore that a layer asks for. -/
def load (defaults : Defaults) (resolver : SecretResolver) (l : Layer) : Loaded RestoreService :=
  let s := ofLayer defaults l
  ⟨s.infrastructure.lookups resolver, s.complete resolver⟩

end RestoreService

end BackupControl
