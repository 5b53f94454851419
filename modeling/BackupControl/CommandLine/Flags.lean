/-
# Flags of the program

What the flags of a command line set, and the layer that they make.  A command line always has
the sections that its command can set, even when it sets nothing in them; only the change-feed
section is there when it was asked for.
-/
import BackupControl.CommandLine.Level
import BackupControl.Operation
import BackupControl.Options.Layer

namespace BackupControl.CommandLine

open OptionGroup (unset)

/-! ## Flags of every level -/

/-- The flags that may stand before and after the command. -/
structure GlobalFlags where
  app : App Given := unset
  engine : Option String := none
  printConfig : Bool := false
  configPath : Option String := none

namespace GlobalFlags

/-- The flags before the command with those after it laid over them. -/
def overlay (before after : GlobalFlags) : GlobalFlags where
  app := OptionGroup.overlay before.app after.app
  engine := after.engine.or before.engine
  printConfig := before.printConfig || after.printConfig
  configPath := after.configPath.or before.configPath

/-- A path must not be empty. -/
def readPath (s : String) : Except Stop (GlobalFlags → GlobalFlags) :=
  if s = "" then .error .invalidValue else .ok fun g => { g with configPath := some s }

/-- The rules of the flags that may stand at every level. -/
def rules : List (FlagRule GlobalFlags) :=
  (App.settings.filterMap fun s => s.flag.map
    (FlagRule.ofSetting (fun change g => { g with app := change g.app }) s)) ++ [
  .withText "config" readPath,
  .withText "engine" fun s => .ok fun g => { g with engine := some s },
  .lone "print-config" none (.ok fun g => { g with printConfig := true }),
  .lone "help" (some 'h') (.error .help)]

end GlobalFlags

/-! ## Flags of a command -/

/-- The flags after the command.  Each command leaves unset what only the other can set. -/
structure CommandFlags where
  cluster : Cluster Given := unset
  scan : Scan Given := unset
  askedForFeed : Bool := false
  changeFeed : ChangeFeed Given := unset
  restore : Restore Given := unset
  compression : Compression Given := unset
  encryption : Encryption Given := unset
  secretAgent : SecretAgent Given := unset
  awsS3 : AwsS3 Given := unset
  gcpStorage : GcpStorage Given := unset
  azureBlob : AzureBlob Given := unset
  localFiles : LocalFiles Given := unset

namespace CommandFlags

/-- A command has the flag. -/
def isInScope (op : Operation) (f : Flag) : Bool :=
  match f.scope with
  | .both => true
  | .backup => op == .backup
  | .restore => op == .restore

/-- The rules of the flags of a group. -/
def groupRules {G : (Type → Type) → Type} [OptionGroup G] (op : Operation)
    (update : (G Given → G Given) → CommandFlags → CommandFlags) : List (FlagRule CommandFlags) :=
  (OptionGroup.settings (G := G)).filterMap fun s =>
    (s.flag.filter (isInScope op)).map (FlagRule.ofSetting update s)

/-- The rules of the flags that only one command has. -/
def ownRules : Operation → List (FlagRule CommandFlags)
  | .backup =>
    groupRules .backup (fun change (g : CommandFlags) => { g with scan := change g.scan }) ++
    .lone "xdr" none (.ok fun g => { g with askedForFeed := true }) ::
    groupRules .backup (fun change g => { g with changeFeed := change g.changeFeed })
  | .restore => groupRules .restore (fun change g => { g with restore := change g.restore })

/-- The rules of the flags of a command. -/
def rules (op : Operation) : List (FlagRule CommandFlags) :=
  groupRules op (fun change g => { g with cluster := change g.cluster }) ++ ownRules op ++
  groupRules op (fun change g => { g with compression := change g.compression }) ++
  groupRules op (fun change g => { g with encryption := change g.encryption }) ++
  groupRules op (fun change g => { g with secretAgent := change g.secretAgent }) ++
  groupRules op (fun change g => { g with awsS3 := change g.awsS3 }) ++
  groupRules op (fun change g => { g with gcpStorage := change g.gcpStorage }) ++
  groupRules op (fun change g => { g with azureBlob := change g.azureBlob }) ++
  groupRules op (fun change g => { g with localFiles := change g.localFiles })

/-- The change-feed section: it is there when its own flag or any other of the group was
given. -/
def feedSection (f : CommandFlags) : Option (ChangeFeed Given) :=
  if f.askedForFeed || !OptionGroup.isUnset f.changeFeed then some f.changeFeed else none

/-- The layer of the flags of a command. -/
def layer (op : Operation) (f : CommandFlags) : Layer where
  cluster := some f.cluster
  scan := if op = .backup then some f.scan else none
  changeFeed := if op = .backup then f.feedSection else none
  restore := if op = .restore then some f.restore else none
  compression := some f.compression
  encryption := some f.encryption
  secretAgent := some f.secretAgent
  aws := some ⟨some f.awsS3⟩
  gcp := some ⟨some f.gcpStorage⟩
  azure := some ⟨some f.azureBlob⟩
  localFiles := some f.localFiles

end CommandFlags

end BackupControl.CommandLine
