/-
# Policies of option groups

What each group of options means to the engine.  Empty texts and zeros that stand for "leave it
to the engine" become absent values, milliseconds become spans, and modes take their spelling
in capitals.
-/
import BackupControl.Failure
import BackupControl.Job.Basic
import BackupControl.Options.Layer
import BackupControl.Rules.Protection
import BackupControl.Text.Path

namespace BackupControl

/-- The text, unless it is empty. -/
def nonEmpty? (s : String) : Option String := if s = "" then none else some s

/-! ## Connections -/

namespace Cluster

/-- Some option asks for a secured connection. -/
def usesTls (g : Cluster Settled) : Bool :=
  [g.tlsName, g.tlsCaFile, g.tlsCertFile, g.tlsKeyFile].any (· != "")

/-- How a connection is secured. -/
def tlsConfig (g : Cluster Settled) : TlsConfig where
  name := nonEmpty? g.tlsName
  caFile := nonEmpty? g.tlsCaFile
  certFile := nonEmpty? g.tlsCertFile
  keyFile := nonEmpty? g.tlsKeyFile
  keyFilePassword := nonEmpty? g.tlsKeyFilePassword
  protocols := nonEmpty? g.tlsProtocols

/-- How the engine reaches the cluster. -/
def config (g : Cluster Settled) : ClusterConfig where
  host := g.host
  port := g.port
  user := nonEmpty? g.user
  password := nonEmpty? g.password
  authMode := (nonEmpty? g.authMode).map upperCase
  tls := if g.usesTls then some g.tlsConfig else none
  timeout := .ofMillis g.clientTimeout
  idleTimeout := .ofMillis g.clientIdleTimeout
  loginTimeout := .ofMillis g.clientLoginTimeout

end Cluster

/-- How the engine reaches the secret agent; there is none without an address. -/
def SecretAgent.config? (g : SecretAgent Settled) : Option AgentConfig :=
  if g.address = "" then none
  else some {
    connectionType := (nonEmpty? g.connectionType).map lowerCase
    address := g.address
    port := if g.port = 0 then none else some g.port
    timeoutMillis := if g.timeout = 0 then none else some g.timeout
    caFile := nonEmpty? g.caFile
    tlsName := nonEmpty? g.tlsName
    certFile := nonEmpty? g.certFile
    keyFile := nonEmpty? g.keyFile
    isBase64 := g.isBase64 }

/-! ## Protection -/

/-- How backup files are compressed, if they are. -/
def Compression.policy? (g : Compression Settled) : Option CompressionPolicy :=
  if isNoneMode g.mode then none else some { mode := upperCase g.mode, level := g.level }

/-- How backup files are encrypted, if they are. -/
def Encryption.policy? (g : Encryption Settled) : Option EncryptionPolicy :=
  if isNoneMode g.mode then none
  else some {
    mode := upperCase g.mode
    keyFile := nonEmpty? g.keyFile
    keyEnv := nonEmpty? g.keyEnv
    keySecret := nonEmpty? g.keySecret }

/-! ## Info requests -/

namespace Transfer

/-- How long an info request may take. -/
def infoPolicy (g : Transfer Settled) : InfoPolicy := { timeout := .ofMillis g.infoTimeout }

/-- How a failed info request is retried. -/
def infoRetryPolicy (g : Transfer Settled) : RetryPolicy where
  baseTimeout := .ofMillis g.infoRetryInterval
  multiplier := g.infoRetriesMultiplier
  maxRetries := g.infoMaxRetries

end Transfer

namespace ChangeFeed

/-- How long an info request may take. -/
def infoPolicy (g : ChangeFeed Settled) : InfoPolicy := { timeout := .ofMillis g.infoTimeout }

/-- How a failed info request is retried. -/
def infoRetryPolicy (g : ChangeFeed Settled) : RetryPolicy where
  baseTimeout := .ofMillis g.infoRetryInterval
  multiplier := g.infoRetriesMultiplier
  maxRetries := g.infoMaxRetries

end ChangeFeed

/-! ## Scans -/

/-- What a run depends on besides its options: the local zone, the day, and the number of
processors. -/
structure Machine where
  zone : Zone
  today : Date
  processors : Nat

/-- The instant that a time option names; an empty one names none. -/
def Machine.readTime? (m : Machine) (input : String) : Except LiteralFault (Option Instant) :=
  if input = "" then .ok none
  else
    match BackupControl.readTime m.zone m.today input with
    | .ok t => .ok (some t)
    | .error fault => .error (.time input fault)

namespace Scan

/-- The nodes to keep to. -/
def nodes (g : Scan Settled) : List String := splitCommas g.nodeList

/-- The racks to keep to. -/
def racks (g : Scan Settled) : Except LiteralFault (List UInt32) :=
  (readRacks g.rackList).mapError .rack

/-- Which copies are read: rack and node lists pin reads to the master copy, whatever racks are
preferred. -/
def replica (g : Scan Settled) : ReplicaPolicy :=
  if g.rackList ≠ "" ∨ g.nodeList ≠ "" then .master
  else if g.preferRacks ≠ "" then .preferRack
  else .sequence

/-- The bytes of the filter expression, if there is one. -/
def filterBytes (g : Scan Settled) : Except LiteralFault (Option (List UInt8)) :=
  if g.filterExpression = "" then .ok none
  else
    match Base64.decode g.filterExpression with
    | .ok bytes => .ok (some bytes)
    | .error fault => .error (.filterExpression fault)

/-- How records are read. -/
def scanPolicy (g : Scan Settled) : Except LiteralFault ScanPolicy :=
  g.filterBytes.map fun filterExpression => {
    maxRecords := g.maxRecords
    maxRetries := g.maxRetries
    sleepBetweenRetries := .ofMillis g.sleepBetweenRetries
    totalTimeout := .ofMillis g.transfer.totalTimeout
    socketTimeout := .ofMillis g.transfer.socketTimeout
    replica := g.replica
    includeBinData := !g.noBins
    filterExpression := filterExpression }

/-- The partitions that the options name: a digest to resume after goes before a list, and
without either every partition is selected. -/
def selectedPartitions (g : Scan Settled) : Result (List PartitionFilter) :=
  let literal {α : Type} (activity : Activity) (r : Except SelectorFault α) : Result α :=
    Result.during activity (r.mapError fun fault => Failure.literal (.selector fault))
  if g.afterDigest ≠ "" then
    literal .readingAfterDigest ((filterAfterDigest g.transfer.nameSpace g.afterDigest).map ([·]))
  else if g.partitionList ≠ "" then
    literal .readingPartitionList (readPartitionList g.transfer.nameSpace g.partitionList)
  else .ok [.all]

/-- The partitions to keep to, none of which is selected twice. -/
def partitionFilters (g : Scan Settled) : Result (List PartitionFilter) := do
  let filters ← g.selectedPartitions
  Result.during .checkingPartitions (.ofCheck ((checkPartitions filters).mapError .partitions))
  return filters

/-- The folder is emptied before the backup is written. -/
def clearsTarget (g : Scan Settled) : Bool :=
  (g.removeFiles || g.removeArtifacts) && g.continueFrom == ""

/-- Progress is saved to a state file. -/
def savesState (g : Scan Settled) : Bool := g.stateFileDst != "" || g.continueFrom != ""

end Scan

/-! ## Restores -/

namespace Restore

/-- The backup is read from the folder of the transfer options, for want of another input. -/
def isDirectoryRestore (g : Restore Settled) : Bool := g.directoryList == "" && g.inputFile == ""

/-- The namespaces of the backup and of the cluster. -/
def namespaces? (g : Restore Settled) : Option NamespacePair :=
  (namespacePair? g.transfer.nameSpace).map fun (source, destination) => ⟨source, destination⟩

/-- The format of the backup files; an unknown word means that it is found out. -/
def format (g : Restore Settled) : RestoreMode := (RestoreMode.ofWord? g.mode).getD .auto

/-- Where backup files are read: a file goes before a list of folders, and that before a
folder. -/
def source? (g : Restore Settled) : Option RestoreSource :=
  if g.inputFile ≠ "" then some (.file g.inputFile)
  else if g.directoryList ≠ "" then
    some (.directories ((splitCommas g.directoryList).map (joinPath g.parentDirectory)))
  else if g.transfer.directory ≠ "" then some (.directory g.transfer.directory)
  else none

/-- How records are written. -/
def writePolicy (g : Restore Settled) : WritePolicy where
  sendKey := true
  totalTimeout := .ofMillis g.transfer.totalTimeout
  socketTimeout := .ofMillis g.transfer.socketTimeout
  recordExistsAction :=
    if g.replace then .replace else if g.unique then .createOnly else .update
  generation := if g.noGeneration then .none else .expectNewer

/-- How a failed write is retried. -/
def writeRetryPolicy (g : Restore Settled) : RetryPolicy where
  baseTimeout := .ofMillis g.retryBaseInterval
  multiplier := g.retryMultiplier
  maxRetries := g.retryMaxAttempts

end Restore

end BackupControl
