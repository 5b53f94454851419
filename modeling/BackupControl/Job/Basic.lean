/-
# Jobs

What the backup engine is told to do.  A job counts in the units of the engine: bytes, bytes
per second, and spans of seconds and nanoseconds.
-/
import BackupControl.Calendar.Date
import BackupControl.Partition.Filter
import BackupControl.Rules.Restore
import BackupControl.Rules.Storage

namespace BackupControl

/-- A span of time. -/
structure Span where
  seconds : Nat
  nanos : Nat
  deriving DecidableEq, Repr

/-- A number of milliseconds as a span. -/
def Span.ofMillis (ms : UInt64) : Span := ⟨ms.toNat / 1000, ms.toNat % 1000 * 1000000⟩

/-- A number of MiB in bytes; what exceeds sixty-four bits is the largest number of them, so a
limit never turns into none. -/
def bytesOfMiB (n : UInt64) : UInt64 := UInt64.ofNat (min (n.toNat * twoTo 20) (twoTo 64 - 1))

/-! ## Connections -/

/-- How a connection to the cluster is secured. -/
structure TlsConfig where
  name : Option String
  caFile : Option String
  certFile : Option String
  keyFile : Option String
  keyFilePassword : Option String
  protocols : Option String
  deriving DecidableEq, Repr

/-- How the engine reaches the cluster. -/
structure ClusterConfig where
  host : String
  port : UInt16
  user : Option String
  password : Option String
  authMode : Option String
  tls : Option TlsConfig
  timeout : Span
  idleTimeout : Span
  loginTimeout : Span
  deriving DecidableEq, Repr

/-- How the engine reaches the secret agent. -/
structure AgentConfig where
  connectionType : Option String
  address : String
  port : Option UInt16
  timeoutMillis : Option UInt64
  caFile : Option String
  tlsName : Option String
  certFile : Option String
  keyFile : Option String
  isBase64 : Bool
  deriving DecidableEq, Repr

/-! ## Policies -/

/-- How long an info request may take. -/
structure InfoPolicy where
  timeout : Span
  deriving DecidableEq, Repr

/-- How a failed request is retried, with growing pauses. -/
structure RetryPolicy where
  baseTimeout : Span
  multiplier : Binary64
  maxRetries : UInt32
  deriving DecidableEq, Repr

/-- Which copy of a record a scan reads. -/
inductive ReplicaPolicy where
  | sequence
  | preferRack
  | master
  deriving DecidableEq, Repr

/-- How a scan reads records. -/
structure ScanPolicy where
  maxRecords : Int64
  maxRetries : UInt32
  sleepBetweenRetries : Span
  totalTimeout : Span
  socketTimeout : Span
  replica : ReplicaPolicy
  includeBinData : Bool
  filterExpression : Option (List UInt8)
  deriving DecidableEq, Repr

/-- What happens to a record that is already there. -/
inductive RecordExistsAction where
  | update
  | replace
  | createOnly
  deriving DecidableEq, Repr

/-- Whether the generation of a record is looked at before it is written. -/
inductive GenerationPolicy where
  | none
  | expectNewer
  deriving DecidableEq, Repr

/-- How a restore writes records. -/
structure WritePolicy where
  sendKey : Bool
  totalTimeout : Span
  socketTimeout : Span
  recordExistsAction : RecordExistsAction
  generation : GenerationPolicy
  deriving DecidableEq, Repr

/-- How backup files are compressed. -/
structure CompressionPolicy where
  mode : String
  level : Int32
  deriving DecidableEq, Repr

/-- How backup files are encrypted. -/
structure EncryptionPolicy where
  mode : String
  keyFile : Option String
  keyEnv : Option String
  keySecret : Option String
  deriving DecidableEq, Repr

/-! ## Backups -/

/-- What the engine does in a scan. -/
structure ScanConfig where
  nameSpace : String
  setList : List String := []
  binList : List String := []
  nodeList : List String := []
  rackList : List UInt32 := []
  partitionFilters : List PartitionFilter := [.all]
  scanPolicy : ScanPolicy := {
    maxRecords := 0
    maxRetries := 5
    sleepBetweenRetries := ⟨0, 500000000⟩
    totalTimeout := ⟨0, 0⟩
    socketTimeout := ⟨30, 0⟩
    replica := .sequence
    includeBinData := true
    filterExpression := none }
  infoPolicy : InfoPolicy := { timeout := ⟨10, 0⟩ }
  infoRetryPolicy : RetryPolicy := {
    baseTimeout := ⟨1, 0⟩
    multiplier := (1 : Binary64)
    maxRetries := 3 }
  compressionPolicy : Option CompressionPolicy := none
  encryptionPolicy : Option EncryptionPolicy := none
  agent : Option AgentConfig := none
  modifiedBefore : Option Instant := none
  modifiedAfter : Option Instant := none
  parallelRead : UInt64 := 1
  parallelWrite : UInt64 := 1
  recordsPerSecond : UInt32 := 0
  bandwidth : UInt64 := 0
  fileLimit : UInt64 := 0
  noRecords : Bool := false
  noIndexes : Bool := false
  noUdfs : Bool := false
  compact : Bool := false
  noTtlOnly : Bool := false
  outputFilePrefix : String := ""
  stateFile : Option String := none
  isContinued : Bool := false
  pageSize : Int64 := 0
  metricsEnabled : Bool := false

/-- What the engine does along the change feed. -/
structure FeedConfig where
  nameSpace : String
  dc : String
  localAddress : String
  localPort : UInt16
  rewind : String
  compressionPolicy : Option CompressionPolicy
  encryptionPolicy : Option EncryptionPolicy
  agent : Option AgentConfig
  infoPolicy : InfoPolicy
  infoRetryPolicy : RetryPolicy
  fileLimit : UInt64
  parallelWrite : Nat
  maxThroughput : UInt32
  readTimeout : Span
  writeTimeout : Span
  infoPollingPeriod : Span
  startTimeout : Span
  resultsQueueSize : UInt64
  ackQueueSize : UInt64
  maxConnections : UInt64
  forward : Bool
  metricsEnabled : Bool

/-- A backup as the engine is told of it. -/
structure BackupJob where
  cluster : ClusterConfig
  scan : ScanConfig
  changeFeed : Option FeedConfig
  storage : Target
  directory : String
  outputFile : String
  estimate : Bool
  estimateSamples : Int64
  removeArtifacts : Bool
  isChangeFeed : Bool
  isContinued : Bool
  isStopXdr : Bool
  isUnblockMrt : Bool
  skipsWriterSetup : Bool
  writesToOutput : Bool
  clearsTarget : Bool
  savesState : Bool

/-! ## Restores -/

/-- The namespace of the backup and the one that records go to. -/
structure NamespacePair where
  source : String
  destination : String
  deriving DecidableEq, Repr

/-- Where backup files are read. -/
inductive RestoreSource where
  | file (path : String)
  | directory (path : String)
  | directories (paths : List String)
  deriving DecidableEq, Repr

/-- What the engine does in a restore. -/
structure RestoreConfig where
  nameSpace : Option NamespacePair
  source : Option RestoreSource
  mode : RestoreMode
  setList : List String
  binList : List String
  writePolicy : WritePolicy
  infoPolicy : InfoPolicy
  infoRetryPolicy : RetryPolicy
  writeRetryPolicy : RetryPolicy
  compressionPolicy : Option CompressionPolicy
  encryptionPolicy : Option EncryptionPolicy
  agent : Option AgentConfig
  parallel : UInt64
  recordsPerSecond : UInt32
  bandwidth : UInt64
  extraTtl : Int64
  noRecords : Bool
  noIndexes : Bool
  noUdfs : Bool
  disableBatchWrites : Bool
  batchSize : UInt64
  maxAsyncBatches : UInt64
  warmUp : UInt64
  ignoreRecordErrors : Bool
  validateOnly : Bool
  applyMetadataLast : Bool
  metricsEnabled : Bool

/-- A restore as the engine is told of it. -/
structure RestoreJob where
  cluster : ClusterConfig
  restore : RestoreConfig
  storage : Target
  isDirectoryRestore : Bool

end BackupControl
