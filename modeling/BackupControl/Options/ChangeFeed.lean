/-
# Change-feed backup options

The options of a backup that follows the change feed of the cluster.  The options that it
shares with a scan backup have no flags of their own.
-/
import BackupControl.Options.Group

namespace BackupControl

/-- Options of a backup that follows the change feed. -/
structure ChangeFeed (F : Type → Type) where
  /-- The namespace to back up. -/
  nameSpace : F String
  /-- The folder of the backup. -/
  directory : F String
  /-- MiB per file; zero is no limit. -/
  fileLimit : F UInt64
  /-- Empty the folder before writing. -/
  removeFiles : F Bool
  /-- How many writers run at once; zero is one for each processor. -/
  parallelWrite : F UInt64
  /-- The data center that the cluster ships changes to. -/
  dc : F String
  /-- The address that the feed connects back to. -/
  localAddress : F String
  /-- The port that the feed connects back to. -/
  localPort : F UInt16
  /-- How far back the feed starts: everything, or a number of seconds. -/
  rewind : F String
  /-- The cap on records per second that the cluster ships. -/
  maxThroughput : F UInt32
  /-- Forward changes to other data centers as well. -/
  forward : F Bool
  /-- Milliseconds that a read may take. -/
  readTimeout : F UInt64
  /-- Milliseconds that a write may take. -/
  writeTimeout : F UInt64
  /-- Milliseconds between looks at the state of the feed. -/
  infoPollingPeriod : F UInt64
  /-- Milliseconds to wait for the feed to start. -/
  startTimeout : F UInt64
  /-- How many records may wait to be written. -/
  resultsQueueSize : F UInt64
  /-- How many acknowledgements may wait. -/
  ackQueueSize : F UInt64
  /-- How many connections the feed may open. -/
  maxConnections : F UInt64
  /-- Milliseconds that an info request may take. -/
  infoTimeout : F UInt64
  /-- How often an info request is retried. -/
  infoMaxRetries : F UInt32
  /-- The factor between the pauses of retries. -/
  infoRetriesMultiplier : F Binary64
  /-- Milliseconds before the first retry. -/
  infoRetryInterval : F UInt64
  /-- Stop a feed left running, and write nothing. -/
  stopXdr : F Bool
  /-- Unblock transaction writes left blocked, and write nothing. -/
  unblockMrt : F Bool

/-- The options of the group, in the order in which a refusal lists them. -/
def ChangeFeed.settings : List (Setting ChangeFeed) := [
  { key := "namespace", kind := .text, get := (·.nameSpace),
    put := fun v g => { g with nameSpace := v },
    flag := none },
  { key := "directory", kind := .text, get := (·.directory),
    put := fun v g => { g with directory := v },
    flag := none },
  { key := "file-limit", kind := .word64, get := (·.fileLimit),
    put := fun v g => { g with fileLimit := v },
    flag := none },
  { key := "remove-files", kind := .switch, get := (·.removeFiles),
    put := fun v g => { g with removeFiles := v },
    flag := none },
  { key := "parallel-write", kind := .size, get := (·.parallelWrite),
    put := fun v g => { g with parallelWrite := v } },
  { key := "dc", kind := .text, get := (·.dc), put := fun v g => { g with dc := v } },
  { key := "local-address", kind := .text, get := (·.localAddress),
    put := fun v g => { g with localAddress := v } },
  { key := "local-port", kind := .word16, get := (·.localPort),
    put := fun v g => { g with localPort := v } },
  { key := "rewind", kind := .text, get := (·.rewind), put := fun v g => { g with rewind := v } },
  { key := "max-throughput", kind := .word32, get := (·.maxThroughput),
    put := fun v g => { g with maxThroughput := v } },
  { key := "forward", kind := .switch, get := (·.forward),
    put := fun v g => { g with forward := v } },
  { key := "read-timeout", kind := .word64, get := (·.readTimeout),
    put := fun v g => { g with readTimeout := v } },
  { key := "write-timeout", kind := .word64, get := (·.writeTimeout),
    put := fun v g => { g with writeTimeout := v } },
  { key := "info-polling-period", kind := .word64, get := (·.infoPollingPeriod),
    put := fun v g => { g with infoPollingPeriod := v },
    flag := some ⟨"info-poling-period", none, .both⟩ },
  { key := "start-timeout", kind := .word64, get := (·.startTimeout),
    put := fun v g => { g with startTimeout := v } },
  { key := "results-queue-size", kind := .size, get := (·.resultsQueueSize),
    put := fun v g => { g with resultsQueueSize := v } },
  { key := "ack-queue-size", kind := .size, get := (·.ackQueueSize),
    put := fun v g => { g with ackQueueSize := v } },
  { key := "max-connections", kind := .size, get := (·.maxConnections),
    put := fun v g => { g with maxConnections := v } },
  { key := "info-timeout", kind := .word64, get := (·.infoTimeout),
    put := fun v g => { g with infoTimeout := v },
    flag := none },
  { key := "info-max-retries", kind := .word32, get := (·.infoMaxRetries),
    put := fun v g => { g with infoMaxRetries := v },
    flag := none },
  { key := "info-retries-multiplier", kind := .real, get := (·.infoRetriesMultiplier),
    put := fun v g => { g with infoRetriesMultiplier := v },
    flag := none },
  { key := "info-retry-interval", kind := .word64, get := (·.infoRetryInterval),
    put := fun v g => { g with infoRetryInterval := v },
    flag := none },
  { key := "stop-xdr", kind := .switch, get := (·.stopXdr),
    put := fun v g => { g with stopXdr := v } },
  { key := "unblock-mrt", kind := .switch, get := (·.unblockMrt),
    put := fun v g => { g with unblockMrt := v } }]

instance : OptionGroup ChangeFeed where
  fill f :=
    { nameSpace := f .text
      directory := f .text
      fileLimit := f .word64
      removeFiles := f .switch
      parallelWrite := f .size
      dc := f .text
      localAddress := f .text
      localPort := f .word16
      rewind := f .text
      maxThroughput := f .word32
      forward := f .switch
      readTimeout := f .word64
      writeTimeout := f .word64
      infoPollingPeriod := f .word64
      startTimeout := f .word64
      resultsQueueSize := f .size
      ackQueueSize := f .size
      maxConnections := f .size
      infoTimeout := f .word64
      infoMaxRetries := f .word32
      infoRetriesMultiplier := f .real
      infoRetryInterval := f .word64
      stopXdr := f .switch
      unblockMrt := f .switch }
  zipWith f a b :=
    { nameSpace := f .text a.nameSpace b.nameSpace
      directory := f .text a.directory b.directory
      fileLimit := f .word64 a.fileLimit b.fileLimit
      removeFiles := f .switch a.removeFiles b.removeFiles
      parallelWrite := f .size a.parallelWrite b.parallelWrite
      dc := f .text a.dc b.dc
      localAddress := f .text a.localAddress b.localAddress
      localPort := f .word16 a.localPort b.localPort
      rewind := f .text a.rewind b.rewind
      maxThroughput := f .word32 a.maxThroughput b.maxThroughput
      forward := f .switch a.forward b.forward
      readTimeout := f .word64 a.readTimeout b.readTimeout
      writeTimeout := f .word64 a.writeTimeout b.writeTimeout
      infoPollingPeriod := f .word64 a.infoPollingPeriod b.infoPollingPeriod
      startTimeout := f .word64 a.startTimeout b.startTimeout
      resultsQueueSize := f .size a.resultsQueueSize b.resultsQueueSize
      ackQueueSize := f .size a.ackQueueSize b.ackQueueSize
      maxConnections := f .size a.maxConnections b.maxConnections
      infoTimeout := f .word64 a.infoTimeout b.infoTimeout
      infoMaxRetries := f .word32 a.infoMaxRetries b.infoMaxRetries
      infoRetriesMultiplier := f .real a.infoRetriesMultiplier b.infoRetriesMultiplier
      infoRetryInterval := f .word64 a.infoRetryInterval b.infoRetryInterval
      stopXdr := f .switch a.stopXdr b.stopXdr
      unblockMrt := f .switch a.unblockMrt b.unblockMrt }
  settings := ChangeFeed.settings

end BackupControl
