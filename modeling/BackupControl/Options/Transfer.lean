/-
# Transfer options

What is moved between the cluster and a folder, and how fast: the options that a scan backup
and a restore share.
-/
import BackupControl.Options.Group

namespace BackupControl

/-- What is moved, and how fast. -/
structure Transfer (F : Type → Type) where
  /-- The folder of the backup. -/
  directory : F String
  /-- One namespace, or for a restore a source and a destination with a comma between. -/
  nameSpace : F String
  /-- The sets to keep to. -/
  setList : F String
  /-- The bins to keep to. -/
  binList : F String
  /-- How many workers run at once. -/
  parallel : F UInt64
  /-- Leave out records. -/
  noRecords : F Bool
  /-- Leave out secondary indexes. -/
  noIndexes : F Bool
  /-- Leave out user-defined functions. -/
  noUdfs : F Bool
  /-- The cap on records per second; zero is no cap. -/
  recordsPerSecond : F UInt32
  /-- The cap on MiB per second; zero is no cap. -/
  bandwidth : F UInt64
  /-- Milliseconds that a request may take in all. -/
  totalTimeout : F UInt64
  /-- Milliseconds that a socket may stay silent. -/
  socketTimeout : F UInt64
  /-- Milliseconds that an info request may take. -/
  infoTimeout : F UInt64
  /-- How often an info request is retried. -/
  infoMaxRetries : F UInt32
  /-- The factor between the pauses of retries. -/
  infoRetriesMultiplier : F Binary64
  /-- Milliseconds before the first retry. -/
  infoRetryInterval : F UInt64
  /-- MiB of buffer for the standard streams. -/
  stdBufferSize : F UInt64

/-- The options of the group, in the order in which a refusal lists them. -/
def Transfer.settings : List (Setting Transfer) := [
  { key := "directory", kind := .text, get := (·.directory),
    put := fun v g => { g with directory := v },
    flag := some ⟨"directory", some 'd', .both⟩ },
  { key := "namespace", kind := .text, get := (·.nameSpace),
    put := fun v g => { g with nameSpace := v },
    flag := some ⟨"namespace", some 'n', .both⟩ },
  { key := "set-list", kind := .list, get := (·.setList),
    put := fun v g => { g with setList := v },
    flag := some ⟨"set-list", some 's', .both⟩ },
  { key := "bin-list", kind := .list, get := (·.binList),
    put := fun v g => { g with binList := v },
    flag := some ⟨"bin-list", some 'B', .both⟩ },
  { key := "parallel", kind := .size, get := (·.parallel),
    put := fun v g => { g with parallel := v },
    flag := some ⟨"parallel", some 'w', .both⟩ },
  { key := "no-records", kind := .switch, get := (·.noRecords),
    put := fun v g => { g with noRecords := v } },
  { key := "no-indexes", kind := .switch, get := (·.noIndexes),
    put := fun v g => { g with noIndexes := v } },
  { key := "no-udfs", kind := .switch, get := (·.noUdfs),
    put := fun v g => { g with noUdfs := v } },
  { key := "records-per-second", kind := .word32, get := (·.recordsPerSecond),
    put := fun v g => { g with recordsPerSecond := v },
    flag := some ⟨"records-per-second", some 'L', .both⟩ },
  { key := "bandwidth", kind := .word64, get := (·.bandwidth),
    put := fun v g => { g with bandwidth := v },
    flag := some ⟨"nice", some 'N', .both⟩ },
  { key := "total-timeout", kind := .word64, get := (·.totalTimeout),
    put := fun v g => { g with totalTimeout := v },
    flag := some ⟨"total-timeout", some 'T', .both⟩ },
  { key := "socket-timeout", kind := .word64, get := (·.socketTimeout),
    put := fun v g => { g with socketTimeout := v } },
  { key := "info-timeout", kind := .word64, get := (·.infoTimeout),
    put := fun v g => { g with infoTimeout := v } },
  { key := "info-max-retries", kind := .word32, get := (·.infoMaxRetries),
    put := fun v g => { g with infoMaxRetries := v } },
  { key := "info-retries-multiplier", kind := .real, get := (·.infoRetriesMultiplier),
    put := fun v g => { g with infoRetriesMultiplier := v } },
  { key := "info-retry-interval", kind := .word64, get := (·.infoRetryInterval),
    put := fun v g => { g with infoRetryInterval := v } },
  { key := "std-buffer-size", kind := .size, get := (·.stdBufferSize),
    put := fun v g => { g with stdBufferSize := v } }]

instance : OptionGroup Transfer where
  fill f :=
    { directory := f .text
      nameSpace := f .text
      setList := f .list
      binList := f .list
      parallel := f .size
      noRecords := f .switch
      noIndexes := f .switch
      noUdfs := f .switch
      recordsPerSecond := f .word32
      bandwidth := f .word64
      totalTimeout := f .word64
      socketTimeout := f .word64
      infoTimeout := f .word64
      infoMaxRetries := f .word32
      infoRetriesMultiplier := f .real
      infoRetryInterval := f .word64
      stdBufferSize := f .size }
  zipWith f a b :=
    { directory := f .text a.directory b.directory
      nameSpace := f .text a.nameSpace b.nameSpace
      setList := f .list a.setList b.setList
      binList := f .list a.binList b.binList
      parallel := f .size a.parallel b.parallel
      noRecords := f .switch a.noRecords b.noRecords
      noIndexes := f .switch a.noIndexes b.noIndexes
      noUdfs := f .switch a.noUdfs b.noUdfs
      recordsPerSecond := f .word32 a.recordsPerSecond b.recordsPerSecond
      bandwidth := f .word64 a.bandwidth b.bandwidth
      totalTimeout := f .word64 a.totalTimeout b.totalTimeout
      socketTimeout := f .word64 a.socketTimeout b.socketTimeout
      infoTimeout := f .word64 a.infoTimeout b.infoTimeout
      infoMaxRetries := f .word32 a.infoMaxRetries b.infoMaxRetries
      infoRetriesMultiplier := f .real a.infoRetriesMultiplier b.infoRetriesMultiplier
      infoRetryInterval := f .word64 a.infoRetryInterval b.infoRetryInterval
      stdBufferSize := f .size a.stdBufferSize b.stdBufferSize }
  settings := Transfer.settings

end BackupControl
