/-
# Scan backup options

The options of a backup that scans a namespace.
-/
import BackupControl.Options.Transfer

namespace BackupControl

/-- Options of a backup that scans the namespace. -/
structure Scan (F : Type → Type) where
  /-- What is moved, and how fast. -/
  transfer : Transfer F
  /-- The single file to write, or a hyphen for the standard output. -/
  outputFile : F String
  /-- What the names of files in the folder begin with. -/
  outputFilePrefix : F String
  /-- Empty the folder before writing. -/
  removeFiles : F Bool
  /-- Remove an earlier backup from the folder and write nothing. -/
  removeArtifacts : F Bool
  /-- MiB per file; zero is no limit. -/
  fileLimit : F UInt64
  /-- Write values without encoding them. -/
  compact : F Bool
  /-- Leave out the bins of records. -/
  noBins : F Bool
  /-- Keep to records that never expire. -/
  noTtlOnly : F Bool
  /-- The time literal that bounds modification from above. -/
  modifiedBefore : F String
  /-- The time literal that bounds modification from below. -/
  modifiedAfter : F String
  /-- The digest to resume after, in base64. -/
  afterDigest : F String
  /-- The partitions to keep to. -/
  partitionList : F String
  /-- The nodes to keep to. -/
  nodeList : F String
  /-- The racks to keep to. -/
  rackList : F String
  /-- The racks to read from first. -/
  preferRacks : F String
  /-- The filter expression, in base64. -/
  filterExpression : F String
  /-- About how many records to stop after; zero is no limit. -/
  maxRecords : F Int64
  /-- How often a scan is retried. -/
  maxRetries : F UInt32
  /-- Milliseconds between retries of a scan. -/
  sleepBetweenRetries : F UInt64
  /-- How many records a page holds when progress is saved. -/
  scanPageSize : F Int64
  /-- Estimate the size of the backup and write nothing. -/
  estimate : F Bool
  /-- How many records an estimate samples. -/
  estimateSamples : F Int64
  /-- The state file in the folder to resume from. -/
  continueFrom : F String
  /-- The state file in the folder to save progress to. -/
  stateFileDst : F String

/-- The options of the group, in the order in which a refusal lists them. -/
def Scan.settings : List (Setting Scan) :=
  Transfer.settings.map (Setting.within (·.transfer) fun c g => { g with transfer := c }) ++ [
  { key := "output-file", kind := .text, get := (·.outputFile),
    put := fun v g => { g with outputFile := v },
    flag := some ⟨"output-file", some 'o', .both⟩ },
  { key := "output-file-prefix", kind := .text, get := (·.outputFilePrefix),
    put := fun v g => { g with outputFilePrefix := v } },
  { key := "remove-files", kind := .switch, get := (·.removeFiles),
    put := fun v g => { g with removeFiles := v },
    flag := some ⟨"remove-files", some 'r', .both⟩ },
  { key := "remove-artifacts", kind := .switch, get := (·.removeArtifacts),
    put := fun v g => { g with removeArtifacts := v } },
  { key := "file-limit", kind := .word64, get := (·.fileLimit),
    put := fun v g => { g with fileLimit := v },
    flag := some ⟨"file-limit", some 'F', .both⟩ },
  { key := "compact", kind := .switch, get := (·.compact),
    put := fun v g => { g with compact := v },
    flag := some ⟨"compact", some 'C', .both⟩ },
  { key := "no-bins", kind := .switch, get := (·.noBins),
    put := fun v g => { g with noBins := v } },
  { key := "no-ttl-only", kind := .switch, get := (·.noTtlOnly),
    put := fun v g => { g with noTtlOnly := v } },
  { key := "modified-before", kind := .text, get := (·.modifiedBefore),
    put := fun v g => { g with modifiedBefore := v },
    flag := some ⟨"modified-before", some 'b', .both⟩ },
  { key := "modified-after", kind := .text, get := (·.modifiedAfter),
    put := fun v g => { g with modifiedAfter := v },
    flag := some ⟨"modified-after", some 'a', .both⟩ },
  { key := "after-digest", kind := .text, get := (·.afterDigest),
    put := fun v g => { g with afterDigest := v },
    flag := some ⟨"after-digest", some 'D', .both⟩ },
  { key := "partition-list", kind := .text, get := (·.partitionList),
    put := fun v g => { g with partitionList := v },
    flag := some ⟨"partition-list", some 'X', .both⟩ },
  { key := "node-list", kind := .list, get := (·.nodeList),
    put := fun v g => { g with nodeList := v },
    flag := some ⟨"node-list", some 'l', .both⟩ },
  { key := "rack-list", kind := .list, get := (·.rackList),
    put := fun v g => { g with rackList := v } },
  { key := "prefer-racks", kind := .list, get := (·.preferRacks),
    put := fun v g => { g with preferRacks := v } },
  { key := "filter-expression", kind := .text, get := (·.filterExpression),
    put := fun v g => { g with filterExpression := v },
    flag := some ⟨"filter-exp", some 'f', .both⟩ },
  { key := "max-records", kind := .int64, get := (·.maxRecords),
    put := fun v g => { g with maxRecords := v },
    flag := some ⟨"max-records", some 'M', .both⟩ },
  { key := "max-retries", kind := .word32, get := (·.maxRetries),
    put := fun v g => { g with maxRetries := v } },
  { key := "sleep-between-retries", kind := .word64, get := (·.sleepBetweenRetries),
    put := fun v g => { g with sleepBetweenRetries := v } },
  { key := "scan-page-size", kind := .int64, get := (·.scanPageSize),
    put := fun v g => { g with scanPageSize := v } },
  { key := "estimate", kind := .switch, get := (·.estimate),
    put := fun v g => { g with estimate := v },
    flag := some ⟨"estimate", some 'e', .both⟩ },
  { key := "estimate-samples", kind := .int64, get := (·.estimateSamples),
    put := fun v g => { g with estimateSamples := v } },
  { key := "continue", kind := .text, get := (·.continueFrom),
    put := fun v g => { g with continueFrom := v } },
  { key := "state-file-dst", kind := .text, get := (·.stateFileDst),
    put := fun v g => { g with stateFileDst := v } }]

instance : OptionGroup Scan where
  fill f :=
    { transfer := OptionGroup.fill f
      outputFile := f .text
      outputFilePrefix := f .text
      removeFiles := f .switch
      removeArtifacts := f .switch
      fileLimit := f .word64
      compact := f .switch
      noBins := f .switch
      noTtlOnly := f .switch
      modifiedBefore := f .text
      modifiedAfter := f .text
      afterDigest := f .text
      partitionList := f .text
      nodeList := f .list
      rackList := f .list
      preferRacks := f .list
      filterExpression := f .text
      maxRecords := f .int64
      maxRetries := f .word32
      sleepBetweenRetries := f .word64
      scanPageSize := f .int64
      estimate := f .switch
      estimateSamples := f .int64
      continueFrom := f .text
      stateFileDst := f .text }
  zipWith f a b :=
    { transfer := OptionGroup.zipWith f a.transfer b.transfer
      outputFile := f .text a.outputFile b.outputFile
      outputFilePrefix := f .text a.outputFilePrefix b.outputFilePrefix
      removeFiles := f .switch a.removeFiles b.removeFiles
      removeArtifacts := f .switch a.removeArtifacts b.removeArtifacts
      fileLimit := f .word64 a.fileLimit b.fileLimit
      compact := f .switch a.compact b.compact
      noBins := f .switch a.noBins b.noBins
      noTtlOnly := f .switch a.noTtlOnly b.noTtlOnly
      modifiedBefore := f .text a.modifiedBefore b.modifiedBefore
      modifiedAfter := f .text a.modifiedAfter b.modifiedAfter
      afterDigest := f .text a.afterDigest b.afterDigest
      partitionList := f .text a.partitionList b.partitionList
      nodeList := f .list a.nodeList b.nodeList
      rackList := f .list a.rackList b.rackList
      preferRacks := f .list a.preferRacks b.preferRacks
      filterExpression := f .text a.filterExpression b.filterExpression
      maxRecords := f .int64 a.maxRecords b.maxRecords
      maxRetries := f .word32 a.maxRetries b.maxRetries
      sleepBetweenRetries := f .word64 a.sleepBetweenRetries b.sleepBetweenRetries
      scanPageSize := f .int64 a.scanPageSize b.scanPageSize
      estimate := f .switch a.estimate b.estimate
      estimateSamples := f .int64 a.estimateSamples b.estimateSamples
      continueFrom := f .text a.continueFrom b.continueFrom
      stateFileDst := f .text a.stateFileDst b.stateFileDst }
  settings := Scan.settings

end BackupControl
