/-
# Restore options

The options of a restore.
-/
import BackupControl.Options.Transfer

namespace BackupControl

/-- Options of a restore. -/
structure Restore (F : Type → Type) where
  /-- What is moved, and how fast. -/
  transfer : Transfer F
  /-- The single backup file, or a hyphen for the standard input. -/
  inputFile : F String
  /-- The backup folders, restored in order. -/
  directoryList : F String
  /-- The folder that the listed folders are seen from. -/
  parentDirectory : F String
  /-- The format of the backup files. -/
  mode : F String
  /-- Write records one at a time. -/
  disableBatchWrites : F Bool
  /-- How many records a batch holds. -/
  batchSize : F UInt64
  /-- How many batches are under way at once. -/
  maxAsyncBatches : F UInt64
  /-- How many records are written one at a time before batches start. -/
  warmUp : F Int64
  /-- Seconds added to the life of every record. -/
  extraTtl : F Int64
  /-- Go on after a record that cannot be written. -/
  ignoreRecordError : F Bool
  /-- Keep to records that do not exist yet. -/
  unique : F Bool
  /-- Replace whole records instead of merging their bins. -/
  replace : F Bool
  /-- Write whatever the generation of a record is. -/
  noGeneration : F Bool
  /-- Milliseconds before the first retry of a write. -/
  retryBaseInterval : F UInt64
  /-- The factor between the pauses of retries of a write. -/
  retryMultiplier : F Binary64
  /-- How often a write is tried. -/
  retryMaxAttempts : F UInt32
  /-- Check the backup files and write nothing. -/
  validateOnly : F Bool
  /-- Restore indexes and functions after the records. -/
  applyMetadataLast : F Bool

/-- The options of the group, in the order in which a refusal lists them. -/
def Restore.settings : List (Setting Restore) :=
  Transfer.settings.map (Setting.within (·.transfer) fun c g => { g with transfer := c }) ++ [
  { key := "input-file", kind := .text, get := (·.inputFile),
    put := fun v g => { g with inputFile := v },
    flag := some ⟨"input-file", some 'i', .both⟩ },
  { key := "directory-list", kind := .list, get := (·.directoryList),
    put := fun v g => { g with directoryList := v } },
  { key := "parent-directory", kind := .text, get := (·.parentDirectory),
    put := fun v g => { g with parentDirectory := v } },
  { key := "mode", kind := .text, get := (·.mode), put := fun v g => { g with mode := v },
    flag := some ⟨"mode", some 'm', .both⟩ },
  { key := "disable-batch-writes", kind := .switch, get := (·.disableBatchWrites),
    put := fun v g => { g with disableBatchWrites := v } },
  { key := "batch-size", kind := .size, get := (·.batchSize),
    put := fun v g => { g with batchSize := v } },
  { key := "max-async-batches", kind := .size, get := (·.maxAsyncBatches),
    put := fun v g => { g with maxAsyncBatches := v } },
  { key := "warm-up", kind := .int64, get := (·.warmUp), put := fun v g => { g with warmUp := v } },
  { key := "extra-ttl", kind := .int64, get := (·.extraTtl),
    put := fun v g => { g with extraTtl := v } },
  { key := "ignore-record-error", kind := .switch, get := (·.ignoreRecordError),
    put := fun v g => { g with ignoreRecordError := v } },
  { key := "unique", kind := .switch, get := (·.unique), put := fun v g => { g with unique := v },
    flag := some ⟨"unique", some 'u', .both⟩ },
  { key := "replace", kind := .switch, get := (·.replace),
    put := fun v g => { g with replace := v },
    flag := some ⟨"replace", some 'r', .both⟩ },
  { key := "no-generation", kind := .switch, get := (·.noGeneration),
    put := fun v g => { g with noGeneration := v },
    flag := some ⟨"no-generation", some 'g', .both⟩ },
  { key := "retry-base-interval", kind := .word64, get := (·.retryBaseInterval),
    put := fun v g => { g with retryBaseInterval := v } },
  { key := "retry-multiplier", kind := .real, get := (·.retryMultiplier),
    put := fun v g => { g with retryMultiplier := v } },
  { key := "retry-max-attempts", kind := .word32, get := (·.retryMaxAttempts),
    put := fun v g => { g with retryMaxAttempts := v } },
  { key := "validate-only", kind := .switch, get := (·.validateOnly),
    put := fun v g => { g with validateOnly := v } },
  { key := "apply-metadata-last", kind := .switch, get := (·.applyMetadataLast),
    put := fun v g => { g with applyMetadataLast := v } }]

instance : OptionGroup Restore where
  fill f :=
    { transfer := OptionGroup.fill f
      inputFile := f .text
      directoryList := f .list
      parentDirectory := f .text
      mode := f .text
      disableBatchWrites := f .switch
      batchSize := f .size
      maxAsyncBatches := f .size
      warmUp := f .int64
      extraTtl := f .int64
      ignoreRecordError := f .switch
      unique := f .switch
      replace := f .switch
      noGeneration := f .switch
      retryBaseInterval := f .word64
      retryMultiplier := f .real
      retryMaxAttempts := f .word32
      validateOnly := f .switch
      applyMetadataLast := f .switch }
  zipWith f a b :=
    { transfer := OptionGroup.zipWith f a.transfer b.transfer
      inputFile := f .text a.inputFile b.inputFile
      directoryList := f .list a.directoryList b.directoryList
      parentDirectory := f .text a.parentDirectory b.parentDirectory
      mode := f .text a.mode b.mode
      disableBatchWrites := f .switch a.disableBatchWrites b.disableBatchWrites
      batchSize := f .size a.batchSize b.batchSize
      maxAsyncBatches := f .size a.maxAsyncBatches b.maxAsyncBatches
      warmUp := f .int64 a.warmUp b.warmUp
      extraTtl := f .int64 a.extraTtl b.extraTtl
      ignoreRecordError := f .switch a.ignoreRecordError b.ignoreRecordError
      unique := f .switch a.unique b.unique
      replace := f .switch a.replace b.replace
      noGeneration := f .switch a.noGeneration b.noGeneration
      retryBaseInterval := f .word64 a.retryBaseInterval b.retryBaseInterval
      retryMultiplier := f .real a.retryMultiplier b.retryMultiplier
      retryMaxAttempts := f .word32 a.retryMaxAttempts b.retryMaxAttempts
      validateOnly := f .switch a.validateOnly b.validateOnly
      applyMetadataLast := f .switch a.applyMetadataLast b.applyMetadataLast }
  settings := Restore.settings

end BackupControl
