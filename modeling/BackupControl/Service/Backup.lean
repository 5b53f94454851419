/-
# Backup services

A backup before it becomes a job: a scan or a change feed, and the infrastructure.  Which of
the two it is, is decided by the presence of the change-feed section alone.
-/
import BackupControl.Rules.ChangeFeed
import BackupControl.Rules.Scan
import BackupControl.Service.Infrastructure

namespace BackupControl

/-- A backup with a value for every option.  One of the two kinds of backup is there once the
rules are met. -/
structure BackupService where
  infrastructure : Infrastructure
  scan : Option (Scan Settled)
  changeFeed : Option (ChangeFeed Settled)

namespace BackupService

/-- The service of a layer.  The change-feed section, if present, takes the shared options of
the scan section, which must then set none that mean something to a scan only. -/
def ofLayer (defaults : Defaults) (l : Layer) : Except Violation BackupService :=
  let infrastructure := Infrastructure.ofLayer defaults l
  let scan := l.scan.getD OptionGroup.unset
  match l.changeFeed with
  | some feed =>
    match scan.scanOnly with
    | option :: _ => .error (.unsupportedForChangeFeed option)
    | [] =>
      let feed := OptionGroup.settle (feed.inherit scan) defaults.changeFeed
      .ok ⟨infrastructure, none, some feed⟩
  | none => .ok ⟨infrastructure, some (OptionGroup.settle scan defaults.scan), none⟩

/-! ## Facts -/

/-- The backup follows the change feed. -/
def isChangeFeed (s : BackupService) : Bool := s.changeFeed.isSome && s.scan.isNone

/-- The backup resumes from a state file. -/
def isContinued (s : BackupService) : Bool := s.scan.any fun g => g.continueFrom != ""

/-- The run stops a feed left running. -/
def isStopXdr (s : BackupService) : Bool := s.changeFeed.any (·.stopXdr)

/-- The run unblocks transaction writes left blocked. -/
def isUnblockMrt (s : BackupService) : Bool := s.changeFeed.any (·.unblockMrt)

/-- The run is no estimate. -/
def skipsWriterSetup (s : BackupService) : Bool := s.scan.all fun g => !g.estimate

/-- The output file that stands for the standard output. -/
def outputMark : String := "-"

/-- The backup is written to the standard output. -/
def writesToOutput (s : BackupService) : Bool := s.scan.any fun g => g.outputFile == outputMark

/-- The folder is emptied before the backup is written. -/
def clearsTarget (s : BackupService) : Bool :=
  match s.scan, s.changeFeed with
  | some scan, _ => scan.clearsTarget
  | none, some feed => feed.removeFiles
  | none, none => false

/-- Progress is saved to a state file. -/
def savesState (s : BackupService) : Bool := s.scan.any (·.savesState)

/-- The rules of a backup, in order: exactly one kind, then each group. -/
def check (s : BackupService) : Check := do
  refuseIf (s.scan.isSome = s.changeFeed.isSome) .backupMode
  s.infrastructure.cluster.check
  checkOption Scan.check s.scan
  checkOption ChangeFeed.check s.changeFeed
  s.infrastructure.checkRest .backup

/-! ## Jobs -/

/-- How many bytes a file may have; a single output file has no limit. -/
def fileLimit (g : Scan Settled) : UInt64 := if g.outputFile = "" then bytesOfMiB g.fileLimit else 0

/-- How many writers run: as many as readers, but a single output file has one. -/
def writers (g : Scan Settled) : UInt64 := if g.outputFile = "" then g.transfer.parallel else 1

/-- The state file of a scan: the one to save to goes before the one to resume from. -/
def stateFile? (g : Scan Settled) : Option String :=
  if g.stateFileDst ≠ "" then some (joinPath g.transfer.directory g.stateFileDst)
  else if g.continueFrom ≠ "" then some (joinPath g.transfer.directory g.continueFrom)
  else none

/-- What the engine does in a scan.  The literals among the options are read here, in order. -/
def scanConfig (m : Machine) (i : Infrastructure) (g : Scan Settled) : Result ScanConfig := do
  let literal {α : Type} (r : Except LiteralFault α) : Result α := r.mapError .literal
  let racks ← literal g.racks
  let partitionFilters ← g.partitionFilters
  let scanPolicy ← literal g.scanPolicy
  let before ← (literal (m.readTime? g.modifiedBefore)).during .readingModifiedBefore
  let after ← (literal (m.readTime? g.modifiedAfter)).during .readingModifiedAfter
  return {
    nameSpace := g.transfer.nameSpace
    setList := splitCommas g.transfer.setList
    binList := splitCommas g.transfer.binList
    nodeList := g.nodes
    rackList := racks
    partitionFilters := partitionFilters
    scanPolicy := scanPolicy
    infoPolicy := g.transfer.infoPolicy
    infoRetryPolicy := g.transfer.infoRetryPolicy
    compressionPolicy := i.compression.policy?
    encryptionPolicy := i.encryption.policy?
    agent := i.secretAgent.config?
    modifiedBefore := before
    modifiedAfter := after
    parallelRead := g.transfer.parallel
    parallelWrite := writers g
    recordsPerSecond := g.transfer.recordsPerSecond
    bandwidth := bytesOfMiB g.transfer.bandwidth
    fileLimit := fileLimit g
    noRecords := g.transfer.noRecords
    noIndexes := g.transfer.noIndexes
    noUdfs := g.transfer.noUdfs
    compact := g.compact
    noTtlOnly := g.noTtlOnly
    outputFilePrefix := g.outputFilePrefix
    stateFile := stateFile? g
    isContinued := g.continueFrom != ""
    pageSize := if (stateFile? g).isSome then g.scanPageSize else 0
    metricsEnabled := true }

/-- What the engine does along the change feed.  No writers means one for each processor. -/
def feedConfig (m : Machine) (i : Infrastructure) (g : ChangeFeed Settled) : FeedConfig where
  nameSpace := g.nameSpace
  dc := g.dc
  localAddress := g.localAddress
  localPort := g.localPort
  rewind := g.rewind
  compressionPolicy := i.compression.policy?
  encryptionPolicy := i.encryption.policy?
  agent := i.secretAgent.config?
  infoPolicy := g.infoPolicy
  infoRetryPolicy := g.infoRetryPolicy
  fileLimit := bytesOfMiB g.fileLimit
  parallelWrite := if g.parallelWrite = 0 then m.processors else g.parallelWrite.toNat
  maxThroughput := g.maxThroughput
  readTimeout := .ofMillis g.readTimeout
  writeTimeout := .ofMillis g.writeTimeout
  infoPollingPeriod := .ofMillis g.infoPollingPeriod
  startTimeout := .ofMillis g.startTimeout
  resultsQueueSize := g.resultsQueueSize
  ackQueueSize := g.ackQueueSize
  maxConnections := g.maxConnections
  forward := g.forward
  metricsEnabled := true

/-- What the engine does.  Beside a change feed a scan backs up what is no record. -/
def configs (m : Machine) (s : BackupService) : Result (ScanConfig × Option FeedConfig) :=
  match s.scan, s.changeFeed with
  | some g, _ =>
    ((scanConfig m s.infrastructure g).during .mappingBackup).map fun c => (c, none)
  | none, some g =>
    let feed := feedConfig m s.infrastructure g
    .ok ({ nameSpace := feed.nameSpace, noRecords := true }, some feed)
  | none, none => .error (.violation .backupMode)

/-- The job of a backup. -/
def job (m : Machine) (s : BackupService) : Result BackupJob := do
  let (scan, changeFeed) ← s.configs m
  let directory := match s.scan, s.changeFeed with
    | some g, _ => g.transfer.directory
    | none, some g => g.directory
    | none, none => ""
  return {
    cluster := s.infrastructure.cluster.config
    scan := scan
    changeFeed := changeFeed
    storage := s.infrastructure.stores.target
    directory := directory
    outputFile := (s.scan.map (·.outputFile)).getD ""
    estimate := s.scan.any (·.estimate)
    estimateSamples := (s.scan.map (·.estimateSamples)).getD 0
    removeArtifacts := s.scan.any (·.removeArtifacts)
    isChangeFeed := s.isChangeFeed
    isContinued := s.isContinued
    isStopXdr := s.isStopXdr
    isUnblockMrt := s.isUnblockMrt
    skipsWriterSetup := s.skipsWriterSetup
    writesToOutput := s.writesToOutput
    clearsTarget := s.clearsTarget
    savesState := s.savesState }

end BackupService

end BackupControl
