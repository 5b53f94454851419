/-
# Restore services

A restore before it becomes a job: its options and the infrastructure.
-/
import BackupControl.Rules.Restore
import BackupControl.Service.Infrastructure

namespace BackupControl

/-- A restore with a value for every option. -/
structure RestoreService where
  infrastructure : Infrastructure
  restore : Restore Settled

namespace RestoreService

/-- The service of a layer; the sections of a backup are ignored. -/
def ofLayer (defaults : Defaults) (l : Layer) : RestoreService where
  infrastructure := Infrastructure.ofLayer defaults l
  restore := settleSection l.restore defaults.restore

/-- The rules of a restore, in order. -/
def check (s : RestoreService) : Check := do
  s.infrastructure.cluster.check
  s.restore.check
  s.infrastructure.checkRest .restore

/-- A number with a sign as a count. -/
def countOf (n : Int64) : Result UInt64 :=
  if n < 0 then .error .negativeCount else .ok (UInt64.ofNat n.toInt.toNat)

/-- What the engine does in a restore. -/
def config (s : RestoreService) : Result RestoreConfig := do
  let g := s.restore
  let i := s.infrastructure
  let warmUp ← (countOf g.warmUp).during .mappingWarmUp
  return {
    nameSpace := g.namespaces?
    source := g.source?
    mode := g.format
    setList := splitCommas g.transfer.setList
    binList := splitCommas g.transfer.binList
    writePolicy := g.writePolicy
    infoPolicy := g.transfer.infoPolicy
    infoRetryPolicy := g.transfer.infoRetryPolicy
    writeRetryPolicy := g.writeRetryPolicy
    compressionPolicy := i.compression.policy?
    encryptionPolicy := i.encryption.policy?
    agent := i.secretAgent.config?
    parallel := g.transfer.parallel
    recordsPerSecond := g.transfer.recordsPerSecond
    bandwidth := bytesOfMiB g.transfer.bandwidth
    extraTtl := g.extraTtl
    noRecords := g.transfer.noRecords
    noIndexes := g.transfer.noIndexes
    noUdfs := g.transfer.noUdfs
    disableBatchWrites := g.disableBatchWrites
    batchSize := g.batchSize
    maxAsyncBatches := g.maxAsyncBatches
    warmUp := warmUp
    ignoreRecordErrors := g.ignoreRecordError
    validateOnly := g.validateOnly
    applyMetadataLast := g.applyMetadataLast
    metricsEnabled := true }

/-- The job of a restore. -/
def job (s : RestoreService) : Result RestoreJob := do
  let restore ← s.config
  return {
    cluster := s.infrastructure.cluster.config
    restore := restore
    storage := s.infrastructure.stores.target
    isDirectoryRestore := s.restore.isDirectoryRestore }

end RestoreService

end BackupControl
