/-
# Rules of storage

Files of this machine are always checked.  A cloud store counts only when one of the options
that identify it is set, and at most one may count.  A backup and a restore look at different
options of a store.
-/
import BackupControl.Operation
import BackupControl.Options.Storage
import BackupControl.Rules.Violation

namespace BackupControl

/-- The value of an option is not below zero. -/
def notNegative (option : String) (n : Int64) : Check := refuseIf (n < 0) (.negative option)

/-- The value of an option is at least one. -/
def atLeastOne (option : String) (n : Int64) : Check := refuseIf (n < 1) (.tooSmall option 1)

/-- What every cloud store must meet.  A factor that is no number passes. -/
def CloudTuning.check (op : Operation) (g : CloudTuning Settled) : Check := do
  notNegative "max connections per host" g.maxConnsPerHost
  notNegative "request timeout" g.requestTimeout
  if op = .restore then
    notNegative "retry read backoff" g.retryReadBackoff
    refuseIf (g.retryReadMultiplier < (1 : Binary64)) (.tooSmall "retry read multiplier" 1)

/-- The buffer is not negative. -/
def LocalFiles.check (g : LocalFiles Settled) : Check :=
  notNegative "local buffer size" g.bufferSize

namespace AwsS3

/-- Some option that identifies the store is set. -/
def isConfigured (g : AwsS3 Settled) : Bool :=
  [g.bucketName, g.region, g.profile, g.endpoint].any (· != "")

/-- What the store must meet. -/
def check (op : Operation) (g : AwsS3 Settled) : Check := do
  refuseIf (g.bucketName = "") (.required "bucket name")
  notNegative "retry maximum attempts" g.retryMaxAttempts
  notNegative "retry max backoff" g.retryMaxBackoff
  notNegative "retry backoff" g.retryBackoff
  match op with
  | .backup =>
    atLeastOne "chunk size" g.chunkSize
    atLeastOne "upload concurrency" g.uploadConcurrency
  | .restore => atLeastOne "rehydrate poll duration" g.restorePollDuration
  g.tuning.check op

end AwsS3

namespace GcpStorage

/-- Some option that identifies the store is set. -/
def isConfigured (g : GcpStorage Settled) : Bool :=
  [g.bucketName, g.keyFile, g.endpoint].any (· != "")

/-- What the store must meet. -/
def check (op : Operation) (g : GcpStorage Settled) : Check := do
  refuseIf (g.bucketName = "") (.required "bucket name")
  notNegative "retry maximum attempts" g.retryMaxAttempts
  notNegative "retry backoff" g.retryBackoff
  notNegative "retry backoff max" g.retryBackoffMax
  if op = .backup then
    atLeastOne "chunk size" g.chunkSize
    atLeastOne "upload concurrency" g.uploadConcurrency
  g.tuning.check op

end GcpStorage

namespace AzureBlob

/-- Some option that identifies the store is set. -/
def isConfigured (g : AzureBlob Settled) : Bool :=
  [g.containerName, g.accountName, g.accountKey, g.endpoint, g.tenantId, g.clientId,
    g.clientSecret].any (· != "")

/-- What the store must meet. -/
def check (op : Operation) (g : AzureBlob Settled) : Check := do
  refuseIf (g.containerName = "") (.required "container name")
  notNegative "retry maximum attempts" g.retryMaxAttempts
  notNegative "retry delay" g.retryDelay
  notNegative "retry max delay" g.retryMaxDelay
  match op with
  | .backup =>
    atLeastOne "block size" g.blockSize
    atLeastOne "upload concurrency" g.uploadConcurrency
  | .restore => atLeastOne "restore poll duration" g.restorePollDuration
  g.tuning.check op

end AzureBlob

/-! ## The stores together -/

/-- The storage groups of a run, each of which may be absent. -/
structure Stores where
  awsS3 : Option (AwsS3 Settled) := none
  gcpStorage : Option (GcpStorage Settled) := none
  azureBlob : Option (AzureBlob Settled) := none
  localFiles : Option (LocalFiles Settled) := none

/-- The store that a run writes to or reads from. -/
inductive Target where
  | localFiles (g : LocalFiles Settled)
  | awsS3 (g : AwsS3 Settled)
  | gcpStorage (g : GcpStorage Settled)
  | azureBlob (g : AzureBlob Settled)

namespace Stores

/-- The S3 store, if it is configured. -/
def configuredAwsS3 (s : Stores) : Option (AwsS3 Settled) := s.awsS3.filter (·.isConfigured)

/-- The GCP store, if it is configured. -/
def configuredGcpStorage (s : Stores) : Option (GcpStorage Settled) :=
  s.gcpStorage.filter (·.isConfigured)

/-- The Azure store, if it is configured. -/
def configuredAzureBlob (s : Stores) : Option (AzureBlob Settled) :=
  s.azureBlob.filter (·.isConfigured)

/-- How many cloud stores are configured. -/
def configuredCount (s : Stores) : Nat :=
  s.configuredAwsS3.toList.length + s.configuredGcpStorage.toList.length +
    s.configuredAzureBlob.toList.length

/-- Checks a store under the name of its provider; an absent one passes. -/
def checkStore {α : Type} (provider : String) (check : α → Check) (store : Option α) : Check :=
  (checkOption check store).mapError (.storage provider)

/-- Every store that counts meets its rules, and at most one cloud store counts. -/
def check (op : Operation) (s : Stores) : Check := do
  checkStore "local storage" LocalFiles.check s.localFiles
  checkStore "aws s3" (AwsS3.check op) s.configuredAwsS3
  checkStore "gcp storage" (GcpStorage.check op) s.configuredGcpStorage
  checkStore "azure blob" (AzureBlob.check op) s.configuredAzureBlob
  refuseIf (1 < s.configuredCount) .multipleCloudProviders

/-- The configured cloud store, or the files of this machine when there is none. -/
def target (s : Stores) : Target :=
  match s.configuredAwsS3 with
  | some g => .awsS3 g
  | none =>
    match s.configuredGcpStorage with
    | some g => .gcpStorage g
    | none =>
      match s.configuredAzureBlob with
      | some g => .azureBlob g
      | none => .localFiles (s.localFiles.getD OptionGroup.blank)

end Stores

end BackupControl
