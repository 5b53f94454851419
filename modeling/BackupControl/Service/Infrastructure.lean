/-
# Infrastructure

What a backup and a restore use alike: the cluster, the protection of files, the secret agent
and the stores, with a value for every option.
-/
import BackupControl.Job.Policies
import BackupControl.Options.Defaults

namespace BackupControl

/-- The settled groups that every run uses. -/
structure Infrastructure where
  cluster : Cluster Settled
  compression : Compression Settled
  encryption : Encryption Settled
  secretAgent : SecretAgent Settled
  awsS3 : AwsS3 Settled
  gcpStorage : GcpStorage Settled
  azureBlob : AzureBlob Settled
  localFiles : LocalFiles Settled

namespace Infrastructure

/-- What a layer sets, over built-in values. -/
def ofLayer (defaults : Defaults) (l : Layer) : Infrastructure where
  cluster := settleSection l.cluster defaults.cluster
  compression := settleSection l.compression defaults.compression
  encryption := settleSection l.encryption defaults.encryption
  secretAgent := settleSection l.secretAgent defaults.secretAgent
  awsS3 := settleSection l.awsS3 defaults.awsS3
  gcpStorage := settleSection l.gcpStorage defaults.gcpStorage
  azureBlob := settleSection l.azureBlob defaults.azureBlob
  localFiles := settleSection l.localFiles defaults.localFiles

/-- The storage groups, all of them present. -/
def stores (i : Infrastructure) : Stores where
  awsS3 := some i.awsS3
  gcpStorage := some i.gcpStorage
  azureBlob := some i.azureBlob
  localFiles := some i.localFiles

/-- The rules that follow those of the operation itself. -/
def checkRest (op : Operation) (i : Infrastructure) : Check := do
  i.compression.check
  i.encryption.check
  i.secretAgent.check
  i.stores.check op

end Infrastructure

end BackupControl
