/-
# Secrets

An option that may hold a credential may hold a reference to a secret instead.  References are
replaced in one pass, in order; the first that cannot be replaced ends the pass, and what the
agent answers is not looked at again.
-/
import BackupControl.Service.Infrastructure

namespace BackupControl

/-- What a reference to a secret begins with. -/
def secretMark : String := "secrets:"

/-- The value is a reference to a secret. -/
def isSecretReference (value : String) : Bool := value.startsWith secretMark

/-- Asks an agent for the secret behind a reference. -/
abbrev SecretResolver : Type := AgentConfig → String → Result String

/-! ## One pass -/

/-- What a pass leaves behind: the values after it, the references that were looked up, and the
failure that ended it, if any. -/
structure Resolution where
  values : List String
  lookups : List String
  failure : Option Failure

namespace Resolution

/-- The resolution with one more value before the others. -/
def keeping (value : String) (r : Resolution) : Resolution := { r with values := value :: r.values }

/-- The resolution with one more lookup before the others. -/
def after (reference answer : String) (r : Resolution) : Resolution :=
  { r with values := answer :: r.values, lookups := reference :: r.lookups }

end Resolution

/-- Replaces the references among named values. -/
def resolveSecrets (agent : Option AgentConfig) (resolver : SecretResolver) :
    List (String × String) → Resolution
  | [] => ⟨[], [], none⟩
  | (name, value) :: rest =>
    if isSecretReference value then
      match agent with
      | none =>
        ⟨value :: rest.map (·.2), [], some (.during (.resolving name) .noSecretAgent)⟩
      | some a =>
        match resolver a value with
        | .ok answer => (resolveSecrets agent resolver rest).after value answer
        | .error cause =>
          ⟨value :: rest.map (·.2), [value], some (.during (.resolving name) cause)⟩
    else (resolveSecrets agent resolver rest).keeping value

/-! ## Options that may hold a secret -/

/-- An option that may hold a secret, under the name of its flag. -/
structure SecretField (α : Type) where
  name : String
  get : α → String
  put : String → α → α

namespace SecretField

/-- The same option seen as one of a whole that contains its group. -/
def within {α β : Type} (inner : β → α) (update : α → β → β) (f : SecretField α) :
    SecretField β where
  name := f.name
  get b := f.get (inner b)
  put v b := update (f.put v (inner b)) b

/-- The names and values of a list of options. -/
def read {α : Type} (fields : List (SecretField α)) (a : α) : List (String × String) :=
  fields.map fun f => (f.name, f.get a)

/-- The options with new values, one for each. -/
def write {α : Type} (fields : List (SecretField α)) (values : List String) (a : α) : α :=
  (fields.zip values).foldl (fun a (f, v) => f.put v a) a

end SecretField

/-- The options of the cluster that may hold a secret. -/
def Cluster.secretFields : List (SecretField (Cluster Settled)) := [
  ⟨"host", (·.host), fun v g => { g with host := v }⟩,
  ⟨"user", (·.user), fun v g => { g with user := v }⟩,
  ⟨"password", (·.password), fun v g => { g with password := v }⟩,
  ⟨"tls-name", (·.tlsName), fun v g => { g with tlsName := v }⟩,
  ⟨"tls-cafile", (·.tlsCaFile), fun v g => { g with tlsCaFile := v }⟩,
  ⟨"tls-certfile", (·.tlsCertFile), fun v g => { g with tlsCertFile := v }⟩,
  ⟨"tls-keyfile", (·.tlsKeyFile), fun v g => { g with tlsKeyFile := v }⟩,
  ⟨"tls-keyfile-password", (·.tlsKeyFilePassword),
    fun v g => { g with tlsKeyFilePassword := v }⟩,
  ⟨"tls-protocols", (·.tlsProtocols), fun v g => { g with tlsProtocols := v }⟩]

/-- The options of encryption that may hold a secret.  The key that is itself a secret is
looked up by the engine. -/
def Encryption.secretFields : List (SecretField (Encryption Settled)) := [
  ⟨"encryption-key-file", (·.keyFile), fun v g => { g with keyFile := v }⟩,
  ⟨"encryption-key-env", (·.keyEnv), fun v g => { g with keyEnv := v }⟩]

/-- The options of an S3 store that may hold a secret. -/
def AwsS3.secretFields : List (SecretField (AwsS3 Settled)) := [
  ⟨"s3-bucket-name", (·.bucketName), fun v g => { g with bucketName := v }⟩,
  ⟨"s3-region", (·.region), fun v g => { g with region := v }⟩,
  ⟨"s3-profile", (·.profile), fun v g => { g with profile := v }⟩,
  ⟨"s3-endpoint-override", (·.endpoint), fun v g => { g with endpoint := v }⟩,
  ⟨"s3-access-key-id", (·.accessKeyId), fun v g => { g with accessKeyId := v }⟩,
  ⟨"s3-secret-access-key", (·.secretAccessKey), fun v g => { g with secretAccessKey := v }⟩,
  ⟨"s3-storage-class", (·.storageClass), fun v g => { g with storageClass := v }⟩,
  ⟨"s3-access-tier", (·.accessTier), fun v g => { g with accessTier := v }⟩]

/-- The options of a GCP store that may hold a secret. -/
def GcpStorage.secretFields : List (SecretField (GcpStorage Settled)) := [
  ⟨"gcp-key-path", (·.keyFile), fun v g => { g with keyFile := v }⟩,
  ⟨"gcp-bucket-name", (·.bucketName), fun v g => { g with bucketName := v }⟩,
  ⟨"gcp-endpoint-override", (·.endpoint), fun v g => { g with endpoint := v }⟩]

/-- The options of an Azure store that may hold a secret. -/
def AzureBlob.secretFields : List (SecretField (AzureBlob Settled)) := [
  ⟨"azure-account-name", (·.accountName), fun v g => { g with accountName := v }⟩,
  ⟨"azure-account-key", (·.accountKey), fun v g => { g with accountKey := v }⟩,
  ⟨"azure-tenant-id", (·.tenantId), fun v g => { g with tenantId := v }⟩,
  ⟨"azure-client-id", (·.clientId), fun v g => { g with clientId := v }⟩,
  ⟨"azure-client-secret", (·.clientSecret), fun v g => { g with clientSecret := v }⟩,
  ⟨"azure-endpoint", (·.endpoint), fun v g => { g with endpoint := v }⟩,
  ⟨"azure-container-name", (·.containerName), fun v g => { g with containerName := v }⟩,
  ⟨"azure-access-tier", (·.accessTier), fun v g => { g with accessTier := v }⟩]

namespace Infrastructure

/-- The options of a run that may hold a secret, in the order in which they are resolved. -/
def secretFields : List (SecretField Infrastructure) :=
  Cluster.secretFields.map (.within (·.cluster) fun g i => { i with cluster := g }) ++
  Encryption.secretFields.map (.within (·.encryption) fun g i => { i with encryption := g }) ++
  AwsS3.secretFields.map (.within (·.awsS3) fun g i => { i with awsS3 := g }) ++
  GcpStorage.secretFields.map (.within (·.gcpStorage) fun g i => { i with gcpStorage := g }) ++
  AzureBlob.secretFields.map (.within (·.azureBlob) fun g i => { i with azureBlob := g })

/-- The pass over the options that may hold a secret. -/
def resolution (resolver : SecretResolver) (i : Infrastructure) : Resolution :=
  resolveSecrets i.secretAgent.config? resolver (SecretField.read secretFields i)

/-- The infrastructure with its references replaced. -/
def resolve (resolver : SecretResolver) (i : Infrastructure) : Result Infrastructure :=
  let r := i.resolution resolver
  match r.failure with
  | some failure => .error failure
  | none => .ok (SecretField.write secretFields r.values i)

end Infrastructure

end BackupControl
