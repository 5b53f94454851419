/-
# Storage options

The places that backup files are kept in: three kinds of cloud store, which share a group of
options, and the files of this machine.  A flag of a cloud store begins with the name of the
store.  What tunes uploads has a flag on the command line of a backup only, what tunes
downloads on that of a restore only.
-/
import BackupControl.Options.Group

namespace BackupControl

/-- Options of every cloud store. -/
structure CloudTuning (F : Type → Type) where
  /-- How many connections may be open to one host. -/
  maxConnsPerHost : F Int64
  /-- Milliseconds that a request may take. -/
  requestTimeout : F Int64
  /-- Send a checksum with every upload. -/
  calculateChecksum : F Bool
  /-- Milliseconds before the first retry of a read. -/
  retryReadBackoff : F Int64
  /-- The factor between the pauses of retries of a read. -/
  retryReadMultiplier : F Binary64
  /-- How often a read is tried. -/
  retryReadMaxAttempts : F UInt32

/-- The options of the group, in the order in which a refusal lists them. -/
def CloudTuning.settings : List (Setting CloudTuning) := [
  { key := "max-conns-per-host", kind := .int64, get := (·.maxConnsPerHost),
    put := fun v g => { g with maxConnsPerHost := v } },
  { key := "request-timeout", kind := .int64, get := (·.requestTimeout),
    put := fun v g => { g with requestTimeout := v } },
  { key := "calculate-checksum", kind := .switch, get := (·.calculateChecksum),
    put := fun v g => { g with calculateChecksum := v } },
  { key := "retry-read-backoff", kind := .int64, get := (·.retryReadBackoff),
    put := fun v g => { g with retryReadBackoff := v },
    flag := some ⟨"retry-read-backoff", none, .restore⟩ },
  { key := "retry-read-multiplier", kind := .real, get := (·.retryReadMultiplier),
    put := fun v g => { g with retryReadMultiplier := v },
    flag := some ⟨"retry-read-multiplier", none, .restore⟩ },
  { key := "retry-read-max-attempts", kind := .word32, get := (·.retryReadMaxAttempts),
    put := fun v g => { g with retryReadMaxAttempts := v },
    flag := some ⟨"retry-read-max-attempts", none, .restore⟩ }]

instance : OptionGroup CloudTuning where
  fill f :=
    { maxConnsPerHost := f .int64
      requestTimeout := f .int64
      calculateChecksum := f .switch
      retryReadBackoff := f .int64
      retryReadMultiplier := f .real
      retryReadMaxAttempts := f .word32 }
  zipWith f a b :=
    { maxConnsPerHost := f .int64 a.maxConnsPerHost b.maxConnsPerHost
      requestTimeout := f .int64 a.requestTimeout b.requestTimeout
      calculateChecksum := f .switch a.calculateChecksum b.calculateChecksum
      retryReadBackoff := f .int64 a.retryReadBackoff b.retryReadBackoff
      retryReadMultiplier := f .real a.retryReadMultiplier b.retryReadMultiplier
      retryReadMaxAttempts := f .word32 a.retryReadMaxAttempts b.retryReadMaxAttempts }
  settings := CloudTuning.settings

/-- A store of the S3 kind. -/
structure AwsS3 (F : Type → Type) where
  /-- The bucket. -/
  bucketName : F String
  /-- The region of the bucket. -/
  region : F String
  /-- The profile that holds credentials. -/
  profile : F String
  /-- The endpoint to use instead of the usual one. -/
  endpoint : F String
  /-- The name of the access key. -/
  accessKeyId : F String
  /-- The access key. -/
  secretAccessKey : F String
  /-- The class of written objects. -/
  storageClass : F String
  /-- The tier that archived objects are brought back to. -/
  accessTier : F String
  /-- How often a request is tried. -/
  retryMaxAttempts : F Int64
  /-- Milliseconds that a pause lasts at most. -/
  retryMaxBackoff : F Int64
  /-- Milliseconds before the first retry. -/
  retryBackoff : F Int64
  /-- MiB of one part of an upload. -/
  chunkSize : F Int64
  /-- How many parts are sent at once. -/
  uploadConcurrency : F Int64
  /-- Milliseconds between looks at an object being brought back. -/
  restorePollDuration : F Int64
  /-- The options of every cloud store. -/
  tuning : CloudTuning F

/-- The options of the group, in the order in which a refusal lists them. -/
def AwsS3.settings : List (Setting AwsS3) :=
  [
  { key := "bucket-name", kind := .text, get := (·.bucketName),
    put := fun v g => { g with bucketName := v },
    flag := some ⟨"s3-bucket-name", none, .both⟩ },
  { key := "region", kind := .text, get := (·.region), put := fun v g => { g with region := v },
    flag := some ⟨"s3-region", none, .both⟩ },
  { key := "profile", kind := .text, get := (·.profile), put := fun v g => { g with profile := v },
    flag := some ⟨"s3-profile", none, .both⟩ },
  { key := "endpoint-override", kind := .text, get := (·.endpoint),
    put := fun v g => { g with endpoint := v },
    flag := some ⟨"s3-endpoint-override", none, .both⟩ },
  { key := "access-key-id", kind := .text, get := (·.accessKeyId),
    put := fun v g => { g with accessKeyId := v },
    flag := some ⟨"s3-access-key-id", none, .both⟩ },
  { key := "secret-access-key", kind := .text, get := (·.secretAccessKey),
    put := fun v g => { g with secretAccessKey := v },
    flag := some ⟨"s3-secret-access-key", none, .both⟩ },
  { key := "storage-class", kind := .text, get := (·.storageClass),
    put := fun v g => { g with storageClass := v },
    flag := some ⟨"s3-storage-class", none, .backup⟩ },
  { key := "access-tier", kind := .text, get := (·.accessTier),
    put := fun v g => { g with accessTier := v },
    flag := some ⟨"s3-access-tier", none, .restore⟩ },
  { key := "retry-max-attempts", kind := .int64, get := (·.retryMaxAttempts),
    put := fun v g => { g with retryMaxAttempts := v },
    flag := some ⟨"s3-retry-max-attempts", none, .both⟩ },
  { key := "retry-max-backoff", kind := .int64, get := (·.retryMaxBackoff),
    put := fun v g => { g with retryMaxBackoff := v },
    flag := some ⟨"s3-retry-max-backoff", none, .both⟩ },
  { key := "retry-backoff", kind := .int64, get := (·.retryBackoff),
    put := fun v g => { g with retryBackoff := v },
    flag := some ⟨"s3-retry-backoff", none, .both⟩ },
  { key := "chunk-size", kind := .int64, get := (·.chunkSize),
    put := fun v g => { g with chunkSize := v },
    flag := some ⟨"s3-chunk-size", none, .backup⟩ },
  { key := "upload-concurrency", kind := .int64, get := (·.uploadConcurrency),
    put := fun v g => { g with uploadConcurrency := v },
    flag := some ⟨"s3-upload-concurrency", none, .backup⟩ },
  { key := "restore-poll-duration", kind := .int64, get := (·.restorePollDuration),
    put := fun v g => { g with restorePollDuration := v },
    flag := some ⟨"s3-restore-poll-duration", none, .restore⟩ }] ++
  (CloudTuning.settings.map fun s =>
    (s.within (·.tuning) fun c g => { g with tuning := c }).underFlag "s3-")

instance : OptionGroup AwsS3 where
  fill f :=
    { bucketName := f .text
      region := f .text
      profile := f .text
      endpoint := f .text
      accessKeyId := f .text
      secretAccessKey := f .text
      storageClass := f .text
      accessTier := f .text
      retryMaxAttempts := f .int64
      retryMaxBackoff := f .int64
      retryBackoff := f .int64
      chunkSize := f .int64
      uploadConcurrency := f .int64
      restorePollDuration := f .int64
      tuning := OptionGroup.fill f }
  zipWith f a b :=
    { bucketName := f .text a.bucketName b.bucketName
      region := f .text a.region b.region
      profile := f .text a.profile b.profile
      endpoint := f .text a.endpoint b.endpoint
      accessKeyId := f .text a.accessKeyId b.accessKeyId
      secretAccessKey := f .text a.secretAccessKey b.secretAccessKey
      storageClass := f .text a.storageClass b.storageClass
      accessTier := f .text a.accessTier b.accessTier
      retryMaxAttempts := f .int64 a.retryMaxAttempts b.retryMaxAttempts
      retryMaxBackoff := f .int64 a.retryMaxBackoff b.retryMaxBackoff
      retryBackoff := f .int64 a.retryBackoff b.retryBackoff
      chunkSize := f .int64 a.chunkSize b.chunkSize
      uploadConcurrency := f .int64 a.uploadConcurrency b.uploadConcurrency
      restorePollDuration := f .int64 a.restorePollDuration b.restorePollDuration
      tuning := OptionGroup.zipWith f a.tuning b.tuning }
  settings := AwsS3.settings

/-- A GCP store. -/
structure GcpStorage (F : Type → Type) where
  /-- The key file of the service account. -/
  keyFile : F String
  /-- The bucket. -/
  bucketName : F String
  /-- The endpoint to use instead of the usual one. -/
  endpoint : F String
  /-- How often a request is tried. -/
  retryMaxAttempts : F Int64
  /-- Milliseconds before the first retry. -/
  retryBackoff : F Int64
  /-- Milliseconds that a pause lasts at most. -/
  retryBackoffMax : F Int64
  /-- The factor between pauses. -/
  retryBackoffMultiplier : F Binary64
  /-- MiB of one part of an upload. -/
  chunkSize : F Int64
  /-- How many parts are sent at once. -/
  uploadConcurrency : F Int64
  /-- The options of every cloud store. -/
  tuning : CloudTuning F

/-- The options of the group, in the order in which a refusal lists them. -/
def GcpStorage.settings : List (Setting GcpStorage) :=
  [
  { key := "key-file", kind := .text, get := (·.keyFile),
    put := fun v g => { g with keyFile := v },
    flag := some ⟨"gcp-key-path", none, .both⟩ },
  { key := "bucket-name", kind := .text, get := (·.bucketName),
    put := fun v g => { g with bucketName := v },
    flag := some ⟨"gcp-bucket-name", none, .both⟩ },
  { key := "endpoint-override", kind := .text, get := (·.endpoint),
    put := fun v g => { g with endpoint := v },
    flag := some ⟨"gcp-endpoint-override", none, .both⟩ },
  { key := "retry-max-attempts", kind := .int64, get := (·.retryMaxAttempts),
    put := fun v g => { g with retryMaxAttempts := v },
    flag := some ⟨"gcp-retry-max-attempts", none, .both⟩ },
  { key := "retry-init-backoff", kind := .int64, get := (·.retryBackoff),
    put := fun v g => { g with retryBackoff := v },
    flag := some ⟨"gcp-retry-init-backoff", none, .both⟩ },
  { key := "retry-max-backoff", kind := .int64, get := (·.retryBackoffMax),
    put := fun v g => { g with retryBackoffMax := v },
    flag := some ⟨"gcp-retry-max-backoff", none, .both⟩ },
  { key := "retry-backoff-multiplier", kind := .real, get := (·.retryBackoffMultiplier),
    put := fun v g => { g with retryBackoffMultiplier := v },
    flag := some ⟨"gcp-retry-backoff-multiplier", none, .both⟩ },
  { key := "chunk-size", kind := .int64, get := (·.chunkSize),
    put := fun v g => { g with chunkSize := v },
    flag := some ⟨"gcp-chunk-size", none, .backup⟩ },
  { key := "upload-concurrency", kind := .int64, get := (·.uploadConcurrency),
    put := fun v g => { g with uploadConcurrency := v },
    flag := some ⟨"gcp-upload-concurrency", none, .backup⟩ }] ++
  (CloudTuning.settings.map fun s =>
    (s.within (·.tuning) fun c g => { g with tuning := c }).underFlag "gcp-")

instance : OptionGroup GcpStorage where
  fill f :=
    { keyFile := f .text
      bucketName := f .text
      endpoint := f .text
      retryMaxAttempts := f .int64
      retryBackoff := f .int64
      retryBackoffMax := f .int64
      retryBackoffMultiplier := f .real
      chunkSize := f .int64
      uploadConcurrency := f .int64
      tuning := OptionGroup.fill f }
  zipWith f a b :=
    { keyFile := f .text a.keyFile b.keyFile
      bucketName := f .text a.bucketName b.bucketName
      endpoint := f .text a.endpoint b.endpoint
      retryMaxAttempts := f .int64 a.retryMaxAttempts b.retryMaxAttempts
      retryBackoff := f .int64 a.retryBackoff b.retryBackoff
      retryBackoffMax := f .int64 a.retryBackoffMax b.retryBackoffMax
      retryBackoffMultiplier := f .real a.retryBackoffMultiplier b.retryBackoffMultiplier
      chunkSize := f .int64 a.chunkSize b.chunkSize
      uploadConcurrency := f .int64 a.uploadConcurrency b.uploadConcurrency
      tuning := OptionGroup.zipWith f a.tuning b.tuning }
  settings := GcpStorage.settings

/-- A store of the Azure kind. -/
structure AzureBlob (F : Type → Type) where
  /-- The account. -/
  accountName : F String
  /-- The key of the account. -/
  accountKey : F String
  /-- The tenant of the application. -/
  tenantId : F String
  /-- The application. -/
  clientId : F String
  /-- The secret of the application. -/
  clientSecret : F String
  /-- The endpoint to use instead of the usual one. -/
  endpoint : F String
  /-- The container. -/
  containerName : F String
  /-- The tier of written objects, or the one that archived objects are brought back to. -/
  accessTier : F String
  /-- Milliseconds between looks at an object being brought back. -/
  restorePollDuration : F Int64
  /-- How often a request is tried. -/
  retryMaxAttempts : F Int64
  /-- Seconds before the first retry. -/
  retryDelay : F Int64
  /-- Seconds that a pause lasts at most. -/
  retryMaxDelay : F Int64
  /-- MiB of one block of an upload. -/
  blockSize : F Int64
  /-- How many blocks are sent at once. -/
  uploadConcurrency : F Int64
  /-- The options of every cloud store. -/
  tuning : CloudTuning F

/-- The options of the group, in the order in which a refusal lists them. -/
def AzureBlob.settings : List (Setting AzureBlob) :=
  [
  { key := "account-name", kind := .text, get := (·.accountName),
    put := fun v g => { g with accountName := v },
    flag := some ⟨"azure-account-name", none, .both⟩ },
  { key := "account-key", kind := .text, get := (·.accountKey),
    put := fun v g => { g with accountKey := v },
    flag := some ⟨"azure-account-key", none, .both⟩ },
  { key := "tenant-id", kind := .text, get := (·.tenantId),
    put := fun v g => { g with tenantId := v },
    flag := some ⟨"azure-tenant-id", none, .both⟩ },
  { key := "client-id", kind := .text, get := (·.clientId),
    put := fun v g => { g with clientId := v },
    flag := some ⟨"azure-client-id", none, .both⟩ },
  { key := "client-secret", kind := .text, get := (·.clientSecret),
    put := fun v g => { g with clientSecret := v },
    flag := some ⟨"azure-client-secret", none, .both⟩ },
  { key := "endpoint-override", kind := .text, get := (·.endpoint),
    put := fun v g => { g with endpoint := v },
    flag := some ⟨"azure-endpoint", none, .both⟩ },
  { key := "container-name", kind := .text, get := (·.containerName),
    put := fun v g => { g with containerName := v },
    flag := some ⟨"azure-container-name", none, .both⟩ },
  { key := "access-tier", kind := .text, get := (·.accessTier),
    put := fun v g => { g with accessTier := v },
    flag := some ⟨"azure-access-tier", none, .both⟩ },
  { key := "rehydrate-poll-duration", kind := .int64, get := (·.restorePollDuration),
    put := fun v g => { g with restorePollDuration := v },
    flag := some ⟨"azure-rehydrate-poll-duration", none, .restore⟩ },
  { key := "retry-max-attempts", kind := .int64, get := (·.retryMaxAttempts),
    put := fun v g => { g with retryMaxAttempts := v },
    flag := some ⟨"azure-retry-max-attempts", none, .both⟩ },
  { key := "retry-delay", kind := .int64, get := (·.retryDelay),
    put := fun v g => { g with retryDelay := v },
    flag := some ⟨"azure-retry-delay", none, .both⟩ },
  { key := "retry-max-delay", kind := .int64, get := (·.retryMaxDelay),
    put := fun v g => { g with retryMaxDelay := v },
    flag := some ⟨"azure-retry-max-delay", none, .both⟩ },
  { key := "block-size", kind := .int64, get := (·.blockSize),
    put := fun v g => { g with blockSize := v },
    flag := some ⟨"azure-block-size", none, .backup⟩ },
  { key := "upload-concurrency", kind := .int64, get := (·.uploadConcurrency),
    put := fun v g => { g with uploadConcurrency := v },
    flag := some ⟨"azure-upload-concurrency", none, .backup⟩ }] ++
  (CloudTuning.settings.map fun s =>
    (s.within (·.tuning) fun c g => { g with tuning := c }).underFlag "azure-")

instance : OptionGroup AzureBlob where
  fill f :=
    { accountName := f .text
      accountKey := f .text
      tenantId := f .text
      clientId := f .text
      clientSecret := f .text
      endpoint := f .text
      containerName := f .text
      accessTier := f .text
      restorePollDuration := f .int64
      retryMaxAttempts := f .int64
      retryDelay := f .int64
      retryMaxDelay := f .int64
      blockSize := f .int64
      uploadConcurrency := f .int64
      tuning := OptionGroup.fill f }
  zipWith f a b :=
    { accountName := f .text a.accountName b.accountName
      accountKey := f .text a.accountKey b.accountKey
      tenantId := f .text a.tenantId b.tenantId
      clientId := f .text a.clientId b.clientId
      clientSecret := f .text a.clientSecret b.clientSecret
      endpoint := f .text a.endpoint b.endpoint
      containerName := f .text a.containerName b.containerName
      accessTier := f .text a.accessTier b.accessTier
      restorePollDuration := f .int64 a.restorePollDuration b.restorePollDuration
      retryMaxAttempts := f .int64 a.retryMaxAttempts b.retryMaxAttempts
      retryDelay := f .int64 a.retryDelay b.retryDelay
      retryMaxDelay := f .int64 a.retryMaxDelay b.retryMaxDelay
      blockSize := f .int64 a.blockSize b.blockSize
      uploadConcurrency := f .int64 a.uploadConcurrency b.uploadConcurrency
      tuning := OptionGroup.zipWith f a.tuning b.tuning }
  settings := AzureBlob.settings

/-- Files of this machine. -/
structure LocalFiles (F : Type → Type) where
  /-- Bytes of one read or write; zero leaves it to the engine. -/
  bufferSize : F Int64

/-- The options of the group, in the order in which a refusal lists them. -/
def LocalFiles.settings : List (Setting LocalFiles) := [
  { key := "buffer-size", kind := .int64, get := (·.bufferSize),
    put := fun v g => { g with bufferSize := v },
    flag := some ⟨"local-buffer-size", none, .both⟩ }]

instance : OptionGroup LocalFiles where
  fill f :=
    { bufferSize := f .int64 }
  zipWith f a b :=
    { bufferSize := f .int64 a.bufferSize b.bufferSize }
  settings := LocalFiles.settings

end BackupControl
