/-
# The table of flags

Which flag sets which option, group by group, with the kind of what stands behind it.  The table
of a command lists the flags of every option that the command can set, in the order of the
options, and no other flags set an option.
-/
import BackupControl.Proofs.CommandLine.OptionFlags

namespace BackupControl

/-! ## Lines -/

/-- A flag with the option that it sets: its long name, the kind of its text, and what it gives
for the option. -/
structure FlagLine where
  long : String
  kind : Kind
  given : Given kind.Value

/-- The lines that are those of one command only. -/
def FlagLine.onlyOf (owner op : Operation) (lines : List FlagLine) : List FlagLine :=
  if op = owner then lines else []

open FlagLine (onlyOf)

/-! ## Groups of every command -/

/-- The flags of logging. -/
def App.flagLines (g : App Given) : List FlagLine := [
  ⟨"verbose", .switch, g.verbose⟩, ⟨"log-level", .text, g.logLevel⟩,
  ⟨"log-json", .switch, g.logJson⟩, ⟨"log-file", .text, g.logFile⟩]

/-- The flags of the cluster. -/
def Cluster.flagLines (g : Cluster Given) : List FlagLine := [
  ⟨"host", .text, g.host⟩, ⟨"port", .word16, g.port⟩, ⟨"user", .text, g.user⟩,
  ⟨"password", .text, g.password⟩, ⟨"auth", .text, g.authMode⟩, ⟨"tls-name", .text, g.tlsName⟩,
  ⟨"tls-cafile", .text, g.tlsCaFile⟩, ⟨"tls-certfile", .text, g.tlsCertFile⟩,
  ⟨"tls-keyfile", .text, g.tlsKeyFile⟩, ⟨"tls-keyfile-password", .text, g.tlsKeyFilePassword⟩,
  ⟨"tls-protocols", .text, g.tlsProtocols⟩, ⟨"client-timeout", .word64, g.clientTimeout⟩,
  ⟨"client-idle-timeout", .word64, g.clientIdleTimeout⟩,
  ⟨"client-login-timeout", .word64, g.clientLoginTimeout⟩]

/-- The flags of compression. -/
def Compression.flagLines (g : Compression Given) : List FlagLine := [
  ⟨"compress", .text, g.mode⟩, ⟨"compression-level", .int32, g.level⟩]

/-- The flags of encryption. -/
def Encryption.flagLines (g : Encryption Given) : List FlagLine := [
  ⟨"encrypt", .text, g.mode⟩, ⟨"encryption-key-file", .text, g.keyFile⟩,
  ⟨"encryption-key-env", .text, g.keyEnv⟩, ⟨"encryption-key-secret", .text, g.keySecret⟩]

/-- The flags of the secret agent. -/
def SecretAgent.flagLines (g : SecretAgent Given) : List FlagLine := [
  ⟨"sa-connection-type", .text, g.connectionType⟩, ⟨"sa-address", .text, g.address⟩,
  ⟨"sa-port", .word16, g.port⟩, ⟨"sa-timeout", .word64, g.timeout⟩,
  ⟨"sa-cafile", .text, g.caFile⟩, ⟨"sa-tls-name", .text, g.tlsName⟩,
  ⟨"sa-certfile", .text, g.certFile⟩, ⟨"sa-keyfile", .text, g.keyFile⟩,
  ⟨"sa-is-base64", .switch, g.isBase64⟩]

/-! ## Groups of one command -/

/-- The flags that a scan and a restore share. -/
def Transfer.flagLines (g : Transfer Given) : List FlagLine := [
  ⟨"directory", .text, g.directory⟩, ⟨"namespace", .text, g.nameSpace⟩,
  ⟨"set-list", .list, g.setList⟩, ⟨"bin-list", .list, g.binList⟩, ⟨"parallel", .size, g.parallel⟩,
  ⟨"no-records", .switch, g.noRecords⟩, ⟨"no-indexes", .switch, g.noIndexes⟩,
  ⟨"no-udfs", .switch, g.noUdfs⟩, ⟨"records-per-second", .word32, g.recordsPerSecond⟩,
  ⟨"nice", .word64, g.bandwidth⟩, ⟨"total-timeout", .word64, g.totalTimeout⟩,
  ⟨"socket-timeout", .word64, g.socketTimeout⟩, ⟨"info-timeout", .word64, g.infoTimeout⟩,
  ⟨"info-max-retries", .word32, g.infoMaxRetries⟩,
  ⟨"info-retries-multiplier", .real, g.infoRetriesMultiplier⟩,
  ⟨"info-retry-interval", .word64, g.infoRetryInterval⟩,
  ⟨"std-buffer-size", .size, g.stdBufferSize⟩]

/-- The flags of a scan. -/
def Scan.flagLines (g : Scan Given) : List FlagLine :=
  Transfer.flagLines g.transfer ++ [
  ⟨"output-file", .text, g.outputFile⟩, ⟨"output-file-prefix", .text, g.outputFilePrefix⟩,
  ⟨"remove-files", .switch, g.removeFiles⟩, ⟨"remove-artifacts", .switch, g.removeArtifacts⟩,
  ⟨"file-limit", .word64, g.fileLimit⟩, ⟨"compact", .switch, g.compact⟩,
  ⟨"no-bins", .switch, g.noBins⟩, ⟨"no-ttl-only", .switch, g.noTtlOnly⟩,
  ⟨"modified-before", .text, g.modifiedBefore⟩, ⟨"modified-after", .text, g.modifiedAfter⟩,
  ⟨"after-digest", .text, g.afterDigest⟩, ⟨"partition-list", .text, g.partitionList⟩,
  ⟨"node-list", .list, g.nodeList⟩, ⟨"rack-list", .list, g.rackList⟩,
  ⟨"prefer-racks", .list, g.preferRacks⟩, ⟨"filter-exp", .text, g.filterExpression⟩,
  ⟨"max-records", .int64, g.maxRecords⟩, ⟨"max-retries", .word32, g.maxRetries⟩,
  ⟨"sleep-between-retries", .word64, g.sleepBetweenRetries⟩,
  ⟨"scan-page-size", .int64, g.scanPageSize⟩, ⟨"estimate", .switch, g.estimate⟩,
  ⟨"estimate-samples", .int64, g.estimateSamples⟩, ⟨"continue", .text, g.continueFrom⟩,
  ⟨"state-file-dst", .text, g.stateFileDst⟩]

/-- The flags of a change feed.  What it shares with a scan has none of its own. -/
def ChangeFeed.flagLines (g : ChangeFeed Given) : List FlagLine := [
  ⟨"parallel-write", .size, g.parallelWrite⟩, ⟨"dc", .text, g.dc⟩,
  ⟨"local-address", .text, g.localAddress⟩, ⟨"local-port", .word16, g.localPort⟩,
  ⟨"rewind", .text, g.rewind⟩, ⟨"max-throughput", .word32, g.maxThroughput⟩,
  ⟨"forward", .switch, g.forward⟩, ⟨"read-timeout", .word64, g.readTimeout⟩,
  ⟨"write-timeout", .word64, g.writeTimeout⟩, ⟨"info-poling-period", .word64, g.infoPollingPeriod⟩,
  ⟨"start-timeout", .word64, g.startTimeout⟩, ⟨"results-queue-size", .size, g.resultsQueueSize⟩,
  ⟨"ack-queue-size", .size, g.ackQueueSize⟩, ⟨"max-connections", .size, g.maxConnections⟩,
  ⟨"stop-xdr", .switch, g.stopXdr⟩, ⟨"unblock-mrt", .switch, g.unblockMrt⟩]

/-- The flags of a restore. -/
def Restore.flagLines (g : Restore Given) : List FlagLine :=
  Transfer.flagLines g.transfer ++ [
  ⟨"input-file", .text, g.inputFile⟩, ⟨"directory-list", .list, g.directoryList⟩,
  ⟨"parent-directory", .text, g.parentDirectory⟩, ⟨"mode", .text, g.mode⟩,
  ⟨"disable-batch-writes", .switch, g.disableBatchWrites⟩, ⟨"batch-size", .size, g.batchSize⟩,
  ⟨"max-async-batches", .size, g.maxAsyncBatches⟩, ⟨"warm-up", .int64, g.warmUp⟩,
  ⟨"extra-ttl", .int64, g.extraTtl⟩, ⟨"ignore-record-error", .switch, g.ignoreRecordError⟩,
  ⟨"unique", .switch, g.unique⟩, ⟨"replace", .switch, g.replace⟩,
  ⟨"no-generation", .switch, g.noGeneration⟩,
  ⟨"retry-base-interval", .word64, g.retryBaseInterval⟩,
  ⟨"retry-multiplier", .real, g.retryMultiplier⟩,
  ⟨"retry-max-attempts", .word32, g.retryMaxAttempts⟩,
  ⟨"validate-only", .switch, g.validateOnly⟩,
  ⟨"apply-metadata-last", .switch, g.applyMetadataLast⟩]

/-! ## Storage -/

/-- The flags of an S3 store. -/
def AwsS3.flagLines (op : Operation) (g : AwsS3 Given) : List FlagLine := [
  ⟨"s3-bucket-name", .text, g.bucketName⟩, ⟨"s3-region", .text, g.region⟩,
  ⟨"s3-profile", .text, g.profile⟩, ⟨"s3-endpoint-override", .text, g.endpoint⟩,
  ⟨"s3-access-key-id", .text, g.accessKeyId⟩,
  ⟨"s3-secret-access-key", .text, g.secretAccessKey⟩] ++
  onlyOf .backup op [⟨"s3-storage-class", .text, g.storageClass⟩] ++
  onlyOf .restore op [⟨"s3-access-tier", .text, g.accessTier⟩] ++ [
  ⟨"s3-retry-max-attempts", .int64, g.retryMaxAttempts⟩,
  ⟨"s3-retry-max-backoff", .int64, g.retryMaxBackoff⟩,
  ⟨"s3-retry-backoff", .int64, g.retryBackoff⟩] ++
  onlyOf .backup op [
    ⟨"s3-chunk-size", .int64, g.chunkSize⟩,
    ⟨"s3-upload-concurrency", .int64, g.uploadConcurrency⟩] ++
  onlyOf .restore op [⟨"s3-restore-poll-duration", .int64, g.restorePollDuration⟩] ++ [
  ⟨"s3-max-conns-per-host", .int64, g.tuning.maxConnsPerHost⟩,
  ⟨"s3-request-timeout", .int64, g.tuning.requestTimeout⟩,
  ⟨"s3-calculate-checksum", .switch, g.tuning.calculateChecksum⟩] ++
  onlyOf .restore op [
    ⟨"s3-retry-read-backoff", .int64, g.tuning.retryReadBackoff⟩,
    ⟨"s3-retry-read-multiplier", .real, g.tuning.retryReadMultiplier⟩,
    ⟨"s3-retry-read-max-attempts", .word32, g.tuning.retryReadMaxAttempts⟩]

/-- The flags of a GCP store. -/
def GcpStorage.flagLines (op : Operation) (g : GcpStorage Given) : List FlagLine := [
  ⟨"gcp-key-path", .text, g.keyFile⟩, ⟨"gcp-bucket-name", .text, g.bucketName⟩,
  ⟨"gcp-endpoint-override", .text, g.endpoint⟩,
  ⟨"gcp-retry-max-attempts", .int64, g.retryMaxAttempts⟩,
  ⟨"gcp-retry-init-backoff", .int64, g.retryBackoff⟩,
  ⟨"gcp-retry-max-backoff", .int64, g.retryBackoffMax⟩,
  ⟨"gcp-retry-backoff-multiplier", .real, g.retryBackoffMultiplier⟩] ++
  onlyOf .backup op [
    ⟨"gcp-chunk-size", .int64, g.chunkSize⟩,
    ⟨"gcp-upload-concurrency", .int64, g.uploadConcurrency⟩] ++ [
  ⟨"gcp-max-conns-per-host", .int64, g.tuning.maxConnsPerHost⟩,
  ⟨"gcp-request-timeout", .int64, g.tuning.requestTimeout⟩,
  ⟨"gcp-calculate-checksum", .switch, g.tuning.calculateChecksum⟩] ++
  onlyOf .restore op [
    ⟨"gcp-retry-read-backoff", .int64, g.tuning.retryReadBackoff⟩,
    ⟨"gcp-retry-read-multiplier", .real, g.tuning.retryReadMultiplier⟩,
    ⟨"gcp-retry-read-max-attempts", .word32, g.tuning.retryReadMaxAttempts⟩]

/-- The flags of an Azure store. -/
def AzureBlob.flagLines (op : Operation) (g : AzureBlob Given) : List FlagLine := [
  ⟨"azure-account-name", .text, g.accountName⟩, ⟨"azure-account-key", .text, g.accountKey⟩,
  ⟨"azure-tenant-id", .text, g.tenantId⟩, ⟨"azure-client-id", .text, g.clientId⟩,
  ⟨"azure-client-secret", .text, g.clientSecret⟩, ⟨"azure-endpoint", .text, g.endpoint⟩,
  ⟨"azure-container-name", .text, g.containerName⟩,
  ⟨"azure-access-tier", .text, g.accessTier⟩] ++
  onlyOf .restore op [⟨"azure-rehydrate-poll-duration", .int64, g.restorePollDuration⟩] ++ [
  ⟨"azure-retry-max-attempts", .int64, g.retryMaxAttempts⟩,
  ⟨"azure-retry-delay", .int64, g.retryDelay⟩,
  ⟨"azure-retry-max-delay", .int64, g.retryMaxDelay⟩] ++
  onlyOf .backup op [
    ⟨"azure-block-size", .int64, g.blockSize⟩,
    ⟨"azure-upload-concurrency", .int64, g.uploadConcurrency⟩] ++ [
  ⟨"azure-max-conns-per-host", .int64, g.tuning.maxConnsPerHost⟩,
  ⟨"azure-request-timeout", .int64, g.tuning.requestTimeout⟩,
  ⟨"azure-calculate-checksum", .switch, g.tuning.calculateChecksum⟩] ++
  onlyOf .restore op [
    ⟨"azure-retry-read-backoff", .int64, g.tuning.retryReadBackoff⟩,
    ⟨"azure-retry-read-multiplier", .real, g.tuning.retryReadMultiplier⟩,
    ⟨"azure-retry-read-max-attempts", .word32, g.tuning.retryReadMaxAttempts⟩]

/-- The flags of the files of this machine. -/
def LocalFiles.flagLines (g : LocalFiles Given) : List FlagLine := [
  ⟨"local-buffer-size", .int64, g.bufferSize⟩]

/-! ## Commands -/

namespace CommandLine

/-- The flags of a command. -/
def flagLines (op : Operation) (r : FlagRecord) : List FlagLine :=
  App.flagLines r.1.app ++ Cluster.flagLines r.2.cluster ++
  onlyOf .backup op (Scan.flagLines r.2.scan ++ ChangeFeed.flagLines r.2.changeFeed) ++
  onlyOf .restore op (Restore.flagLines r.2.restore) ++
  Compression.flagLines r.2.compression ++ Encryption.flagLines r.2.encryption ++
  SecretAgent.flagLines r.2.secretAgent ++
  AwsS3.flagLines op r.2.awsS3 ++ GcpStorage.flagLines op r.2.gcpStorage ++
  AzureBlob.flagLines op r.2.azureBlob ++ LocalFiles.flagLines r.2.localFiles

/-- The lines of a command are its options with a flag, one for each and in order. -/
theorem flagLines_eq (op : Operation) (r : FlagRecord) :
    flagLines op r = (flaggedOptions op).map fun o =>
      ⟨o.2.long, o.1.2.kind, o.1.2.get (r.get o.1.1)⟩ := by
  cases op <;> rfl

variable {op : Operation} {r : FlagRecord} {texts : FlagTexts}

/-- A line of the table has what the text behind its flag stands for, and nothing if its flag was
not passed. -/
theorem Explained.given_of_mem_flagLines (h : Explained op r texts) {line : FlagLine}
    (hline : line ∈ flagLines op r) :
    line.given.map Except.ok = (texts.lookup line.long).map (flagValue line.kind) := by
  rw [flagLines_eq] at hline
  obtain ⟨⟨⟨n, s⟩, f⟩, hoption, rfl⟩ := List.mem_map.1 hline
  obtain ⟨_, -, hoption⟩ := List.mem_flatMap.1 hoption
  obtain ⟨_, hs, hoption⟩ := List.mem_filterMap.1 hoption
  obtain ⟨_, hf, hpair⟩ := Option.map_eq_some_iff.1 hoption
  cases hpair
  have htext : texts.text? op n s = texts.lookup f.long := by
    rw [FlagTexts.text?, hf, Option.bind_some]
  exact (h.options n s hs).trans (by rw [htext])

/-- An option that the flags set has a line in the table. -/
theorem Explained.exists_mem_flagLines (h : Explained op r texts) {n : Section}
    {s : Setting n.Group} (hs : s ∈ n.settings) {v : s.kind.Value}
    (hv : s.get (r.get n) = some v) : ∃ long, ⟨long, s.kind, some v⟩ ∈ flagLines op r := by
  cases hf : n.flag? op s with
  | none =>
    have htext : texts.text? op n s = none := by
      rw [FlagTexts.text?, hf, Option.bind_none]
    exact absurd (hv.symm.trans (h.get_of_text?_eq_none hs htext)) (Option.some_ne_none v)
  | some f =>
    refine ⟨f.long, ?_⟩
    rw [flagLines_eq, ← hv]
    exact List.mem_map_of_mem (mem_flaggedOptions hs hf)

end CommandLine

end BackupControl
