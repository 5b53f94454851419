/-
# Payloads

The JSON form in which a job is handed to the engine.  The members of every object are listed
here in their order.
-/
import BackupControl.Job.Basic
import BackupControl.Json.Basic

namespace BackupControl

/-- The payload of a span. -/
def Span.payload (s : Span) : Json := .obj [("secs", .nat s.seconds), ("nanos", .nat s.nanos)]

/-! ## Connections -/

/-- The payload of the security of a connection. -/
def TlsConfig.payload (c : TlsConfig) : Json := .obj [
  ("name", .optionalText c.name),
  ("ca_file", .optionalText c.caFile),
  ("cert_file", .optionalText c.certFile),
  ("key_file", .optionalText c.keyFile),
  ("key_file_password", .optionalText c.keyFilePassword),
  ("protocols", .optionalText c.protocols)]

/-- The payload of a connection to the cluster. -/
def ClusterConfig.payload (c : ClusterConfig) : Json := .obj [
  ("host", .str c.host),
  ("port", .nat c.port.toNat),
  ("user", .optionalText c.user),
  ("password", .optionalText c.password),
  ("auth_mode", .optionalText c.authMode),
  ("tls", .optional TlsConfig.payload c.tls),
  ("timeout", c.timeout.payload),
  ("idle_timeout", c.idleTimeout.payload),
  ("login_timeout", c.loginTimeout.payload)]

/-- The payload of a connection to the secret agent. -/
def AgentConfig.payload (c : AgentConfig) : Json := .obj [
  ("connection_type", .optionalText c.connectionType),
  ("address", .str c.address),
  ("port", .optional (fun n => .nat n.toNat) c.port),
  ("timeout_ms", .optional (fun n => .nat n.toNat) c.timeoutMillis),
  ("ca_file", .optionalText c.caFile),
  ("tls_name", .optionalText c.tlsName),
  ("cert_file", .optionalText c.certFile),
  ("key_file", .optionalText c.keyFile),
  ("is_base64", .bool c.isBase64)]

/-! ## Policies -/

/-- The payload of an info policy. -/
def InfoPolicy.payload (p : InfoPolicy) : Json := .obj [("timeout", p.timeout.payload)]

/-- The payload of a retry policy. -/
def RetryPolicy.payload (p : RetryPolicy) : Json := .obj [
  ("base_timeout", p.baseTimeout.payload),
  ("multiplier", .real p.multiplier),
  ("max_retries", .nat p.maxRetries.toNat)]

/-- The word for a copy. -/
def ReplicaPolicy.word : ReplicaPolicy → String
  | .sequence => "SEQUENCE"
  | .preferRack => "PREFER_RACK"
  | .master => "MASTER"

/-- The payload of bytes: a list of numbers. -/
def bytesPayload (bytes : List UInt8) : Json := .list (fun b => .nat b.toNat) bytes

/-- The payload of a scan policy. -/
def ScanPolicy.payload (p : ScanPolicy) : Json := .obj [
  ("max_records", .int p.maxRecords.toInt),
  ("max_retries", .nat p.maxRetries.toNat),
  ("sleep_between_retries", p.sleepBetweenRetries.payload),
  ("total_timeout", p.totalTimeout.payload),
  ("socket_timeout", p.socketTimeout.payload),
  ("replica_policy", .str p.replica.word),
  ("include_bin_data", .bool p.includeBinData),
  ("filter_expression", .optional bytesPayload p.filterExpression)]

/-- The word for what happens to a record that is already there. -/
def RecordExistsAction.word : RecordExistsAction → String
  | .update => "UPDATE"
  | .replace => "REPLACE"
  | .createOnly => "CREATE_ONLY"

/-- The word for the look at the generation of a record. -/
def GenerationPolicy.word : GenerationPolicy → String
  | .none => "NONE"
  | .expectNewer => "EXPECT_GEN_GT"

/-- The payload of a write policy. -/
def WritePolicy.payload (p : WritePolicy) : Json := .obj [
  ("send_key", .bool p.sendKey),
  ("total_timeout", p.totalTimeout.payload),
  ("socket_timeout", p.socketTimeout.payload),
  ("record_exists_action", .str p.recordExistsAction.word),
  ("generation_policy", .str p.generation.word)]

/-- The payload of a compression policy. -/
def CompressionPolicy.payload (p : CompressionPolicy) : Json :=
  .obj [("mode", .str p.mode), ("level", .int p.level.toInt)]

/-- The payload of an encryption policy. -/
def EncryptionPolicy.payload (p : EncryptionPolicy) : Json := .obj [
  ("mode", .str p.mode),
  ("key_file", .optionalText p.keyFile),
  ("key_env", .optionalText p.keyEnv),
  ("key_secret", .optionalText p.keySecret)]

/-! ## Storage -/

/-- The members of the options of every cloud store. -/
def CloudTuning.payloadMembers (g : CloudTuning Settled) : List (String × Json) := [
  ("max-conns-per-host", .int g.maxConnsPerHost.toInt),
  ("request-timeout", .int g.requestTimeout.toInt),
  ("calculate-checksum", .bool g.calculateChecksum),
  ("retry-read-backoff", .int g.retryReadBackoff.toInt),
  ("retry-read-multiplier", .real g.retryReadMultiplier),
  ("retry-read-max-attempts", .nat g.retryReadMaxAttempts.toNat)]

/-- The members of an S3 store. -/
def AwsS3.payloadMembers (g : AwsS3 Settled) : List (String × Json) := [
  ("bucket-name", .str g.bucketName),
  ("region", .str g.region),
  ("profile", .str g.profile),
  ("endpoint", .str g.endpoint),
  ("access-key-id", .str g.accessKeyId),
  ("secret-access-key", .str g.secretAccessKey),
  ("storage-class", .str g.storageClass),
  ("access-tier", .str g.accessTier),
  ("retry-max-attempts", .int g.retryMaxAttempts.toInt),
  ("retry-max-backoff", .int g.retryMaxBackoff.toInt),
  ("retry-backoff", .int g.retryBackoff.toInt),
  ("chunk-size", .int g.chunkSize.toInt),
  ("upload-concurrency", .int g.uploadConcurrency.toInt),
  ("restore-poll-duration", .int g.restorePollDuration.toInt)] ++ g.tuning.payloadMembers

/-- The members of a GCP store. -/
def GcpStorage.payloadMembers (g : GcpStorage Settled) : List (String × Json) := [
  ("key-file", .str g.keyFile),
  ("bucket-name", .str g.bucketName),
  ("endpoint", .str g.endpoint),
  ("retry-max-attempts", .int g.retryMaxAttempts.toInt),
  ("retry-backoff", .int g.retryBackoff.toInt),
  ("retry-backoff-max", .int g.retryBackoffMax.toInt),
  ("retry-backoff-multiplier", .real g.retryBackoffMultiplier),
  ("chunk-size", .int g.chunkSize.toInt),
  ("upload-concurrency", .int g.uploadConcurrency.toInt)] ++ g.tuning.payloadMembers

/-- The members of an Azure store. -/
def AzureBlob.payloadMembers (g : AzureBlob Settled) : List (String × Json) := [
  ("account-name", .str g.accountName),
  ("account-key", .str g.accountKey),
  ("tenant-id", .str g.tenantId),
  ("client-id", .str g.clientId),
  ("client-secret", .str g.clientSecret),
  ("endpoint", .str g.endpoint),
  ("container-name", .str g.containerName),
  ("access-tier", .str g.accessTier),
  ("restore-poll-duration", .int g.restorePollDuration.toInt),
  ("retry-max-attempts", .int g.retryMaxAttempts.toInt),
  ("retry-delay", .int g.retryDelay.toInt),
  ("retry-max-delay", .int g.retryMaxDelay.toInt),
  ("block-size", .int g.blockSize.toInt),
  ("upload-concurrency", .int g.uploadConcurrency.toInt)] ++ g.tuning.payloadMembers

/-- The members of the files of this machine. -/
def LocalFiles.payloadMembers (g : LocalFiles Settled) : List (String × Json) :=
  [("buffer-size", .int g.bufferSize.toInt)]

/-- The word for the kind of a store. -/
def Target.provider : Target → String
  | .localFiles _ => "local"
  | .awsS3 _ => "aws-s3"
  | .gcpStorage _ => "gcp-storage"
  | .azureBlob _ => "azure-blob"

/-- The payload of a store; its kind comes first. -/
def Target.payload (t : Target) : Json :=
  .obj <| ("provider", .str t.provider) :: match t with
    | .localFiles g => g.payloadMembers
    | .awsS3 g => g.payloadMembers
    | .gcpStorage g => g.payloadMembers
    | .azureBlob g => g.payloadMembers

/-! ## Backups -/

/-- The payload of a cursor. -/
def DigestCursor.payload (c : DigestCursor) : Json :=
  .obj [("namespace", .str c.nameSpace), ("digest", bytesPayload c.digest)]

/-- The payload of a partition filter. -/
def PartitionFilter.payload (f : PartitionFilter) : Json := .obj [
  ("begin", .int f.start.toInt),
  ("count", .int f.count.toInt),
  ("digest", .optional DigestCursor.payload f.digest)]

/-- The payload of an instant. -/
def Instant.payload (t : Instant) : Json := .str t.text

/-- The payload of a scan. -/
def ScanConfig.payload (c : ScanConfig) : Json := .obj [
  ("namespace", .str c.nameSpace),
  ("set_list", .texts c.setList),
  ("bin_list", .texts c.binList),
  ("node_list", .texts c.nodeList),
  ("rack_list", .list (fun n => .nat n.toNat) c.rackList),
  ("partition_filters", .list PartitionFilter.payload c.partitionFilters),
  ("scan_policy", c.scanPolicy.payload),
  ("info_policy", c.infoPolicy.payload),
  ("info_retry_policy", c.infoRetryPolicy.payload),
  ("compression_policy", .optional CompressionPolicy.payload c.compressionPolicy),
  ("encryption_policy", .optional EncryptionPolicy.payload c.encryptionPolicy),
  ("secret_agent_config", .optional AgentConfig.payload c.agent),
  ("mod_before", .optional Instant.payload c.modifiedBefore),
  ("mod_after", .optional Instant.payload c.modifiedAfter),
  ("parallel_read", .nat c.parallelRead.toNat),
  ("parallel_write", .nat c.parallelWrite.toNat),
  ("records_per_second", .nat c.recordsPerSecond.toNat),
  ("bandwidth", .nat c.bandwidth.toNat),
  ("file_limit", .nat c.fileLimit.toNat),
  ("no_records", .bool c.noRecords),
  ("no_indexes", .bool c.noIndexes),
  ("no_udfs", .bool c.noUdfs),
  ("compact", .bool c.compact),
  ("no_ttl_only", .bool c.noTtlOnly),
  ("output_file_prefix", .str c.outputFilePrefix),
  ("state_file", .optionalText c.stateFile),
  ("continue", .bool c.isContinued),
  ("page_size", .int c.pageSize.toInt),
  ("metrics_enabled", .bool c.metricsEnabled)]

/-- The payload of a change feed, whose records are always in the encoding of the feed. -/
def FeedConfig.payload (c : FeedConfig) : Json := .obj [
  ("namespace", .str c.nameSpace),
  ("dc", .str c.dc),
  ("local_address", .str c.localAddress),
  ("local_port", .nat c.localPort.toNat),
  ("rewind", .str c.rewind),
  ("encoder", .str "XDR"),
  ("compression_policy", .optional CompressionPolicy.payload c.compressionPolicy),
  ("encryption_policy", .optional EncryptionPolicy.payload c.encryptionPolicy),
  ("secret_agent_config", .optional AgentConfig.payload c.agent),
  ("info_policy", c.infoPolicy.payload),
  ("info_retry_policy", c.infoRetryPolicy.payload),
  ("file_limit", .nat c.fileLimit.toNat),
  ("parallel_write", .nat c.parallelWrite),
  ("max_throughput", .nat c.maxThroughput.toNat),
  ("read_timeout", c.readTimeout.payload),
  ("write_timeout", c.writeTimeout.payload),
  ("info_polling_period", c.infoPollingPeriod.payload),
  ("start_timeout", c.startTimeout.payload),
  ("result_queue_size", .nat c.resultsQueueSize.toNat),
  ("ack_queue_size", .nat c.ackQueueSize.toNat),
  ("max_connections", .nat c.maxConnections.toNat),
  ("forward", .bool c.forward),
  ("metrics_enabled", .bool c.metricsEnabled)]

/-- The payload of a backup. -/
def BackupJob.payload (j : BackupJob) : Json := .obj [
  ("cluster", j.cluster.payload),
  ("backup", j.scan.payload),
  ("xdr", .optional FeedConfig.payload j.changeFeed),
  ("storage", j.storage.payload),
  ("directory", .str j.directory),
  ("output_file", .str j.outputFile),
  ("estimate", .bool j.estimate),
  ("estimate_samples", .int j.estimateSamples.toInt),
  ("remove_artifacts", .bool j.removeArtifacts),
  ("is_xdr", .bool j.isChangeFeed),
  ("is_continue", .bool j.isContinued),
  ("is_stop_xdr", .bool j.isStopXdr),
  ("is_unblock_mrt", .bool j.isUnblockMrt),
  ("skip_writer_init", .bool j.skipsWriterSetup),
  ("is_stdout", .bool j.writesToOutput),
  ("should_clear_target", .bool j.clearsTarget),
  ("should_save_state", .bool j.savesState)]

/-! ## Restores -/

/-- The payload of a pair of namespaces. -/
def NamespacePair.payload (p : NamespacePair) : Json :=
  .obj [("source", .str p.source), ("destination", .str p.destination)]

/-- The payload of the place that backup files are read from. -/
def RestoreSource.payload : RestoreSource → Json
  | .file path => .obj [("file", .str path)]
  | .directory path => .obj [("directory", .str path)]
  | .directories paths => .obj [("directory_list", .texts paths)]

/-- The payload of what a restore does. -/
def RestoreConfig.payload (c : RestoreConfig) : Json := .obj [
  ("namespace", .optional NamespacePair.payload c.nameSpace),
  ("source", .optional RestoreSource.payload c.source),
  ("mode", .str c.mode.word),
  ("set_list", .texts c.setList),
  ("bin_list", .texts c.binList),
  ("write_policy", c.writePolicy.payload),
  ("info_policy", c.infoPolicy.payload),
  ("info_retry_policy", c.infoRetryPolicy.payload),
  ("write_retry_policy", c.writeRetryPolicy.payload),
  ("compression_policy", .optional CompressionPolicy.payload c.compressionPolicy),
  ("encryption_policy", .optional EncryptionPolicy.payload c.encryptionPolicy),
  ("secret_agent_config", .optional AgentConfig.payload c.agent),
  ("parallel", .nat c.parallel.toNat),
  ("records_per_second", .nat c.recordsPerSecond.toNat),
  ("bandwidth", .nat c.bandwidth.toNat),
  ("extra_ttl", .int c.extraTtl.toInt),
  ("no_records", .bool c.noRecords),
  ("no_indexes", .bool c.noIndexes),
  ("no_udfs", .bool c.noUdfs),
  ("disable_batch_writes", .bool c.disableBatchWrites),
  ("batch_size", .nat c.batchSize.toNat),
  ("max_async_batches", .nat c.maxAsyncBatches.toNat),
  ("warm_up", .nat c.warmUp.toNat),
  ("ignore_record_errors", .bool c.ignoreRecordErrors),
  ("validate_only", .bool c.validateOnly),
  ("apply_metadata_last", .bool c.applyMetadataLast),
  ("metrics_enabled", .bool c.metricsEnabled)]

/-- The payload of a restore. -/
def RestoreJob.payload (j : RestoreJob) : Json := .obj [
  ("cluster", j.cluster.payload),
  ("restore", j.restore.payload),
  ("storage", j.storage.payload),
  ("is_directory_restore", .bool j.isDirectoryRestore)]

end BackupControl
