/-
# Documents that spell a layer

A document spells a layer if each option that is set stands under its key in the mapping of its
section, and the sections of the cloud stores stand in those of their vendors.  The tables say
what the key of an option is and which scalar its value is.  How a key or a scalar is spelled,
and in which order a mapping has its entries, is left open.
-/
import BackupControl.Proofs.Document.Record
import BackupControl.Proofs.Document.Scalar
import BackupControl.Proofs.Options.Section

namespace BackupControl

/-! ## Mappings that spell a table -/

/-- The lines of a table that have a value. -/
def presentLines {β : Type*} (table : List (String × Option β)) : List (String × β) :=
  table.filterMap fun t => t.2.map fun b => (t.1, b)

/-- A line with a value is present. -/
theorem mem_presentLines {β : Type*} {table : List (String × Option β)} {t : String × β} :
    t ∈ presentLines table ↔ (t.1, some t.2) ∈ table := by
  rw [presentLines, List.mem_filterMap]
  constructor
  · rintro ⟨⟨key, value⟩, hmem, ht⟩
    obtain ⟨b, rfl, rfl⟩ := Option.map_eq_some_iff.1 ht
    exact hmem
  · intro hmem
    exact ⟨_, hmem, rfl⟩

/-- The keys of the lines that are present are among those of the table. -/
theorem nodup_presentLines {β : Type*} {table : List (String × Option β)}
    (h : (table.map Prod.fst).Nodup) : ((presentLines table).map Prod.fst).Nodup := by
  rw [List.Nodup, List.pairwise_map] at h ⊢
  rw [presentLines, List.pairwise_filterMap]
  refine h.imp fun {t t'} hne line hline line' hline' => ?_
  obtain ⟨_, _, rfl⟩ := Option.map_eq_some_iff.1 hline
  obtain ⟨_, _, rfl⟩ := Option.map_eq_some_iff.1 hline'
  exact hne

namespace Document

/-- The entry has the key of the line and a value that spells that of the line. -/
def SpellsLine (e : Document × Document) (t : String × (Document → Prop)) : Prop :=
  e.1.Spells (.text t.1) ∧ t.2 e.2

/-- The document is a mapping that has, in any order, one entry for each line of a table with a
value.  The table says under which key a value stands and what spells it. -/
def SpellsTable (d : Document) (table : List (String × Option (Document → Prop))) : Prop :=
  ∃ entries listed, d.resolved = .mapping none entries ∧ entries.Perm listed ∧
    List.Forall₂ SpellsLine listed (presentLines table)

/-- A document that spells a table says something. -/
theorem SpellsTable.isUnset {d : Document} {table : List (String × Option (Document → Prop))}
    (hd : d.SpellsTable table) : d.isUnset = false := by
  obtain ⟨entries, -, hentries, -⟩ := hd
  exact isUnset_of_mapping hentries

/-- Values that can be spelled one by one are spelled by a mapping. -/
theorem exists_spellsTable {table : List (String × Option (Document → Prop))}
    (h : ∀ t ∈ table, ∀ spells, t.2 = some spells → ∃ d, spells d) :
    ∃ d : Document, d.SpellsTable table := by
  suffices hentries : ∃ entries : List (Document × Document),
      List.Forall₂ SpellsLine entries (presentLines table) by
    obtain ⟨entries, hentries⟩ := hentries
    exact ⟨.mapping none entries, entries, entries, rfl, .refl entries, hentries⟩
  induction table with
  | nil => exact ⟨[], .nil⟩
  | cons t table ih =>
    obtain ⟨ht, htable⟩ := List.forall_mem_cons.1 h
    obtain ⟨entries, hentries⟩ := ih htable
    rw [presentLines, List.filterMap_cons]
    cases hspells : t.2 with
    | none => exact ⟨entries, hentries⟩
    | some spells =>
      obtain ⟨d, hd⟩ := ht spells hspells
      exact ⟨(.fixed (.text t.1), d) :: entries, .cons ⟨.inl rfl, hd⟩ hentries⟩

end Document

/-! ## Scalars of options -/

/-- The scalar that a value is. -/
class ToScalar (α : Type) where
  toScalar : α → Scalar

instance : ToScalar String := ⟨.text⟩
instance : ToScalar Bool := ⟨.bool⟩
instance : ToScalar UInt16 := ⟨fun n => .int n.toNat⟩
instance : ToScalar UInt32 := ⟨fun n => .int n.toNat⟩
instance : ToScalar UInt64 := ⟨fun n => .int n.toNat⟩
instance : ToScalar Int32 := ⟨fun n => .int n.toInt⟩
instance : ToScalar Int64 := ⟨fun n => .int n.toInt⟩
instance : ToScalar Binary64 := ⟨.real⟩

/-- The scalar of an option, if it is set. -/
def Given.scalar {α : Type} [ToScalar α] (v : Given α) : Option Scalar := v.map ToScalar.toScalar

/-! ## Tables of keys -/

/-- The options of the program under their keys. -/
def App.entries (g : App Given) : List (String × Option Scalar) := [
  ("verbose", g.verbose.scalar), ("log-level", g.logLevel.scalar), ("log-json", g.logJson.scalar),
  ("log-file", g.logFile.scalar)]

/-- The options of the cluster under their keys. -/
def Cluster.entries (g : Cluster Given) : List (String × Option Scalar) := [
  ("host", g.host.scalar), ("port", g.port.scalar), ("user", g.user.scalar),
  ("password", g.password.scalar), ("auth", g.authMode.scalar), ("tls-name", g.tlsName.scalar),
  ("tls-ca-file", g.tlsCaFile.scalar), ("tls-cert-file", g.tlsCertFile.scalar),
  ("tls-key-file", g.tlsKeyFile.scalar), ("tls-key-file-password", g.tlsKeyFilePassword.scalar),
  ("tls-protocols", g.tlsProtocols.scalar), ("client-timeout", g.clientTimeout.scalar),
  ("client-idle-timeout", g.clientIdleTimeout.scalar),
  ("client-login-timeout", g.clientLoginTimeout.scalar)]

/-- The options that a scan and a restore share under their keys. -/
def Transfer.entries (g : Transfer Given) : List (String × Option Scalar) := [
  ("directory", g.directory.scalar), ("namespace", g.nameSpace.scalar),
  ("set-list", g.setList.scalar), ("bin-list", g.binList.scalar), ("parallel", g.parallel.scalar),
  ("no-records", g.noRecords.scalar), ("no-indexes", g.noIndexes.scalar),
  ("no-udfs", g.noUdfs.scalar), ("records-per-second", g.recordsPerSecond.scalar),
  ("bandwidth", g.bandwidth.scalar), ("total-timeout", g.totalTimeout.scalar),
  ("socket-timeout", g.socketTimeout.scalar), ("info-timeout", g.infoTimeout.scalar),
  ("info-max-retries", g.infoMaxRetries.scalar),
  ("info-retries-multiplier", g.infoRetriesMultiplier.scalar),
  ("info-retry-interval", g.infoRetryInterval.scalar), ("std-buffer-size", g.stdBufferSize.scalar)]

/-- The options of a scan under their keys. -/
def Scan.entries (g : Scan Given) : List (String × Option Scalar) :=
  Transfer.entries g.transfer ++ [
  ("output-file", g.outputFile.scalar), ("output-file-prefix", g.outputFilePrefix.scalar),
  ("remove-files", g.removeFiles.scalar), ("remove-artifacts", g.removeArtifacts.scalar),
  ("file-limit", g.fileLimit.scalar), ("compact", g.compact.scalar), ("no-bins", g.noBins.scalar),
  ("no-ttl-only", g.noTtlOnly.scalar), ("modified-before", g.modifiedBefore.scalar),
  ("modified-after", g.modifiedAfter.scalar), ("after-digest", g.afterDigest.scalar),
  ("partition-list", g.partitionList.scalar), ("node-list", g.nodeList.scalar),
  ("rack-list", g.rackList.scalar), ("prefer-racks", g.preferRacks.scalar),
  ("filter-expression", g.filterExpression.scalar), ("max-records", g.maxRecords.scalar),
  ("max-retries", g.maxRetries.scalar), ("sleep-between-retries", g.sleepBetweenRetries.scalar),
  ("scan-page-size", g.scanPageSize.scalar), ("estimate", g.estimate.scalar),
  ("estimate-samples", g.estimateSamples.scalar), ("continue", g.continueFrom.scalar),
  ("state-file-dst", g.stateFileDst.scalar)]

/-- The options of a change feed under their keys. -/
def ChangeFeed.entries (g : ChangeFeed Given) : List (String × Option Scalar) := [
  ("namespace", g.nameSpace.scalar), ("directory", g.directory.scalar),
  ("file-limit", g.fileLimit.scalar), ("remove-files", g.removeFiles.scalar),
  ("parallel-write", g.parallelWrite.scalar), ("dc", g.dc.scalar),
  ("local-address", g.localAddress.scalar), ("local-port", g.localPort.scalar),
  ("rewind", g.rewind.scalar), ("max-throughput", g.maxThroughput.scalar),
  ("forward", g.forward.scalar), ("read-timeout", g.readTimeout.scalar),
  ("write-timeout", g.writeTimeout.scalar), ("info-polling-period", g.infoPollingPeriod.scalar),
  ("start-timeout", g.startTimeout.scalar), ("results-queue-size", g.resultsQueueSize.scalar),
  ("ack-queue-size", g.ackQueueSize.scalar), ("max-connections", g.maxConnections.scalar),
  ("info-timeout", g.infoTimeout.scalar), ("info-max-retries", g.infoMaxRetries.scalar),
  ("info-retries-multiplier", g.infoRetriesMultiplier.scalar),
  ("info-retry-interval", g.infoRetryInterval.scalar), ("stop-xdr", g.stopXdr.scalar),
  ("unblock-mrt", g.unblockMrt.scalar)]

/-- The options of a restore under their keys. -/
def Restore.entries (g : Restore Given) : List (String × Option Scalar) :=
  Transfer.entries g.transfer ++ [
  ("input-file", g.inputFile.scalar), ("directory-list", g.directoryList.scalar),
  ("parent-directory", g.parentDirectory.scalar), ("mode", g.mode.scalar),
  ("disable-batch-writes", g.disableBatchWrites.scalar), ("batch-size", g.batchSize.scalar),
  ("max-async-batches", g.maxAsyncBatches.scalar), ("warm-up", g.warmUp.scalar),
  ("extra-ttl", g.extraTtl.scalar), ("ignore-record-error", g.ignoreRecordError.scalar),
  ("unique", g.unique.scalar), ("replace", g.replace.scalar),
  ("no-generation", g.noGeneration.scalar), ("retry-base-interval", g.retryBaseInterval.scalar),
  ("retry-multiplier", g.retryMultiplier.scalar), ("retry-max-attempts", g.retryMaxAttempts.scalar),
  ("validate-only", g.validateOnly.scalar), ("apply-metadata-last", g.applyMetadataLast.scalar)]

/-- The options of compression under their keys. -/
def Compression.entries (g : Compression Given) : List (String × Option Scalar) := [
  ("mode", g.mode.scalar), ("level", g.level.scalar)]

/-- The options of encryption under their keys. -/
def Encryption.entries (g : Encryption Given) : List (String × Option Scalar) := [
  ("mode", g.mode.scalar), ("key-file", g.keyFile.scalar), ("key-env", g.keyEnv.scalar),
  ("key-secret", g.keySecret.scalar)]

/-- The options of the secret agent under their keys. -/
def SecretAgent.entries (g : SecretAgent Given) : List (String × Option Scalar) := [
  ("connection-type", g.connectionType.scalar), ("address", g.address.scalar),
  ("port", g.port.scalar), ("timeout", g.timeout.scalar), ("ca-file", g.caFile.scalar),
  ("tls-name", g.tlsName.scalar), ("cert-file", g.certFile.scalar), ("key-file", g.keyFile.scalar),
  ("is-base64", g.isBase64.scalar)]

/-- The options that the cloud stores share under their keys. -/
def CloudTuning.entries (g : CloudTuning Given) : List (String × Option Scalar) := [
  ("max-conns-per-host", g.maxConnsPerHost.scalar), ("request-timeout", g.requestTimeout.scalar),
  ("calculate-checksum", g.calculateChecksum.scalar),
  ("retry-read-backoff", g.retryReadBackoff.scalar),
  ("retry-read-multiplier", g.retryReadMultiplier.scalar),
  ("retry-read-max-attempts", g.retryReadMaxAttempts.scalar)]

/-- The options of an S3 store under their keys. -/
def AwsS3.entries (g : AwsS3 Given) : List (String × Option Scalar) := [
  ("bucket-name", g.bucketName.scalar), ("region", g.region.scalar), ("profile", g.profile.scalar),
  ("endpoint-override", g.endpoint.scalar), ("access-key-id", g.accessKeyId.scalar),
  ("secret-access-key", g.secretAccessKey.scalar), ("storage-class", g.storageClass.scalar),
  ("access-tier", g.accessTier.scalar), ("retry-max-attempts", g.retryMaxAttempts.scalar),
  ("retry-max-backoff", g.retryMaxBackoff.scalar), ("retry-backoff", g.retryBackoff.scalar),
  ("chunk-size", g.chunkSize.scalar), ("upload-concurrency", g.uploadConcurrency.scalar),
  ("restore-poll-duration", g.restorePollDuration.scalar)] ++ CloudTuning.entries g.tuning

/-- The options of a GCP store under their keys. -/
def GcpStorage.entries (g : GcpStorage Given) : List (String × Option Scalar) := [
  ("key-file", g.keyFile.scalar), ("bucket-name", g.bucketName.scalar),
  ("endpoint-override", g.endpoint.scalar), ("retry-max-attempts", g.retryMaxAttempts.scalar),
  ("retry-init-backoff", g.retryBackoff.scalar), ("retry-max-backoff", g.retryBackoffMax.scalar),
  ("retry-backoff-multiplier", g.retryBackoffMultiplier.scalar), ("chunk-size", g.chunkSize.scalar),
  ("upload-concurrency", g.uploadConcurrency.scalar)] ++ CloudTuning.entries g.tuning

/-- The options of an Azure store under their keys. -/
def AzureBlob.entries (g : AzureBlob Given) : List (String × Option Scalar) := [
  ("account-name", g.accountName.scalar), ("account-key", g.accountKey.scalar),
  ("tenant-id", g.tenantId.scalar), ("client-id", g.clientId.scalar),
  ("client-secret", g.clientSecret.scalar), ("endpoint-override", g.endpoint.scalar),
  ("container-name", g.containerName.scalar), ("access-tier", g.accessTier.scalar),
  ("rehydrate-poll-duration", g.restorePollDuration.scalar),
  ("retry-max-attempts", g.retryMaxAttempts.scalar), ("retry-delay", g.retryDelay.scalar),
  ("retry-max-delay", g.retryMaxDelay.scalar), ("block-size", g.blockSize.scalar),
  ("upload-concurrency", g.uploadConcurrency.scalar)] ++ CloudTuning.entries g.tuning

/-- The options of local files under their keys. -/
def LocalFiles.entries (g : LocalFiles Given) : List (String × Option Scalar) := [
  ("buffer-size", g.bufferSize.scalar)]

/-! ## Groups with a table -/

/-- A group with a table: the table has the key of each of its options, with the value that it
is given as a scalar, and no key is that of two options. -/
class KeyedGroup (G : (Type → Type) → Type) [OptionGroup G] where
  entries : G Given → List (String × Option Scalar)
  entries_eq (g : G Given) : entries g =
    (OptionGroup.settings (G := G)).map fun s => (s.key, (s.get g).map s.kind.scalar)
  nodup : ((OptionGroup.settings (G := G)).map Setting.key).Nodup

instance : KeyedGroup App where
  entries := App.entries
  entries_eq _ := rfl
  nodup := by decide

instance : KeyedGroup Cluster where
  entries := Cluster.entries
  entries_eq _ := rfl
  nodup := by decide

instance : KeyedGroup Scan where
  entries := Scan.entries
  entries_eq _ := rfl
  nodup := by decide

instance : KeyedGroup ChangeFeed where
  entries := ChangeFeed.entries
  entries_eq _ := rfl
  nodup := by decide

instance : KeyedGroup Restore where
  entries := Restore.entries
  entries_eq _ := rfl
  nodup := by decide

instance : KeyedGroup Compression where
  entries := Compression.entries
  entries_eq _ := rfl
  nodup := by decide

instance : KeyedGroup Encryption where
  entries := Encryption.entries
  entries_eq _ := rfl
  nodup := by decide

instance : KeyedGroup SecretAgent where
  entries := SecretAgent.entries
  entries_eq _ := rfl
  nodup := by decide

instance : KeyedGroup AwsS3 where
  entries := AwsS3.entries
  entries_eq _ := rfl
  nodup := by decide

instance : KeyedGroup GcpStorage where
  entries := GcpStorage.entries
  entries_eq _ := rfl
  nodup := by decide

instance : KeyedGroup AzureBlob where
  entries := AzureBlob.entries
  entries_eq _ := rfl
  nodup := by decide

instance : KeyedGroup LocalFiles where
  entries := LocalFiles.entries
  entries_eq _ := rfl
  nodup := by decide

instance : (n : Section) → KeyedGroup n.Group
  | .app => inferInstanceAs (KeyedGroup App)
  | .cluster => inferInstanceAs (KeyedGroup Cluster)
  | .scan => inferInstanceAs (KeyedGroup Scan)
  | .changeFeed => inferInstanceAs (KeyedGroup ChangeFeed)
  | .restore => inferInstanceAs (KeyedGroup Restore)
  | .compression => inferInstanceAs (KeyedGroup Compression)
  | .encryption => inferInstanceAs (KeyedGroup Encryption)
  | .secretAgent => inferInstanceAs (KeyedGroup SecretAgent)
  | .awsS3 => inferInstanceAs (KeyedGroup AwsS3)
  | .gcpStorage => inferInstanceAs (KeyedGroup GcpStorage)
  | .azureBlob => inferInstanceAs (KeyedGroup AzureBlob)
  | .localFiles => inferInstanceAs (KeyedGroup LocalFiles)

/-! ## Documents of a layer -/

namespace Document

/-- The document spells the options of a section. -/
def SpellsGroup {G : (Type → Type) → Type} [OptionGroup G] [KeyedGroup G] (g : G Given)
    (d : Document) : Prop :=
  d.SpellsTable ((KeyedGroup.entries g).map fun t => (t.1, t.2.map fun v d => d.Spells v))

/-- The document spells the section of a vendor, with that of its store under the key. -/
def SpellsVendor {G : (Type → Type) → Type} [OptionGroup G] [KeyedGroup G] (key : String)
    (v : Vendor G) (d : Document) : Prop :=
  d.SpellsTable [(key, v.store.map SpellsGroup)]

/-- The document spells the layer. -/
def SpellsLayer (l : Layer) (d : Document) : Prop :=
  d.SpellsTable [
    ("app", l.app.map SpellsGroup),
    ("cluster", l.cluster.map SpellsGroup),
    ("backup", l.scan.map SpellsGroup),
    ("xdr", l.changeFeed.map SpellsGroup),
    ("restore", l.restore.map SpellsGroup),
    ("compression", l.compression.map SpellsGroup),
    ("encryption", l.encryption.map SpellsGroup),
    ("secret-agent", l.secretAgent.map SpellsGroup),
    ("aws", l.aws.map (SpellsVendor "s3")),
    ("gcp", l.gcp.map (SpellsVendor "storage")),
    ("azure", l.azure.map (SpellsVendor "blob")),
    ("local", l.localFiles.map SpellsGroup)]

/-- Every layer is spelled by a document. -/
theorem exists_spellsLayer (l : Layer) : ∃ d, SpellsLayer l d := by
  have hgroup {G : (Type → Type) → Type} [OptionGroup G] [KeyedGroup G] (given : Option (G Given))
      (spells : Document → Prop) (h : given.map SpellsGroup = some spells) : ∃ d, spells d := by
    obtain ⟨g, -, rfl⟩ := Option.map_eq_some_iff.1 h
    refine exists_spellsTable (List.forall_mem_map.2 fun t _ spells hspells => ?_)
    obtain ⟨v, -, rfl⟩ := Option.map_eq_some_iff.1 hspells
    exact ⟨.fixed v, .inl rfl⟩
  have hvendor {G : (Type → Type) → Type} [OptionGroup G] [KeyedGroup G] (key : String)
      (given : Option (Vendor G)) (spells : Document → Prop)
      (h : given.map (SpellsVendor key) = some spells) : ∃ d, spells d := by
    obtain ⟨v, -, rfl⟩ := Option.map_eq_some_iff.1 h
    exact exists_spellsTable (List.forall_mem_singleton.2 (hgroup v.store))
  apply exists_spellsTable
  simp only [List.forall_mem_cons, List.not_mem_nil, false_implies, implies_true, and_true]
  exact ⟨hgroup _, hgroup _, hgroup _, hgroup _, hgroup _, hgroup _, hgroup _, hgroup _,
    hvendor _ _, hvendor _ _, hvendor _ _, hgroup _⟩

end Document

end BackupControl
