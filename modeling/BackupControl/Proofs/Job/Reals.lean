/-
# Binary fractions of jobs

The only numbers of a job that are not whole are the factors between the pauses of retries.
They are the binary fractions of its payload, in the same order.
-/
import BackupControl.Job.Payload
import BackupControl.Proofs.Json.Written

namespace BackupControl

/-! ## Jobs -/

/-- The binary fractions among the options of a store. -/
def Target.reals : Target → List Binary64
  | .localFiles _ => []
  | .awsS3 g => [g.tuning.retryReadMultiplier]
  | .gcpStorage g => [g.retryBackoffMultiplier, g.tuning.retryReadMultiplier]
  | .azureBlob g => [g.tuning.retryReadMultiplier]

/-- The binary fractions of a backup. -/
def BackupJob.reals (j : BackupJob) : List Binary64 :=
  j.scan.infoRetryPolicy.multiplier ::
    ((j.changeFeed.map (·.infoRetryPolicy.multiplier)).toList ++ j.storage.reals)

/-- The binary fractions of a restore. -/
def RestoreJob.reals (j : RestoreJob) : List Binary64 :=
  j.restore.infoRetryPolicy.multiplier :: j.restore.writeRetryPolicy.multiplier :: j.storage.reals

/-- Every binary fraction of the backup is a finite number. -/
def BackupJob.HasFiniteReals (j : BackupJob) : Prop := ∀ x ∈ j.reals, x.isFinite = true

/-- Every binary fraction of the restore is a finite number. -/
def RestoreJob.HasFiniteReals (j : RestoreJob) : Prop := ∀ x ∈ j.reals, x.isFinite = true

instance (j : BackupJob) : Decidable j.HasFiniteReals :=
  inferInstanceAs (Decidable (∀ x ∈ j.reals, x.isFinite = true))

instance (j : RestoreJob) : Decidable j.HasFiniteReals :=
  inferInstanceAs (Decidable (∀ x ∈ j.reals, x.isFinite = true))

/-! ## Payloads -/

namespace Json

variable {α : Type} {f : α → Json}

@[simp]
theorem reals_nat (n : Nat) : (nat n).reals = [] := rfl

/-- What may be absent has no fractions if it has none when it is there. -/
theorem reals_optional (h : ∀ a, (f a).reals = []) (x : Option α) : (optional f x).reals = [] := by
  cases x with
  | none => rfl
  | some a => exact h a

/-- A list of what has no fractions has none. -/
theorem reals_list (h : ∀ a, (f a).reals = []) (xs : List α) : (list f xs).reals = [] := by
  induction xs with
  | nil => rfl
  | cons a xs ih =>
    have hcons : (list f (a :: xs)).reals = (f a).reals ++ (list f xs).reals := rfl
    rw [hcons, h a, ih, List.nil_append]

@[simp]
theorem reals_optionalText (x : Option String) : (optionalText x).reals = [] :=
  reals_optional (fun _ => rfl) x

@[simp]
theorem reals_texts (xs : List String) : (texts xs).reals = [] := reals_list (fun _ => rfl) xs

end Json

attribute [local simp] Json.reals Json.memberReals

theorem TlsConfig.reals_payload (c : TlsConfig) : c.payload.reals = [] := by simp [payload]

theorem ClusterConfig.reals_payload (c : ClusterConfig) : c.payload.reals = [] := by
  simp [payload, Span.payload, Json.reals_optional TlsConfig.reals_payload]

theorem AgentConfig.reals_payload (c : AgentConfig) : c.payload.reals = [] := by
  simp [payload, Json.reals_optional fun _ => Json.reals_nat _]

theorem CompressionPolicy.reals_payload (p : CompressionPolicy) : p.payload.reals = [] := by
  simp [payload]

theorem EncryptionPolicy.reals_payload (p : EncryptionPolicy) : p.payload.reals = [] := by
  simp [payload]

theorem reals_bytesPayload (bytes : List UInt8) : (bytesPayload bytes).reals = [] :=
  Json.reals_list (fun _ => rfl) bytes

theorem ScanPolicy.reals_payload (p : ScanPolicy) : p.payload.reals = [] := by
  simp [payload, Span.payload, Json.reals_optional reals_bytesPayload]

theorem WritePolicy.reals_payload (p : WritePolicy) : p.payload.reals = [] := by
  simp [payload, Span.payload]

theorem RetryPolicy.reals_payload (p : RetryPolicy) : p.payload.reals = [p.multiplier] := by
  simp [payload, Span.payload]

theorem PartitionFilter.reals_payload (f : PartitionFilter) : f.payload.reals = [] := by
  have hcursor : ∀ c : DigestCursor, c.payload.reals = [] := by
    intro c
    simp [DigestCursor.payload, reals_bytesPayload]
  simp [payload, Json.reals_optional hcursor]

/-- The fractions of a scan: that of its retries. -/
theorem ScanConfig.reals_payload (c : ScanConfig) :
    c.payload.reals = [c.infoRetryPolicy.multiplier] := by
  simp [payload, InfoPolicy.payload, Span.payload, ScanPolicy.reals_payload,
    RetryPolicy.reals_payload, Json.reals_list PartitionFilter.reals_payload,
    Json.reals_list fun _ => Json.reals_nat _,
    Json.reals_optional, CompressionPolicy.reals_payload, EncryptionPolicy.reals_payload,
    AgentConfig.reals_payload, Instant.payload]

/-- The fractions of a change feed: that of its retries. -/
theorem FeedConfig.reals_payload (c : FeedConfig) :
    c.payload.reals = [c.infoRetryPolicy.multiplier] := by
  simp [payload, InfoPolicy.payload, Span.payload, RetryPolicy.reals_payload, Json.reals_optional,
    CompressionPolicy.reals_payload, EncryptionPolicy.reals_payload, AgentConfig.reals_payload]

/-- The fractions of what a restore does: those of its two kinds of retries. -/
theorem RestoreConfig.reals_payload (c : RestoreConfig) :
    c.payload.reals = [c.infoRetryPolicy.multiplier, c.writeRetryPolicy.multiplier] := by
  have hsource : ∀ s : RestoreSource, s.payload.reals = [] := by
    intro s
    cases s <;> simp [RestoreSource.payload]
  have hpair : ∀ p : NamespacePair, p.payload.reals = [] := fun _ => rfl
  simp [payload, InfoPolicy.payload, Span.payload, RetryPolicy.reals_payload,
    WritePolicy.reals_payload, Json.reals_optional, hsource, hpair,
    CompressionPolicy.reals_payload, EncryptionPolicy.reals_payload, AgentConfig.reals_payload]

theorem Target.reals_payload (t : Target) : t.payload.reals = t.reals := by
  cases t <;>
    simp [payload, Target.reals, LocalFiles.payloadMembers, AwsS3.payloadMembers,
      GcpStorage.payloadMembers, AzureBlob.payloadMembers, CloudTuning.payloadMembers]

/-- The payload of a backup has the fractions of the backup. -/
theorem BackupJob.reals_payload (j : BackupJob) : j.payload.reals = j.reals := by
  have hfeed : (Json.optional FeedConfig.payload j.changeFeed).reals =
      (j.changeFeed.map (·.infoRetryPolicy.multiplier)).toList := by
    cases j.changeFeed with
    | none => rfl
    | some c => exact c.reals_payload
  simp [payload, reals, ClusterConfig.reals_payload, ScanConfig.reals_payload, hfeed,
    Target.reals_payload]

/-- The payload of a restore has the fractions of the restore. -/
theorem RestoreJob.reals_payload (j : RestoreJob) : j.payload.reals = j.reals := by
  simp [payload, reals, ClusterConfig.reals_payload, RestoreConfig.reals_payload,
    Target.reals_payload]

theorem BackupJob.hasFiniteReals_payload {j : BackupJob} (h : j.HasFiniteReals) :
    j.payload.HasFiniteReals := by
  rwa [Json.HasFiniteReals, reals_payload]

theorem RestoreJob.hasFiniteReals_payload {j : RestoreJob} (h : j.HasFiniteReals) :
    j.payload.HasFiniteReals := by
  rwa [Json.HasFiniteReals, reals_payload]

end BackupControl
