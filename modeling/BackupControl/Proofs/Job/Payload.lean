/-
# Payloads tell their jobs

The members of every object in a payload come in one order, so equal payloads agree member by
member, and each member tells one field.  Instants are the only fields that their texts do not
tell apart.
-/
import BackupControl.Job.Payload
import BackupControl.Proofs.Calendar.InstantText

namespace BackupControl

/-! ## Values that tell -/

/-- A form tells values apart, and all of them from an absent one. -/
structure Faithful {α : Type} (f : α → Json) : Prop where
  injective : Function.Injective f
  ne_null : ∀ a, f a ≠ .null

namespace Json

@[simp]
theorem nat_inj {m n : Nat} : nat m = nat n ↔ m = n := by
  rw [nat, nat, Json.int.injEq, Int.natCast_inj]

/-- A value that may be absent is told from an absent one, if it is never null itself. -/
theorem optional_eq_iff {α : Type} {f : α → Json} (hnull : ∀ a, f a ≠ .null) {x y : Option α} :
    optional f x = optional f y ↔ x.map f = y.map f := by
  cases x with
  | none =>
    cases y with
    | none => exact iff_of_true rfl rfl
    | some b => exact iff_of_false (hnull b).symm nofun
  | some a =>
    cases y with
    | none => exact iff_of_false (hnull a) nofun
    | some b => exact Option.some_inj.symm

end Json

namespace Faithful

variable {α : Type} {f : α → Json} (h : Faithful f)

include h

theorem eq_iff {a b : α} : f a = f b ↔ a = b := h.injective.eq_iff

theorem optional_eq_iff {x y : Option α} : Json.optional f x = Json.optional f y ↔ x = y := by
  rw [Json.optional_eq_iff h.ne_null, (Option.map_injective h.injective).eq_iff]

theorem list_eq_iff {xs ys : List α} : Json.list f xs = Json.list f ys ↔ xs = ys := by
  rw [Json.list, Json.list, Json.arr.injEq, (List.map_injective_iff.2 h.injective).eq_iff]

/-- A list of what is told is told. -/
theorem list : Faithful (Json.list f) := ⟨fun _ _ => h.list_eq_iff.1, nofun⟩

end Faithful

theorem faithful_str : Faithful Json.str := ⟨fun _ _ => Json.str.inj, nofun⟩

/-- A natural number tells what is told by its number. -/
theorem faithful_nat {α : Type} {f : α → Nat} (h : Function.Injective f) :
    Faithful fun a => Json.nat (f a) :=
  ⟨fun _ _ heq => h (Json.nat_inj.1 heq), nofun⟩

@[simp]
theorem Json.optionalText_inj {x y : Option String} : optionalText x = optionalText y ↔ x = y :=
  faithful_str.optional_eq_iff

@[simp]
theorem Json.texts_inj {xs ys : List String} : texts xs = texts ys ↔ xs = ys :=
  faithful_str.list_eq_iff

-- numbers of a certain width are told by their values
attribute [local simp] UInt16.toNat_inj UInt32.toNat_inj UInt64.toNat_inj Int32.toInt_inj
  Int64.toInt_inj

/-! ## Connections -/

theorem Span.faithful : Faithful Span.payload where
  injective s t h := by
    cases s
    cases t
    simpa [Span.payload] using h
  ne_null _ h := Json.noConfusion h

theorem TlsConfig.faithful : Faithful TlsConfig.payload where
  injective c d h := by
    cases c
    cases d
    simpa [TlsConfig.payload] using h
  ne_null _ h := Json.noConfusion h

theorem ClusterConfig.faithful : Faithful ClusterConfig.payload where
  injective c d h := by
    cases c
    cases d
    simpa [ClusterConfig.payload, TlsConfig.faithful.optional_eq_iff, Span.faithful.eq_iff] using h
  ne_null _ h := Json.noConfusion h

theorem AgentConfig.faithful : Faithful AgentConfig.payload where
  injective c d h := by
    have hport := faithful_nat (f := UInt16.toNat) fun _ _ => UInt16.toNat_inj.1
    have htimeout := faithful_nat (f := UInt64.toNat) fun _ _ => UInt64.toNat_inj.1
    cases c
    cases d
    simpa [AgentConfig.payload, hport.optional_eq_iff, htimeout.optional_eq_iff] using h
  ne_null _ h := Json.noConfusion h

/-! ## Policies -/

theorem InfoPolicy.faithful : Faithful InfoPolicy.payload where
  injective p q h := by
    cases p
    cases q
    simpa [InfoPolicy.payload, Span.faithful.eq_iff] using h
  ne_null _ h := Json.noConfusion h

theorem RetryPolicy.faithful : Faithful RetryPolicy.payload where
  injective p q h := by
    cases p
    cases q
    simpa [RetryPolicy.payload, Span.faithful.eq_iff] using h
  ne_null _ h := Json.noConfusion h

theorem ReplicaPolicy.word_injective : Function.Injective ReplicaPolicy.word := by
  intro a b
  cases a <;> cases b <;> decide

theorem RecordExistsAction.word_injective : Function.Injective RecordExistsAction.word := by
  intro a b
  cases a <;> cases b <;> decide

theorem GenerationPolicy.word_injective : Function.Injective GenerationPolicy.word := by
  intro a b
  cases a <;> cases b <;> decide

theorem faithful_bytes : Faithful bytesPayload :=
  (faithful_nat (f := UInt8.toNat) fun _ _ => UInt8.toNat_inj.1).list

theorem ScanPolicy.faithful : Faithful ScanPolicy.payload where
  injective p q h := by
    cases p
    cases q
    simpa [ScanPolicy.payload, Span.faithful.eq_iff, faithful_bytes.optional_eq_iff,
      ReplicaPolicy.word_injective.eq_iff] using h
  ne_null _ h := Json.noConfusion h

theorem WritePolicy.faithful : Faithful WritePolicy.payload where
  injective p q h := by
    cases p
    cases q
    simpa [WritePolicy.payload, Span.faithful.eq_iff, RecordExistsAction.word_injective.eq_iff,
      GenerationPolicy.word_injective.eq_iff] using h
  ne_null _ h := Json.noConfusion h

theorem CompressionPolicy.faithful : Faithful CompressionPolicy.payload where
  injective p q h := by
    cases p
    cases q
    simpa [CompressionPolicy.payload] using h
  ne_null _ h := Json.noConfusion h

theorem EncryptionPolicy.faithful : Faithful EncryptionPolicy.payload where
  injective p q h := by
    cases p
    cases q
    simpa [EncryptionPolicy.payload] using h
  ne_null _ h := Json.noConfusion h

/-! ## Storage -/

/-- The options of every cloud store are told. -/
theorem CloudTuning.payloadMembers_injective : Function.Injective CloudTuning.payloadMembers := by
  intro g g' h
  cases g
  cases g'
  simpa [CloudTuning.payloadMembers] using h

theorem AwsS3.payloadMembers_injective : Function.Injective AwsS3.payloadMembers := by
  intro g g' h
  cases g
  cases g'
  simpa [AwsS3.payloadMembers,
    CloudTuning.payloadMembers_injective.eq_iff] using h

theorem GcpStorage.payloadMembers_injective : Function.Injective GcpStorage.payloadMembers := by
  intro g g' h
  cases g
  cases g'
  simpa [GcpStorage.payloadMembers,
    CloudTuning.payloadMembers_injective.eq_iff] using h

theorem AzureBlob.payloadMembers_injective : Function.Injective AzureBlob.payloadMembers := by
  intro g g' h
  cases g
  cases g'
  simpa [AzureBlob.payloadMembers,
    CloudTuning.payloadMembers_injective.eq_iff] using h

theorem LocalFiles.payloadMembers_injective : Function.Injective LocalFiles.payloadMembers := by
  intro g g' h
  cases g
  cases g'
  simpa [LocalFiles.payloadMembers] using h

/-- The word for the kind of a store comes first, and after it the options of that kind. -/
theorem Target.faithful : Faithful Target.payload where
  injective t t' h := by
    obtain ⟨hprovider, hmembers⟩ := List.cons.inj (Json.obj.inj h)
    have hword : t.provider = t'.provider := Json.str.inj (Prod.mk.inj hprovider).2
    cases t with
    | localFiles g =>
      cases t' with
      | localFiles g' => rw [LocalFiles.payloadMembers_injective hmembers]
      | _ => exact absurd hword (by simp [provider])
    | awsS3 g =>
      cases t' with
      | awsS3 g' => rw [AwsS3.payloadMembers_injective hmembers]
      | _ => exact absurd hword (by simp [provider])
    | gcpStorage g =>
      cases t' with
      | gcpStorage g' => rw [GcpStorage.payloadMembers_injective hmembers]
      | _ => exact absurd hword (by simp [provider])
    | azureBlob g =>
      cases t' with
      | azureBlob g' => rw [AzureBlob.payloadMembers_injective hmembers]
      | _ => exact absurd hword (by simp [provider])
  ne_null _ h := Json.noConfusion h

/-! ## Backups -/

theorem DigestCursor.faithful : Faithful DigestCursor.payload where
  injective c d h := by
    cases c
    cases d
    simpa [DigestCursor.payload, faithful_bytes.eq_iff] using h
  ne_null _ h := Json.noConfusion h

theorem PartitionFilter.faithful : Faithful PartitionFilter.payload where
  injective p q h := by
    cases p
    cases q
    simpa [PartitionFilter.payload, DigestCursor.faithful.optional_eq_iff] using h
  ne_null _ h := Json.noConfusion h

theorem FeedConfig.faithful : Faithful FeedConfig.payload where
  injective c d h := by
    cases c
    cases d
    simpa [FeedConfig.payload, CompressionPolicy.faithful.optional_eq_iff,
      EncryptionPolicy.faithful.optional_eq_iff, AgentConfig.faithful.optional_eq_iff,
      InfoPolicy.faithful.eq_iff, RetryPolicy.faithful.eq_iff, Span.faithful.eq_iff] using h
  ne_null _ h := Json.noConfusion h

/-- A bound on the modification time is told as it shows. -/
theorem Instant.optional_payload_eq_iff {x y : Option Instant} :
    Json.optional Instant.payload x = Json.optional Instant.payload y ↔
      x.map Instant.shown = y.map Instant.shown := by
  rw [Json.optional_eq_iff nofun]
  cases x with
  | none =>
    cases y with
    | none => exact iff_of_true rfl rfl
    | some t => exact iff_of_false nofun nofun
  | some t =>
    cases y with
    | none => exact iff_of_false nofun nofun
    | some t' =>
      simp only [Option.map_some, Option.some_inj, Instant.payload, Json.str.injEq,
        Instant.text_eq_iff]

/-- A scan whose bounds on the modification time are what their texts show. -/
def ScanConfig.shown (c : ScanConfig) : ScanConfig :=
  { c with
    modifiedBefore := c.modifiedBefore.map Instant.shown
    modifiedAfter := c.modifiedAfter.map Instant.shown }

/-- The payload of a scan tells it as it shows. -/
theorem ScanConfig.payload_eq_iff {c d : ScanConfig} :
    c.payload = d.payload ↔ c.shown = d.shown := by
  have hrack := faithful_nat (f := UInt32.toNat) fun _ _ => UInt32.toNat_inj.1
  cases c
  cases d
  simp [ScanConfig.payload, ScanConfig.shown, Instant.optional_payload_eq_iff, hrack.list_eq_iff,
    PartitionFilter.faithful.list_eq_iff, ScanPolicy.faithful.eq_iff,
    CompressionPolicy.faithful.optional_eq_iff, EncryptionPolicy.faithful.optional_eq_iff,
    AgentConfig.faithful.optional_eq_iff, InfoPolicy.faithful.eq_iff, RetryPolicy.faithful.eq_iff]

/-- The backup whose scan is what its payload shows. -/
def BackupJob.shown (j : BackupJob) : BackupJob := { j with scan := j.scan.shown }

/-- The payload of a backup tells it as it shows. -/
theorem BackupJob.payload_eq_iff {j j' : BackupJob} :
    j.payload = j'.payload ↔ j.shown = j'.shown := by
  cases j
  cases j'
  simp [BackupJob.payload, BackupJob.shown, ClusterConfig.faithful.eq_iff,
    ScanConfig.payload_eq_iff, FeedConfig.faithful.optional_eq_iff, Target.faithful.eq_iff]

/-! ## Restores -/

theorem NamespacePair.faithful : Faithful NamespacePair.payload where
  injective p q h := by
    cases p
    cases q
    simpa [NamespacePair.payload] using h
  ne_null _ h := Json.noConfusion h

theorem RestoreSource.faithful : Faithful RestoreSource.payload where
  injective a b h := by
    cases a <;> cases b <;> simp [RestoreSource.payload] at h ⊢ <;> exact h
  ne_null a := by cases a <;> exact nofun

theorem RestoreMode.word_injective : Function.Injective RestoreMode.word := by
  intro a b
  cases a <;> cases b <;> decide

theorem RestoreConfig.faithful : Faithful RestoreConfig.payload where
  injective c d h := by
    cases c
    cases d
    simpa [RestoreConfig.payload, NamespacePair.faithful.optional_eq_iff,
      RestoreSource.faithful.optional_eq_iff, RestoreMode.word_injective.eq_iff,
      WritePolicy.faithful.eq_iff, InfoPolicy.faithful.eq_iff, RetryPolicy.faithful.eq_iff,
      CompressionPolicy.faithful.optional_eq_iff, EncryptionPolicy.faithful.optional_eq_iff,
      AgentConfig.faithful.optional_eq_iff] using h
  ne_null _ h := Json.noConfusion h

theorem RestoreJob.faithful : Faithful RestoreJob.payload where
  injective j j' h := by
    cases j
    cases j'
    simpa [RestoreJob.payload, ClusterConfig.faithful.eq_iff, RestoreConfig.faithful.eq_iff,
      Target.faithful.eq_iff] using h
  ne_null _ h := Json.noConfusion h

end BackupControl
