/-
# Names in payloads

No object of a payload has two members of one name, not even that of a cloud store, where the
options of every store stand beside its own.  So an engine that reads the members by their names
finds all of a job in either text of its payload.

Main statement: `payload_names_lead_to_values`.
-/
import BackupControl.Job.Payload
import BackupControl.Proofs.Job.Reals
import BackupControl.Proofs.Json.Members

namespace BackupControl

/-! ## Values of a payload -/

namespace Json

variable {α : Type} {f : α → Json}

theorem namesApart_nat (n : Nat) : (nat n).NamesApart := .int n

/-- What may be absent has different names if it has them when it is there. -/
theorem namesApart_optional (h : ∀ a, (f a).NamesApart) (x : Option α) :
    (optional f x).NamesApart := by
  cases x with
  | none => exact .null
  | some a => exact h a

/-- A list of what has different names has them. -/
theorem namesApart_list (h : ∀ a, (f a).NamesApart) (xs : List α) : (list f xs).NamesApart :=
  .arr (List.forall_mem_map.2 fun a _ => h a)

theorem namesApart_optionalText (x : Option String) : (optionalText x).NamesApart :=
  namesApart_optional .str x

theorem namesApart_texts (xs : List String) : (texts xs).NamesApart := namesApart_list .str xs

end Json

attribute [local simp] Json.namesApart_obj_iff Json.namesApart_nat Json.namesApart_optionalText
  Json.namesApart_texts Json.NamesApart.null Json.NamesApart.bool Json.NamesApart.int
  Json.NamesApart.real Json.NamesApart.str

theorem Span.namesApart_payload (s : Span) : s.payload.NamesApart := by simp [payload]

theorem TlsConfig.namesApart_payload (c : TlsConfig) : c.payload.NamesApart := by simp [payload]

theorem ClusterConfig.namesApart_payload (c : ClusterConfig) : c.payload.NamesApart := by
  simp [payload, Span.namesApart_payload, Json.namesApart_optional TlsConfig.namesApart_payload]

theorem AgentConfig.namesApart_payload (c : AgentConfig) : c.payload.NamesApart := by
  simp [payload, Json.namesApart_optional fun _ => Json.namesApart_nat _]

theorem InfoPolicy.namesApart_payload (p : InfoPolicy) : p.payload.NamesApart := by
  simp [payload, Span.namesApart_payload]

theorem RetryPolicy.namesApart_payload (p : RetryPolicy) : p.payload.NamesApart := by
  simp [payload, Span.namesApart_payload]

theorem namesApart_bytesPayload (bytes : List UInt8) : (bytesPayload bytes).NamesApart :=
  Json.namesApart_list (fun _ => Json.namesApart_nat _) bytes

theorem ScanPolicy.namesApart_payload (p : ScanPolicy) : p.payload.NamesApart := by
  simp [payload, Span.namesApart_payload, Json.namesApart_optional namesApart_bytesPayload]

theorem WritePolicy.namesApart_payload (p : WritePolicy) : p.payload.NamesApart := by
  simp [payload, Span.namesApart_payload]

theorem CompressionPolicy.namesApart_payload (p : CompressionPolicy) :
    p.payload.NamesApart := by
  simp [payload]

theorem EncryptionPolicy.namesApart_payload (p : EncryptionPolicy) : p.payload.NamesApart := by
  simp [payload]

theorem PartitionFilter.namesApart_payload (f : PartitionFilter) : f.payload.NamesApart := by
  have hcursor : ∀ c : DigestCursor, c.payload.NamesApart := by
    intro c
    simp [DigestCursor.payload, namesApart_bytesPayload]
  simp [payload, Json.namesApart_optional hcursor]

-- what a scan, a change feed and a restore share
attribute [local simp] Json.namesApart_optional Json.namesApart_list
  InfoPolicy.namesApart_payload RetryPolicy.namesApart_payload
  CompressionPolicy.namesApart_payload EncryptionPolicy.namesApart_payload
  AgentConfig.namesApart_payload Span.namesApart_payload

theorem ScanConfig.namesApart_payload (c : ScanConfig) : c.payload.NamesApart := by
  have hinstant : ∀ t : Instant, t.payload.NamesApart := fun t => .str t.text
  simp [payload, ScanPolicy.namesApart_payload, PartitionFilter.namesApart_payload, hinstant]

theorem FeedConfig.namesApart_payload (c : FeedConfig) : c.payload.NamesApart := by
  simp [payload]

theorem RestoreConfig.namesApart_payload (c : RestoreConfig) : c.payload.NamesApart := by
  have hsource : ∀ s : RestoreSource, s.payload.NamesApart := by
    intro s
    cases s <;> simp [RestoreSource.payload]
  have hpair : ∀ p : NamespacePair, p.payload.NamesApart := by
    intro p
    simp [NamespacePair.payload]
  simp [payload, WritePolicy.namesApart_payload, hsource, hpair]

/-- The options of every cloud store have other names than those of each store, and than the kind
of the store. -/
theorem Target.namesApart_payload (t : Target) : t.payload.NamesApart := by
  cases t <;>
    simp [payload, LocalFiles.payloadMembers, AwsS3.payloadMembers, GcpStorage.payloadMembers,
      AzureBlob.payloadMembers, CloudTuning.payloadMembers]

theorem BackupJob.namesApart_payload (j : BackupJob) : j.payload.NamesApart := by
  simp [payload, ClusterConfig.namesApart_payload, ScanConfig.namesApart_payload,
    FeedConfig.namesApart_payload, Target.namesApart_payload]

theorem RestoreJob.namesApart_payload (j : RestoreJob) : j.payload.NamesApart := by
  simp [payload, ClusterConfig.namesApart_payload, RestoreConfig.namesApart_payload,
    Target.namesApart_payload]

/-! ## Reading by name -/

/-- In both texts of a value with different names a reader finds just what the names lead to. -/
theorem Json.bind_at?_ofText?_eq_some_iff {v w : Json} {names : List String} {text : String}
    (hfinite : v.HasFiniteReals) (hnames : v.NamesApart)
    (htext : text = v.compact ∨ text = v.pretty) :
    (ofText? text).bind (at? names) = some w ↔ Leads names v w := by
  have hread : ofText? text = some v := by
    rcases htext with rfl | rfl
    · exact ofText?_compact hfinite
    · exact ofText?_pretty hfinite
  rw [hread, Option.bind_some, at?_eq_some_iff hnames]

/-- **Reading by name.**  Whoever reads the text of a job, on one line or over several, and asks
for one name after another finds just the value to which the names lead in the payload, if every
binary fraction of the job is a finite number. -/
theorem payload_names_lead_to_values (names : List String) (v : Json) :
    (∀ (j : BackupJob) (text : String), j.HasFiniteReals →
      text = j.payload.compact ∨ text = j.payload.pretty →
      ((Json.ofText? text).bind (Json.at? names) = some v ↔ Json.Leads names j.payload v)) ∧
    ∀ (j : RestoreJob) (text : String), j.HasFiniteReals →
      text = j.payload.compact ∨ text = j.payload.pretty →
      ((Json.ofText? text).bind (Json.at? names) = some v ↔ Json.Leads names j.payload v) := by
  constructor
  · intro j text hj
    exact Json.bind_at?_ofText?_eq_some_iff (BackupJob.hasFiniteReals_payload hj)
      j.namesApart_payload
  · intro j text hj
    exact Json.bind_at?_ofText?_eq_some_iff (RestoreJob.hasFiniteReals_payload hj)
      j.namesApart_payload

end BackupControl
