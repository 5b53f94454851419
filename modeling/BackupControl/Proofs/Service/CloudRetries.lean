/-
# Retries of reads from a cloud

A restore from a cloud store pauses before it retries a read, each time longer by a factor.  The
rules refuse what is below one, and not what is other than one or more.  A NaN is below no number,
so it is a factor that the rules let pass; every other factor that passes is at least one.

Main statement: `accepted_restore_backs_off_iff`.
-/
import BackupControl.Json.Render
import BackupControl.Proofs.Rules.Storage
import BackupControl.Proofs.Service.RestoreJob

namespace BackupControl

/-! ## Order -/

namespace Binary64

variable {x y : Binary64}

/-- What is at least another number is a number. -/
theorem isNaN_eq_false_of_le (h : y ≤ x) : x.isNaN = false := h.2.1

/-- What is not below a number is at least that, or a NaN. -/
theorem not_lt_iff (hy : y.isNaN = false) : ¬ x < y ↔ x.isNaN = true ∨ y ≤ x := by
  have hlt : x < y ↔ x.isNaN = false ∧ x.position < y.position :=
    ⟨fun h => ⟨h.1, h.2.2⟩, fun h => ⟨h.1, hy, h.2⟩⟩
  have hle : y ≤ x ↔ x.isNaN = false ∧ y.position ≤ x.position :=
    ⟨fun h => h.2, fun h => ⟨hy, h⟩⟩
  rw [hlt, hle]
  cases x.isNaN with
  | true => simp
  | false => simp only [true_and, Bool.false_eq_true, false_or, Int.not_lt]

end Binary64

/-! ## Rules -/

/-- What the rules of a restore ask of the options of every cloud store. -/
structure CloudTuning.FitsRestore (g : CloudTuning Settled) : Prop where
  connections : 0 ≤ g.maxConnsPerHost
  timeout : 0 ≤ g.requestTimeout
  pause : 0 ≤ g.retryReadBackoff
  factor : g.retryReadMultiplier.isNaN = true ∨ 1 ≤ g.retryReadMultiplier

/-- The options of every cloud store that a restore accepts. -/
theorem CloudTuning.check_restore_eq_ok_iff {g : CloudTuning Settled} :
    g.check .restore = .ok () ↔ g.FitsRestore := by
  have hone : (1 : Binary64).isNaN = false := by decide
  simp only [check, notNegative, check_bind_eq_ok_iff, ite_pure_eq_ok_iff, refuseIf_eq_ok_iff,
    Int64.not_lt, Binary64.not_lt_iff hone, forall_const]
  constructor
  · rintro ⟨hconnections, htimeout, hpause, hfactor⟩
    exact ⟨hconnections, htimeout, hpause, hfactor⟩
  · rintro ⟨hconnections, htimeout, hpause, hfactor⟩
    exact ⟨hconnections, htimeout, hpause, hfactor⟩

/-- What the rules of a restore ask of an S3 store besides. -/
structure AwsS3.FitsRestore (g : AwsS3 Settled) : Prop where
  bucket : g.bucketName ≠ ""
  attempts : 0 ≤ g.retryMaxAttempts
  longest : 0 ≤ g.retryMaxBackoff
  first : 0 ≤ g.retryBackoff
  poll : 1 ≤ g.restorePollDuration

/-- What the rules of a restore ask of a GCP store besides. -/
structure GcpStorage.FitsRestore (g : GcpStorage Settled) : Prop where
  bucket : g.bucketName ≠ ""
  attempts : 0 ≤ g.retryMaxAttempts
  first : 0 ≤ g.retryBackoff
  longest : 0 ≤ g.retryBackoffMax

/-- What the rules of a restore ask of an Azure store besides. -/
structure AzureBlob.FitsRestore (g : AzureBlob Settled) : Prop where
  container : g.containerName ≠ ""
  attempts : 0 ≤ g.retryMaxAttempts
  first : 0 ≤ g.retryDelay
  longest : 0 ≤ g.retryMaxDelay
  poll : 1 ≤ g.restorePollDuration

/-- The S3 stores that a restore accepts. -/
theorem AwsS3.check_restore_eq_ok_iff {g : AwsS3 Settled} :
    g.check .restore = .ok () ↔ g.FitsRestore ∧ g.tuning.FitsRestore := by
  simp only [check, notNegative, atLeastOne, check_bind_eq_ok_iff, refuseIf_eq_ok_iff,
    Int64.not_lt, CloudTuning.check_restore_eq_ok_iff]
  constructor
  · rintro ⟨hbucket, hattempts, hlongest, hfirst, hpoll, htuning⟩
    exact ⟨⟨hbucket, hattempts, hlongest, hfirst, hpoll⟩, htuning⟩
  · rintro ⟨⟨hbucket, hattempts, hlongest, hfirst, hpoll⟩, htuning⟩
    exact ⟨hbucket, hattempts, hlongest, hfirst, hpoll, htuning⟩

/-- The GCP stores that a restore accepts. -/
theorem GcpStorage.check_restore_eq_ok_iff {g : GcpStorage Settled} :
    g.check .restore = .ok () ↔ g.FitsRestore ∧ g.tuning.FitsRestore := by
  have hbackup : ¬ Operation.restore = .backup := nofun
  simp only [check, notNegative, if_neg hbackup, check_bind_eq_ok_iff, refuseIf_eq_ok_iff,
    Int64.not_lt, CloudTuning.check_restore_eq_ok_iff]
  constructor
  · rintro ⟨hbucket, hattempts, hfirst, hlongest, htuning⟩
    exact ⟨⟨hbucket, hattempts, hfirst, hlongest⟩, htuning⟩
  · rintro ⟨⟨hbucket, hattempts, hfirst, hlongest⟩, htuning⟩
    exact ⟨hbucket, hattempts, hfirst, hlongest, htuning⟩

/-- The Azure stores that a restore accepts. -/
theorem AzureBlob.check_restore_eq_ok_iff {g : AzureBlob Settled} :
    g.check .restore = .ok () ↔ g.FitsRestore ∧ g.tuning.FitsRestore := by
  simp only [check, notNegative, atLeastOne, check_bind_eq_ok_iff, refuseIf_eq_ok_iff,
    Int64.not_lt, CloudTuning.check_restore_eq_ok_iff]
  constructor
  · rintro ⟨hcontainer, hattempts, hfirst, hlongest, hpoll, htuning⟩
    exact ⟨⟨hcontainer, hattempts, hfirst, hlongest, hpoll⟩, htuning⟩
  · rintro ⟨⟨hcontainer, hattempts, hfirst, hlongest, hpoll⟩, htuning⟩
    exact ⟨hcontainer, hattempts, hfirst, hlongest, hpoll, htuning⟩

namespace Target

/-- The options of every cloud store, where the store is in a cloud. -/
def tuning? : Target → Option (CloudTuning Settled)
  | .localFiles _ => none
  | .awsS3 g => some g.tuning
  | .gcpStorage g => some g.tuning
  | .azureBlob g => some g.tuning

/-- The pause between looks at an object that is brought back, in the clouds that have one. -/
def pollDuration? : Target → Option Int64
  | .localFiles _ => none
  | .awsS3 g => some g.restorePollDuration
  | .gcpStorage _ => none
  | .azureBlob g => some g.restorePollDuration

/-- The store with another factor between the pauses of retries of a read. -/
def withFactor (factor : Binary64) : Target → Target
  | .localFiles g => .localFiles g
  | .awsS3 g => .awsS3 { g with tuning := { g.tuning with retryReadMultiplier := factor } }
  | .gcpStorage g =>
    .gcpStorage { g with tuning := { g.tuning with retryReadMultiplier := factor } }
  | .azureBlob g => .azureBlob { g with tuning := { g.tuning with retryReadMultiplier := factor } }

/-- What the rules of a restore ask of a cloud store besides the options of every cloud store. -/
def FitsRestore : Target → Prop
  | .localFiles _ => True
  | .awsS3 g => g.FitsRestore
  | .gcpStorage g => g.FitsRestore
  | .azureBlob g => g.FitsRestore

variable {t : Target} {g : CloudTuning Settled} {factor : Binary64}

/-- The cloud stores that a restore accepts. -/
theorem check_restore_eq_ok_iff (htuning : t.tuning? = some g) :
    t.check .restore = .ok () ↔ t.FitsRestore ∧ g.FitsRestore := by
  cases t with
  | localFiles => exact absurd htuning nofun
  | awsS3 =>
    obtain rfl := Option.some.inj htuning
    exact AwsS3.check_restore_eq_ok_iff
  | gcpStorage =>
    obtain rfl := Option.some.inj htuning
    exact GcpStorage.check_restore_eq_ok_iff
  | azureBlob =>
    obtain rfl := Option.some.inj htuning
    exact AzureBlob.check_restore_eq_ok_iff

/-- There is a pause between looks in the clouds that have one. -/
theorem FitsRestore.one_le_pollDuration (h : t.FitsRestore) {pause : Int64}
    (hpause : t.pollDuration? = some pause) : 1 ≤ pause := by
  cases t with
  | localFiles => exact absurd hpause nofun
  | awsS3 =>
    obtain rfl := Option.some.inj hpause
    exact h.poll
  | gcpStorage => exact absurd hpause nofun
  | azureBlob =>
    obtain rfl := Option.some.inj hpause
    exact h.poll

/-- Besides the options of every cloud store, nothing is asked of the factor. -/
theorem fitsRestore_withFactor : (t.withFactor factor).FitsRestore ↔ t.FitsRestore := by
  cases t with
  | localFiles => exact Iff.rfl
  | awsS3 =>
    exact ⟨fun h => ⟨h.bucket, h.attempts, h.longest, h.first, h.poll⟩,
      fun h => ⟨h.bucket, h.attempts, h.longest, h.first, h.poll⟩⟩
  | gcpStorage =>
    exact ⟨fun h => ⟨h.bucket, h.attempts, h.first, h.longest⟩,
      fun h => ⟨h.bucket, h.attempts, h.first, h.longest⟩⟩
  | azureBlob =>
    exact ⟨fun h => ⟨h.container, h.attempts, h.first, h.longest, h.poll⟩,
      fun h => ⟨h.container, h.attempts, h.first, h.longest, h.poll⟩⟩

/-- The options of every cloud store are the same but for the factor. -/
theorem tuning?_withFactor : (t.withFactor factor).tuning? =
    t.tuning?.map fun g => { g with retryReadMultiplier := factor } := by
  cases t <;> rfl

/-- A cloud store that a restore accepts is accepted with another factor just if that is a NaN or
at least one. -/
theorem check_withFactor_iff (h : t.check .restore = .ok ()) (htuning : t.tuning? = some g) :
    (t.withFactor factor).check .restore = .ok () ↔ factor.isNaN = true ∨ 1 ≤ factor := by
  obtain ⟨hfits, htuningFits⟩ := (check_restore_eq_ok_iff htuning).1 h
  have hother : (t.withFactor factor).tuning? = some { g with retryReadMultiplier := factor } := by
    rw [tuning?_withFactor, htuning, Option.map_some]
  rw [check_restore_eq_ok_iff hother, fitsRestore_withFactor]
  exact ⟨fun h => h.2.factor, fun hfactor => ⟨hfits, { htuningFits with factor := hfactor }⟩⟩

end Target

/-! ## Accepted restores -/

namespace RestoreService

variable {s : RestoreService}

/-- The job of a restore has the store of its infrastructure. -/
theorem storage_of_job {j : RestoreJob} (h : s.job = .ok j) :
    j.storage = s.infrastructure.stores.target := by
  rw [job, bind_eq_ok_iff] at h
  obtain ⟨_, -, h⟩ := h
  obtain rfl := pure_eq_ok_iff.1 h
  rfl

/-- The store of an accepted restore meets its rules. -/
theorem check_target_of_check (hcheck : s.check = .ok ()) :
    s.infrastructure.stores.target.check .restore = .ok () := by
  obtain ⟨-, -, hrest⟩ := (check_eq_ok_iff s).1 hcheck
  simp only [Infrastructure.checkRest, check_bind_eq_ok_iff] at hrest
  obtain ⟨-, -, -, hstores⟩ := hrest
  exact Stores.check_target_eq_ok ((Stores.check_eq_ok_iff .restore _).1 hstores).1

/-- **How an accepted restore retries reads from a cloud.**

A restore that was loaded has a job.  Where its store is in a cloud,

* the factor between pauses is at least one, unless it is a NaN;
* no pause before a retry, time of a request or number of connections is negative;
* there is a pause between looks at an object that is brought back;
* the rules take any other factor in its place just if that is a NaN or at least one. -/
theorem accepted_restore_backs_off_iff {d : Defaults} {resolver : SecretResolver} {l : Layer}
    (hload : (load d resolver l).result = .ok s) :
    ∃ j, s.job = .ok j ∧ ∀ g, j.storage.tuning? = some g →
      (1 ≤ g.retryReadMultiplier ↔ g.retryReadMultiplier.isNaN = false) ∧
      (0 ≤ g.retryReadBackoff ∧ 0 ≤ g.maxConnsPerHost ∧ 0 ≤ g.requestTimeout) ∧
      (∀ pause, j.storage.pollDuration? = some pause → 1 ≤ pause) ∧
      ∀ factor, (j.storage.withFactor factor).check .restore = .ok () ↔
        factor.isNaN = true ∨ 1 ≤ factor := by
  obtain ⟨-, -, hcheck⟩ := of_load_eq_ok hload
  obtain ⟨-, hrestore, -⟩ := (check_eq_ok_iff s).1 hcheck
  obtain ⟨j, hjob, -⟩ := exists_job_of_check hrestore
  refine ⟨j, hjob, fun g htuning => ?_⟩
  have htarget : j.storage.check .restore = .ok () := by
    rw [storage_of_job hjob]
    exact check_target_of_check hcheck
  obtain ⟨hstore, hfits⟩ := (Target.check_restore_eq_ok_iff htuning).1 htarget
  refine ⟨⟨Binary64.isNaN_eq_false_of_le, fun hnumber => ?_⟩,
    ⟨hfits.pause, hfits.connections, hfits.timeout⟩,
    fun _ hpause => hstore.one_le_pollDuration hpause,
    fun _ => Target.check_withFactor_iff htarget htuning⟩
  exact hfits.factor.resolve_left (Bool.eq_false_iff.1 hnumber)

/-- A restore from a bucket, with a factor between pauses. -/
def bucketLayer (factor : Given Binary64) : Layer :=
  { restore := some { (OptionGroup.unset : Restore Given) with
      transfer := { (OptionGroup.unset : Transfer Given) with
        nameSpace := some "test"
        directory := some "/b" } }
    aws := some { store := some { (OptionGroup.unset : AwsS3 Given) with
      bucketName := some "b"
      tuning := { (OptionGroup.unset : CloudTuning Given) with retryReadMultiplier := factor } } } }

/-- A restore from a bucket with the built-in factor is accepted, and backs off by one at least. -/
theorem accepted_restore_backs_off_iff_of_bucket :
    ∃ s j g, (load .builtIn BackupService.silentResolver (bucketLayer none)).result = .ok s ∧
      s.job = .ok j ∧ j.storage.tuning? = some g ∧ 1 ≤ g.retryReadMultiplier := by
  have hrun : (load .builtIn BackupService.silentResolver (bucketLayer none)).result.toOption.any
      (fun s => s.job.toOption.any fun j => j.storage.tuning?.any fun g =>
        !g.retryReadMultiplier.isNaN) = true := by
    decide +kernel
  obtain ⟨s, hs, hrun⟩ := (Option.any_eq_true ..).1 hrun
  obtain ⟨j, hj, hrun⟩ := (Option.any_eq_true ..).1 hrun
  obtain ⟨g, hg, hnumber⟩ := (Option.any_eq_true ..).1 hrun
  have hload := toOption_eq_some_iff.1 hs
  have hjob := toOption_eq_some_iff.1 hj
  obtain ⟨j', hjob', haccepted⟩ := accepted_restore_backs_off_iff hload
  obtain rfl := Except.ok.inj (hjob'.symm.trans hjob)
  exact ⟨s, j', g, hload, hjob', hg, (haccepted g hg).1.2 (by simpa using hnumber)⟩

/-- A restore from a bucket is accepted with a NaN for a factor, which its payload does not
show. -/
theorem factor_that_is_no_number_is_accepted :
    ∃ s j g, (load .builtIn BackupService.silentResolver (bucketLayer (some .nan))).result = .ok s ∧
      s.job = .ok j ∧ j.storage.tuning? = some g ∧ ¬ 1 ≤ g.retryReadMultiplier ∧
      (Json.real g.retryReadMultiplier).compact = "null" := by
  have hrun : (load .builtIn BackupService.silentResolver
      (bucketLayer (some .nan))).result.toOption.any
      (fun s => s.job.toOption.any fun j => j.storage.tuning?.any fun g =>
        g.retryReadMultiplier == .nan) = true := by
    decide +kernel
  obtain ⟨s, hs, hrun⟩ := (Option.any_eq_true ..).1 hrun
  obtain ⟨j, hj, hrun⟩ := (Option.any_eq_true ..).1 hrun
  obtain ⟨g, hg, hnan⟩ := (Option.any_eq_true ..).1 hrun
  refine ⟨s, j, g, toOption_eq_some_iff.1 hs, toOption_eq_some_iff.1 hj, hg, ?_, ?_⟩
  · rw [beq_iff_eq.1 hnan]
    decide
  · rw [beq_iff_eq.1 hnan]
    decide

end RestoreService

end BackupControl
