/-
# The text of a payload tells the job

The engine gets the payload of a job on one line, and `--print-config` shows it over several
lines.  Both texts denote one value, and this value tells the job, up to leap seconds that the
text of an instant cannot show.  No job has such a leap second in a zone of whole minutes.
-/
import BackupControl.Proofs.Calendar.LeapSecond
import BackupControl.Proofs.Job.Payload
import BackupControl.Proofs.Job.Reals
import BackupControl.Proofs.Service.Job

namespace BackupControl

/-! ## Jobs that show themselves -/

/-- In a zone of whole minutes the bound that a time option names shows itself. -/
theorem Machine.shown_of_readTime? {m : Machine} {input : String} {bound : Option Instant}
    (hzone : m.zone.KeepsMinutes) (h : m.readTime? input = .ok bound) :
    bound.map Instant.shown = bound := by
  unfold Machine.readTime? at h
  split at h
  · obtain rfl := Except.ok.inj h
    rfl
  · split at h
    · rename_i t hread
      obtain rfl := Except.ok.inj h
      rw [Option.map_some, shown_of_readTime hzone hread]
    · exact absurd h nofun

/-- In a zone of whole minutes every job shows itself. -/
theorem BackupService.shown_of_job {m : Machine} {s : BackupService} {j : BackupJob}
    (hzone : m.zone.KeepsMinutes) (h : s.job m = .ok j) : j.shown = j := by
  rw [job, bind_eq_ok_iff] at h
  obtain ⟨⟨c, feed⟩, hconfigs, h⟩ := h
  obtain rfl := pure_eq_ok_iff.1 h
  have hscan : c.shown = c := by
    unfold configs at hconfigs
    split at hconfigs
    · obtain ⟨c', hc, hpair⟩ := map_eq_ok_iff.1 hconfigs
      obtain ⟨rfl, -⟩ := Prod.mk.inj hpair
      have hfrom := ScanConfig.from_of_scanConfig (during_eq_ok_iff.1 hc)
      rw [ScanConfig.shown, Machine.shown_of_readTime? hzone hfrom.before,
        Machine.shown_of_readTime? hzone hfrom.after]
    · -- beside a change feed a scan has no bounds
      obtain ⟨rfl, -⟩ := Prod.mk.inj (Except.ok.inj hconfigs)
      rfl
    · cases hconfigs
  rw [BackupJob.shown, hscan]

/-! ## Texts -/

/-- Backups have one text just if they show alike. -/
theorem BackupJob.compact_payload_eq_iff {j j' : BackupJob} (h : j.HasFiniteReals)
    (h' : j'.HasFiniteReals) : j.payload.compact = j'.payload.compact ↔ j.shown = j'.shown := by
  rw [Json.compact_inj (hasFiniteReals_payload h) (hasFiniteReals_payload h'), payload_eq_iff]

/-- Restores have one text just if they are equal. -/
theorem RestoreJob.compact_payload_eq_iff {j j' : RestoreJob} (h : j.HasFiniteReals)
    (h' : j'.HasFiniteReals) : j.payload.compact = j'.payload.compact ↔ j = j' := by
  rw [Json.compact_inj (hasFiniteReals_payload h) (hasFiniteReals_payload h'), faithful.eq_iff]

namespace BackupService

/-! ## Scans with another bound -/

/-- With another bound that can be read, a scan has a config that differs in the bound only. -/
theorem scanConfig_bounded {m : Machine} {i : Infrastructure} {g : Scan Settled} {c : ScanConfig}
    {input : String} {bound : Option Instant} (h : scanConfig m i g = .ok c)
    (hread : m.readTime? input = .ok bound) :
    scanConfig m i { g with modifiedBefore := input } = .ok { c with modifiedBefore := bound } := by
  simp only [scanConfig, bind_eq_ok_iff, mapError_eq_ok_iff, during_eq_ok_iff] at h ⊢
  obtain ⟨racks, hracks, filters, hfilters, policy, hpolicy, before, -, after, hafter, h⟩ := h
  obtain rfl := pure_eq_ok_iff.1 h
  exact ⟨racks, hracks, filters, hfilters, policy, hpolicy, bound, hread, after, hafter, rfl⟩

/-- A scan of what was changed before a time. -/
def boundedService (before : String) : BackupService where
  infrastructure := .ofLayer .builtIn .empty
  scan := some { Defaults.builtIn.scan with
    transfer := { Defaults.builtIn.scan.transfer with nameSpace := "test", directory := "/b" }
    modifiedBefore := before }
  changeFeed := none

/-- The job with another bound. -/
def bounded (bound : Option Instant) (j : BackupJob) : BackupJob :=
  { j with scan := { j.scan with modifiedBefore := bound } }

/-- A job with another bound tells the bound. -/
theorem bounded_ne {bound bound' : Option Instant} (h : bound ≠ bound') (j : BackupJob) :
    bounded bound j ≠ bounded bound' j :=
  fun hsame => h (congrArg (·.scan.modifiedBefore) hsame)

/-- With another bound that can be read, the scan has a job that differs in the bound only. -/
theorem job_boundedService {m : Machine} {before input : String} {bound : Option Instant}
    {j : BackupJob} (h : (boundedService before).job m = .ok j)
    (hread : m.readTime? input = .ok bound) :
    (boundedService input).job m = .ok (bounded bound j) := by
  rw [job, bind_eq_ok_iff] at h ⊢
  obtain ⟨⟨c, feed⟩, hconfigs, h⟩ := h
  obtain rfl := pure_eq_ok_iff.1 h
  obtain ⟨c', hc, hpair⟩ := map_eq_ok_iff.1 hconfigs
  obtain ⟨rfl, rfl⟩ := Prod.mk.inj hpair
  have hbounded := scanConfig_bounded (during_eq_ok_iff.1 hc) hread
  refine ⟨({ c' with modifiedBefore := bound }, none), ?_, rfl⟩
  exact map_eq_ok_iff.2 ⟨_, during_eq_ok_iff.2 hbounded, rfl⟩

/-- The scan has a job without a bound, and other bounds bring no other fractions. -/
theorem exists_job_boundedService (m : Machine) : ∃ j, (boundedService "").job m = .ok j ∧
    ∀ bound, (bounded bound j).HasFiniteReals := by
  have hmachine : (boundedService "").job m = (boundedService "").job smallMachine := rfl
  have hrun : ((boundedService "").job smallMachine).toOption.any (·.HasFiniteReals) = true := by
    decide +kernel
  obtain ⟨j, hjob, hfinite⟩ := (Option.any_eq_true ..).1 hrun
  refine ⟨j, hmachine.trans (toOption_eq_some_iff.1 hjob), fun _ => ?_⟩
  exact of_decide_eq_true (p := j.HasFiniteReals) hfinite

/-! ## What the texts tell -/

/-- **What the text of a payload tells.**  All of this is about jobs whose binary fractions are
finite numbers.

* Backups have one text just if they show alike; made in zones of whole minutes, they have one text
  just if they are equal.
* Restores have one text just if they are equal.
* The text on one line and the text over several lines denote the payload, so both denote one
  value. -/
theorem payload_texts_tell_jobs :
    (∀ j j' : BackupJob, j.HasFiniteReals → j'.HasFiniteReals →
      (j.payload.compact = j'.payload.compact ↔ j.shown = j'.shown)) ∧
    (∀ (m m' : Machine) (s s' : BackupService) (j j' : BackupJob), s.job m = .ok j →
      s'.job m' = .ok j' → m.zone.KeepsMinutes → m'.zone.KeepsMinutes → j.HasFiniteReals →
      j'.HasFiniteReals → (j.payload.compact = j'.payload.compact ↔ j = j')) ∧
    (∀ j j' : RestoreJob, j.HasFiniteReals → j'.HasFiniteReals →
      (j.payload.compact = j'.payload.compact ↔ j = j')) ∧
    (∀ j : BackupJob, j.HasFiniteReals →
      Json.ofText? j.payload.compact = some j.payload ∧
        Json.ofText? j.payload.pretty = some j.payload) ∧
    ∀ j : RestoreJob, j.HasFiniteReals →
      Json.ofText? j.payload.compact = some j.payload ∧
        Json.ofText? j.payload.pretty = some j.payload := by
  refine ⟨fun j j' => BackupJob.compact_payload_eq_iff, ?_,
    fun j j' => RestoreJob.compact_payload_eq_iff, fun j hj => ?_, fun j hj => ?_⟩
  · intro m m' s s' j j' hjob hjob' hzone hzone' hj hj'
    rw [BackupJob.compact_payload_eq_iff hj hj', shown_of_job hzone hjob,
      shown_of_job hzone' hjob']
  · have hfinite := BackupJob.hasFiniteReals_payload hj
    exact ⟨Json.ofText?_compact hfinite, Json.ofText?_pretty hfinite⟩
  · have hfinite := RestoreJob.hasFiniteReals_payload hj
    exact ⟨Json.ofText?_compact hfinite, Json.ofText?_pretty hfinite⟩

/-- A restore of a single file. -/
def fileRestore (path : String) : RestoreService where
  infrastructure := .ofLayer .builtIn .empty
  restore := { Defaults.builtIn.restore with
    transfer := { Defaults.builtIn.restore.transfer with nameSpace := "test" }
    inputFile := path }

/-- In universal time the texts tell a leap second from the second after it, and the files of two
restores from each other; they are read back. -/
theorem payload_texts_tell_leap_seconds :
    (∃ j j', (boundedService "2024-01-01_00:00:60").job smallMachine = .ok j ∧
      (boundedService "2024-01-01_00:01:00").job smallMachine = .ok j' ∧
      j.payload.compact ≠ j'.payload.compact ∧ j.shown ≠ j'.shown ∧
      Json.ofText? j.payload.compact = some j.payload ∧
      Json.ofText? j.payload.pretty = some j.payload) ∧
    ∃ j j', (fileRestore "/a").job = .ok j ∧ (fileRestore "/b").job = .ok j' ∧
      j.payload.compact ≠ j'.payload.compact ∧
      Json.ofText? j.payload.compact = some j.payload ∧
      Json.ofText? j.payload.pretty = some j.payload := by
  obtain ⟨hshown, htold, hrestores, hread, hreadRestore⟩ := payload_texts_tell_jobs
  constructor
  · have hleap : smallMachine.readTime? "2024-01-01_00:00:60" = .ok (some ⟨1704067259, true⟩) :=
      toOption_eq_some_iff.1 (by decide +kernel)
    have hnext : smallMachine.readTime? "2024-01-01_00:01:00" = .ok (some ⟨1704067260, false⟩) :=
      toOption_eq_some_iff.1 (by decide +kernel)
    obtain ⟨j, hjob, hbounded⟩ := exists_job_boundedService smallMachine
    have hzone : smallMachine.zone.KeepsMinutes := ⟨rfl, nofun⟩
    have htext := htold _ _ _ _ _ _ (job_boundedService hjob hleap)
      (job_boundedService hjob hnext) hzone hzone (hbounded _) (hbounded _)
    have htexts := mt htext.1 (bounded_ne (by decide) j)
    exact ⟨_, _, job_boundedService hjob hleap, job_boundedService hjob hnext, htexts,
      mt (hshown _ _ (hbounded _) (hbounded _)).2 htexts, hread _ (hbounded _)⟩
  · have hrun : ∀ path ∈ ["/a", "/b"], (fileRestore path).job.toOption.any (fun j =>
        j.HasFiniteReals ∧ j.restore.source = some (.file path)) = true := by
      decide +kernel
    obtain ⟨j, hjob, hj⟩ := (Option.any_eq_true ..).1 (hrun "/a" (by decide))
    obtain ⟨j', hjob', hj'⟩ := (Option.any_eq_true ..).1 (hrun "/b" (by decide))
    obtain ⟨hfinite, hsource⟩ := of_decide_eq_true hj
    obtain ⟨hfinite', hsource'⟩ := of_decide_eq_true hj'
    refine ⟨j, j', toOption_eq_some_iff.1 hjob, toOption_eq_some_iff.1 hjob', ?_,
      hreadRestore j hfinite⟩
    rw [Ne, hrestores j j' hfinite hfinite']
    rintro rfl
    exact absurd (hsource.symm.trans hsource') (by decide)

/-- A machine whose zone is a fraction of a minute away from whole minutes. -/
def oddMachine : Machine := ⟨⟨1172, []⟩, ⟨2024, 1, 1⟩, 1⟩

/-- Two bounds that differ by a leap second show as one in a zone that is not one of whole minutes:
the jobs differ, and their texts do not. -/
theorem leap_second_is_not_shown :
    (boundedService "2024-01-01_00:00:60").check = .ok () ∧
    (boundedService "2024-01-01_00:01:00").check = .ok () ∧
    ∃ j j', (boundedService "2024-01-01_00:00:60").job oddMachine = .ok j ∧
      (boundedService "2024-01-01_00:01:00").job oddMachine = .ok j' ∧ j.HasFiniteReals ∧
      j'.HasFiniteReals ∧ j.payload.compact = j'.payload.compact ∧ j ≠ j' := by
  have hleap : oddMachine.readTime? "2024-01-01_00:00:60" = .ok (some ⟨1704066087, true⟩) :=
    toOption_eq_some_iff.1 (by decide +kernel)
  have hnext : oddMachine.readTime? "2024-01-01_00:01:00" = .ok (some ⟨1704066088, false⟩) :=
    toOption_eq_some_iff.1 (by decide +kernel)
  obtain ⟨j, hjob, hbounded⟩ := exists_job_boundedService oddMachine
  refine ⟨rfl, rfl, _, _, job_boundedService hjob hleap, job_boundedService hjob hnext,
    hbounded _, hbounded _, ?_, bounded_ne (by decide) j⟩
  -- the leap second shows as the second after it
  rw [BackupJob.compact_payload_eq_iff (hbounded _) (hbounded _)]
  rfl

end BackupService

end BackupControl
