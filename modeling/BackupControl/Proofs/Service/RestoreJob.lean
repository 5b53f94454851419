/-
# The job of an accepted restore

A restore falls back on defaults where an option is unreadable: an unknown format is found out,
a missing input or namespace is left out, and a negative count fails.  The rules refuse each of
these, so the job of an accepted restore is what its options say.
-/
import BackupControl.Proofs.Rules.Restore
import BackupControl.Proofs.Service.Job

namespace BackupControl

/-! ## Jobs -/

/-- The job of a restore holds what the options say, without a fallback. -/
structure RestoreJob.From (g : Restore Settled) (j : RestoreJob) : Prop where
  input : ∃ source, j.restore.source = some source ∧ g.Input source
  folder : j.isDirectoryRestore = true ↔ ∃ path, j.restore.source = some (.directory path)
  mode : ∀ mode, j.restore.mode = mode ↔ mode.word = g.mode
  warmUp : (j.restore.warmUp.toNat : Int) = g.warmUp.toInt
  parent : g.parentDirectory ≠ "" → ∃ paths, j.restore.source = some (.directories paths)
  nameSpace : g.validateOnly = false → ∃ pair, j.restore.nameSpace = some pair ∧
    NamesPair g.transfer.nameSpace pair.source pair.destination
  parallel : g.validateOnly = false → 1 ≤ j.restore.parallel

namespace RestoreService

variable {s : RestoreService}

/-- A count that is not negative is itself. -/
theorem countOf_of_nonneg {n : Int64} (h : 0 ≤ n) :
    ∃ count, countOf n = .ok count ∧ (count.toNat : Int) = n.toInt := by
  have hnonneg : 0 ≤ n.toInt := Int64.le_iff_toInt_le.1 h
  have hsmall : n.toInt < 2 ^ 63 := n.toInt_lt
  refine ⟨UInt64.ofNat n.toInt.toNat, if_neg (Int64.not_lt.2 h), ?_⟩
  rw [UInt64.toNat_ofNat_of_lt' (by simp only [UInt64.size]; omega), Int.toNat_of_nonneg hnonneg]

/-- A restore that meets its rules has a job, which is what its options say. -/
theorem exists_job_of_check (hcheck : s.restore.check = .ok ()) :
    ∃ j, s.job = .ok j ∧ j.From s.restore := by
  obtain ⟨⟨mode, hmode⟩, ⟨source, hinput⟩, hparent, hwarmUp, htransfer⟩ :=
    (Restore.check_eq_ok_iff s.restore).1 hcheck
  obtain ⟨count, hcount, hcountValue⟩ := countOf_of_nonneg hwarmUp
  have hconfig : ∃ c, s.config = .ok c ∧ c.source = s.restore.source? ∧
      c.mode = s.restore.format ∧ c.warmUp = count ∧ c.nameSpace = s.restore.namespaces? ∧
      c.parallel = s.restore.transfer.parallel := by
    rw [config, hcount]
    exact ⟨_, rfl, rfl, rfl, rfl, rfl, rfl⟩
  obtain ⟨c, hc, hsource, hformat, hcountField, hnameSpace, hparallel⟩ := hconfig
  -- the source is read first, since three of the fields are about it
  have hread : c.source = some source := hsource.trans hinput.source?_eq
  refine ⟨_, by rw [job, hc]; rfl, ?_⟩
  exact {
    input := ⟨source, hread, hinput⟩
    folder := by
      simp only [hread, Option.some.injEq]
      exact hinput.isDirectoryRestore_iff
    mode := by
      intro mode'
      have hfound : c.mode = mode := by rw [hformat, Restore.format, hmode]; rfl
      dsimp only
      rw [hfound, ← RestoreMode.ofWord?_eq_some_iff, hmode, Option.some.injEq]
    warmUp := by
      dsimp only
      rw [hcountField, hcountValue]
    parent := by
      intro hset
      have hlist : s.restore.directoryList ≠ "" := fun h => hparent ⟨hset, h⟩
      dsimp only
      rw [hread]
      cases hinput with
      | file _ _ h => exact absurd h hlist
      | directory _ _ h => exact absurd h hlist
      | directories => exact ⟨_, rfl⟩
    nameSpace := by
      intro hvalidate
      obtain ⟨-, hpair, -⟩ := (Transfer.check_eq_ok_iff _).1 (htransfer hvalidate)
      obtain ⟨⟨first, second⟩, hpair⟩ := Option.isSome_iff_exists.1 hpair
      refine ⟨⟨first, second⟩, ?_, namespacePair?_eq_some_iff.1 hpair⟩
      dsimp only
      rw [hnameSpace, Restore.namespaces?, hpair]
      rfl
    parallel := by
      intro hvalidate
      obtain ⟨-, -, hworkers⟩ := (Transfer.check_eq_ok_iff _).1 (htransfer hvalidate)
      dsimp only
      rw [hparallel]
      exact hworkers }

/-- A restore that was loaded has a job, which is what its options say. -/
theorem accepted_restore_has_job {d : Defaults} {resolver : SecretResolver} {l : Layer}
    (hload : (load d resolver l).result = .ok s) : ∃ j, s.job = .ok j ∧ j.From s.restore := by
  obtain ⟨-, -, hcheck⟩ := of_load_eq_ok hload
  obtain ⟨-, hrestore, -⟩ := (check_eq_ok_iff s).1 hcheck
  exact exists_job_of_check hrestore

/-- A restore that only checks the files of two folders. -/
def checkingLayer : Layer :=
  { restore := some { (OptionGroup.unset : Restore Given) with
      directoryList := some "a,b"
      parentDirectory := some "/backups"
      warmUp := some 8
      validateOnly := some true } }

/-- A restore that only checks files is accepted without a namespace, and has a job. -/
theorem accepted_check_has_job :
    ∃ s j, (load .builtIn BackupService.silentResolver checkingLayer).result = .ok s ∧
      s.job = .ok j ∧ j.restore.warmUp.toNat = 8 ∧
      ∃ paths, j.restore.source = some (.directories paths) := by
  have hrun : (load .builtIn BackupService.silentResolver checkingLayer).result.toOption.any
      (fun s => s.restore.parentDirectory == "/backups" && s.restore.warmUp == 8) = true := by
    decide +kernel
  obtain ⟨s, hs, hrun⟩ := (Option.any_eq_true ..).1 hrun
  obtain ⟨hparent, hwarmUp⟩ := Bool.and_eq_true_iff.1 hrun
  have hload := toOption_eq_some_iff.1 hs
  obtain ⟨j, hjob, hj⟩ := accepted_restore_has_job hload
  refine ⟨s, j, hload, hjob, ?_, ?_⟩
  · have hvalue := hj.warmUp
    rw [beq_iff_eq.1 hwarmUp] at hvalue
    exact Int.ofNat_inj.1 hvalue
  · exact hj.parent (by rw [beq_iff_eq.1 hparent]; decide)

end RestoreService

end BackupControl
