/-
# Runs that remove files

Which accepted backups ask the engine to remove files although they write no fresh backup into a
folder.  The rules exclude some of the options that go ill with each other, but not all: what
they leave open is exactly what the conditions of this module name.
-/
import BackupControl.Proofs.Service.Job
import Mathlib.Tactic.MkIffOfInductiveProp

namespace BackupControl

/-! ## Destructive jobs -/

/-- The job removes files: it empties its folder, or removes an earlier backup. -/
def BackupJob.isDestructive (j : BackupJob) : Bool := j.clearsTarget || j.removeArtifacts

/-- The job writes a fresh backup into a folder: no single file, no estimate, nothing that is
resumed, and no tidying up after a change feed. -/
@[mk_iff]
structure BackupJob.WritesAfresh (j : BackupJob) : Prop where
  directory : j.directory ≠ ""
  outputFile : j.outputFile = ""
  estimate : j.estimate = false
  isContinued : j.isContinued = false
  isStopXdr : j.isStopXdr = false
  isUnblockMrt : j.isUnblockMrt = false

/-- The options of a scan ask for files to be removed where none are written afresh. -/
def Scan.OnlyRemoves (g : Scan Settled) : Prop :=
  (g.removeFiles = true ∨ g.removeArtifacts = true) ∧
    (g.estimate = true ∨ g.outputFile ≠ "" ∨ g.continueFrom ≠ "")

/-- The options of a change feed ask for files to be removed where none are written. -/
def ChangeFeed.OnlyRemoves (g : ChangeFeed Settled) : Prop :=
  g.removeFiles = true ∧ (g.stopXdr = true ∨ g.unblockMrt = true)

namespace BackupService

variable {m : Machine} {s : BackupService} {j : BackupJob}

/-! ## Jobs of the two kinds -/

/-- What the job of a scan backup removes and writes. -/
theorem of_job_scan {g : Scan Settled} (hscan : s.scan = some g) (hfeed : s.changeFeed = none)
    (h : s.job m = .ok j) :
    j.isDestructive = (g.clearsTarget || g.removeArtifacts) ∧
      (j.WritesAfresh ↔ g.transfer.directory ≠ "" ∧ g.outputFile = "" ∧ g.estimate = false ∧
        g.continueFrom = "") := by
  have hj := ofScan_of_job hscan hfeed h
  constructor
  · rw [BackupJob.isDestructive, hj.clearsTarget, hj.removeArtifacts]
  · simp only [BackupJob.writesAfresh_iff, hj.directory, hj.outputFile, hj.estimate,
      hj.isContinued, hj.isStopXdr, hj.isUnblockMrt, bne_eq_false_iff_eq, and_true]

/-- What the job of a change-feed backup removes and writes. -/
theorem of_job_changeFeed {g : ChangeFeed Settled} (hscan : s.scan = none)
    (hfeed : s.changeFeed = some g) (h : s.job m = .ok j) :
    j.isDestructive = g.removeFiles ∧
      (j.WritesAfresh ↔ g.directory ≠ "" ∧ g.stopXdr = false ∧ g.unblockMrt = false) := by
  obtain ⟨k, hjob, hj⟩ := job_of_changeFeed hscan hfeed m
  obtain rfl := Except.ok.inj (h.symm.trans hjob)
  constructor
  · rw [BackupJob.isDestructive, hj.clearsTarget, hj.removeArtifacts, Bool.or_false]
  · simp only [BackupJob.writesAfresh_iff, hj.directory, hj.outputFile, hj.estimate,
      hj.isContinued, hj.isStopXdr, hj.isUnblockMrt, true_and]

/-! ## What the rules exclude -/

/-- A scan that meets its rules removes files just if it is asked to: it is not resumed where the
folder is to be emptied. -/
theorem removes_scan_iff {g : Scan Settled} (hcheck : g.check = .ok ()) :
    (g.clearsTarget || g.removeArtifacts) = true ↔
      g.removeFiles = true ∨ g.removeArtifacts = true := by
  obtain ⟨-, -, -, -, -, -, hcontinue, -⟩ := (Scan.check_eq_ok_iff g).1 hcheck
  rw [Scan.clearsTarget, Bool.or_eq_true, Bool.and_eq_true, Bool.or_eq_true, beq_iff_eq]
  constructor
  · rintro (⟨hremove, -⟩ | hartifacts)
    · exact hremove
    · exact .inr hartifacts
  · rintro (hfiles | hartifacts)
    · -- the rules refuse to resume a backup whose files are to be removed
      have hfrom : g.continueFrom = "" :=
        Classical.byContradiction fun hfrom => hcontinue ⟨hfrom, hfiles⟩
      exact .inl ⟨.inl hfiles, hfrom⟩
    · exact .inr hartifacts

/-- A scan that meets its rules and removes files writes afresh, unless it only removes. -/
theorem scan_safe_iff {g : Scan Settled} (hcheck : g.check = .ok ()) :
    ((g.clearsTarget || g.removeArtifacts) = true →
      g.transfer.directory ≠ "" ∧ g.outputFile = "" ∧ g.estimate = false ∧
        g.continueFrom = "") ↔ ¬ g.OnlyRemoves := by
  obtain ⟨houtput, -⟩ := (Scan.check_eq_ok_iff g).1 hcheck
  rw [removes_scan_iff hcheck, Scan.OnlyRemoves]
  constructor
  · rintro hsafe ⟨hremoves, honly⟩
    obtain ⟨-, hfile, hestimate, hfrom⟩ := hsafe hremoves
    rcases honly with honly | honly | honly
    · rw [hestimate] at honly
      exact Bool.false_ne_true honly
    · exact honly hfile
    · exact honly hfrom
  · intro honly hremoves
    obtain ⟨hestimate, hrest⟩ := not_or.1 fun h => honly ⟨hremoves, h⟩
    obtain ⟨hfile, hfrom⟩ := not_or.1 hrest
    rw [Bool.not_eq_true] at hestimate
    rw [Classical.not_not] at hfile hfrom
    -- with neither an estimate nor a file, the rules ask for a folder
    exact ⟨fun hdirectory => houtput ⟨hestimate, hfile, hdirectory⟩, hfile, hestimate, hfrom⟩

/-- A change feed that meets its rules and removes files writes afresh, unless it only removes. -/
theorem changeFeed_safe_iff {g : ChangeFeed Settled} (hcheck : g.check = .ok ()) :
    (g.removeFiles = true →
      g.directory ≠ "" ∧ g.stopXdr = false ∧ g.unblockMrt = false) ↔ ¬ g.OnlyRemoves := by
  obtain ⟨-, -, hwrites, -⟩ := (ChangeFeed.check_eq_ok_iff g).1 hcheck
  rw [ChangeFeed.OnlyRemoves]
  constructor
  · rintro hsafe ⟨hremoves, honly⟩
    obtain ⟨-, hstop, hunblock⟩ := hsafe hremoves
    rcases honly with honly | honly
    · rw [hstop] at honly
      exact Bool.false_ne_true honly
    · rw [hunblock] at honly
      exact Bool.false_ne_true honly
  · intro honly hremoves
    obtain ⟨hstop, hunblock⟩ := not_or.1 fun h => honly ⟨hremoves, h⟩
    rw [Bool.not_eq_true] at hstop hunblock
    -- a feed that writes files needs a folder
    refine ⟨fun hdirectory => hwrites ⟨?_, hdirectory⟩, hstop, hunblock⟩
    rw [ChangeFeed.writesFiles, hstop, hunblock]
    rfl

/-! ## Accepted runs -/

/-- An accepted backup writes afresh where it removes files, just if neither a scan nor a change
feed only removes. -/
theorem destructive_writesAfresh_iff {d : Defaults} {resolver : SecretResolver} {l : Layer}
    (hload : (load d resolver l).result = .ok s) (hjob : s.job m = .ok j) :
    (j.isDestructive = true → j.WritesAfresh) ↔
      (∀ g, s.scan = some g → ¬ g.OnlyRemoves) ∧
        ∀ g, s.changeFeed = some g → ¬ g.OnlyRemoves := by
  obtain ⟨hmode, -, hscanCheck, hfeedCheck, -⟩ :=
    (check_eq_ok_iff s).1 (check_of_load_eq_ok hload)
  cases hscan : s.scan with
  | none =>
    cases hfeed : s.changeFeed with
    | none =>
      rw [hscan, hfeed] at hmode
      exact absurd rfl hmode
    | some g =>
      obtain ⟨hdestructive, hafresh⟩ := of_job_changeFeed hscan hfeed hjob
      rw [hdestructive, hafresh, changeFeed_safe_iff (hfeedCheck g hfeed)]
      constructor
      · intro hsafe
        exact ⟨fun _ hg => absurd hg nofun, fun _ hg => Option.some.inj hg ▸ hsafe⟩
      · rintro ⟨-, hsafe⟩
        exact hsafe g rfl
  | some g =>
    cases hfeed : s.changeFeed with
    | none =>
      obtain ⟨hdestructive, hafresh⟩ := of_job_scan hscan hfeed hjob
      rw [hdestructive, hafresh, scan_safe_iff (hscanCheck g hscan)]
      constructor
      · intro hsafe
        exact ⟨fun _ hg => Option.some.inj hg ▸ hsafe, fun _ hg => absurd hg nofun⟩
      · rintro ⟨hsafe, -⟩
        exact hsafe g rfl
    | some feed =>
      rw [hscan, hfeed] at hmode
      exact absurd rfl hmode

/-! ## A run that only removes -/

/-- A run that only stops a change feed, with a folder to be emptied. -/
def stoppingLayer : Layer :=
  { changeFeed := some { (OptionGroup.unset : ChangeFeed Given) with
      nameSpace := some "test"
      directory := some "/backups"
      removeFiles := some true
      stopXdr := some true } }

/-- A run that only stops a change feed is accepted, and empties its folder. -/
theorem stopping_run_is_destructive :
    (accepted stoppingLayer).map (fun run => (run.2.isDestructive, run.2.isStopXdr)) =
      some (true, true) := by
  decide +kernel

/-- The job of such a run removes files and writes none afresh. -/
theorem destructive_writesAfresh_iff_of_stopping :
    ∃ s j, (load .builtIn silentResolver stoppingLayer).result = .ok s ∧
      s.job smallMachine = .ok j ∧ ¬ (j.isDestructive = true → j.WritesAfresh) := by
  have hrun : (accepted stoppingLayer).any (fun run => run.1.changeFeed.any fun g =>
      g.removeFiles && g.stopXdr) = true := by
    decide +kernel
  obtain ⟨⟨s, j⟩, haccepted, hrun⟩ := (Option.any_eq_true ..).1 hrun
  obtain ⟨g, hg, hremoves⟩ := (Option.any_eq_true ..).1 hrun
  obtain ⟨hload, hjob⟩ := of_accepted_eq_some haccepted
  rw [Bool.and_eq_true] at hremoves
  refine ⟨s, j, hload, hjob, ?_⟩
  rw [destructive_writesAfresh_iff hload hjob]
  rintro ⟨-, hfeed⟩
  exact hfeed g hg ⟨hremoves.1, .inl hremoves.2⟩

end BackupService

end BackupControl
