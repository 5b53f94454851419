/-
# Coherent jobs

The flags of a job and the fields of its configs are computed apart from each other, from the
same options.  In the job of an accepted backup they agree: there is one kind of backup, the
state file goes with the flags about state, a single output has a single writer, and an estimate
or a backup to the standard output has no folder.
-/
import BackupControl.Proofs.Partition.Selection
import BackupControl.Proofs.Service.Job
import BackupControl.Proofs.Service.Resolution

namespace BackupControl

/-! ## Coherence -/

/-- The job of a scan agrees with itself and with the options of the scan. -/
structure BackupJob.ScanCoherent (g : Scan Settled) (j : BackupJob) : Prop where
  isContinued : j.scan.isContinued = j.isContinued
  savesState : j.savesState = j.scan.stateFile.isSome
  pageSize : j.scan.pageSize = if j.scan.stateFile.isSome then g.scanPageSize else 0
  outputFile : j.outputFile = g.outputFile
  singleFile : j.outputFile ≠ "" → j.scan.fileLimit = 0 ∧ j.scan.parallelWrite = 1
  manyFiles : j.outputFile = "" → j.scan.parallelWrite = j.scan.parallelRead
  standardOutput : j.writesToOutput = true → j.directory = "" ∧ j.estimate = false
  estimate : j.estimate = true → j.directory = "" ∧ j.outputFile = "" ∧
    j.scan.partitionFilters = [.all] ∧ j.scan.nodeList = [] ∧ j.scan.rackList = [] ∧
    j.scan.modifiedBefore = none ∧ j.scan.modifiedAfter = none

/-- The job of a change feed agrees with itself. -/
structure BackupJob.FeedCoherent (feed : FeedConfig) (j : BackupJob) : Prop where
  changeFeed : j.changeFeed = some feed
  noRecords : j.scan.noRecords = true
  nameSpace : j.scan.nameSpace = feed.nameSpace
  isContinued : j.isContinued = false
  writesToOutput : j.writesToOutput = false
  estimate : j.estimate = false
  savesState : j.savesState = false
  oneTask : ¬ (j.isStopXdr = true ∧ j.isUnblockMrt = true)
  directory : j.isStopXdr = false → j.isUnblockMrt = false → j.directory ≠ ""

namespace BackupService

variable {d : Defaults} {resolver : SecretResolver} {l : Layer} {m : Machine}
  {i : Infrastructure} {s : BackupService} {j : BackupJob}

/-! ## Kinds of backups -/

/-- A backup that was loaded is of exactly one kind, which the change-feed section decides. -/
theorem kind_of_load (h : (load d resolver l).result = .ok s) :
    s.changeFeed.isSome = l.changeFeed.isSome ∧ s.scan.isSome = !s.changeFeed.isSome := by
  obtain ⟨t, hlayer, hcomplete⟩ := of_load_eq_ok h
  obtain ⟨hscan, hfeed, -⟩ := of_complete_eq_ok hcomplete
  rw [hscan, hfeed]
  exact kind_of_ofLayer hlayer

/-- Loading a backup never ends with a refusal of its kind. -/
theorem load_ne_backupMode (d : Defaults) (resolver : SecretResolver) (l : Layer) :
    (load d resolver l).result ≠ .error (.during .configuring (.violation .backupMode)) := by
  intro h
  unfold load at h
  cases hlayer : ofLayer d l with
  | error v =>
    obtain ⟨option, rfl⟩ := of_ofLayer_eq_error hlayer
    rw [hlayer] at h
    exact absurd h nofun
  | ok s =>
    rw [hlayer] at h
    rcases of_complete_eq_error h with hresolve | ⟨t, v, hscan, hfeed, hcheck, hfailure⟩
    · -- a reference that is not replaced is reported under another activity
      obtain ⟨name, cause, hfailure⟩ := Infrastructure.resolving_of_resolve_eq_error hresolve
      exact absurd hfailure nofun
    · obtain rfl : Violation.backupMode = v := by
        injection hfailure with _ hcause
        exact Failure.violation.inj hcause
      rw [check_eq_backupMode_iff, hscan, hfeed, (kind_of_ofLayer hlayer).2] at hcheck
      exact absurd hcheck (Bool.not_not_eq.2 rfl)

/-- A backup that was loaded always has a kind to be assembled for. -/
theorem job_ne_backupMode (h : (load d resolver l).result = .ok s) (m : Machine) :
    s.job m ≠ .error (.violation .backupMode) := by
  intro hjob
  rcases kind_cases (kind_of_load h).2 with ⟨g, hscan, -⟩ | ⟨g, hscan, hfeed⟩
  · obtain ⟨cause, -, hfailure⟩ := (job_eq_error_iff hscan).1 hjob
    exact absurd hfailure nofun
  · obtain ⟨j, hj, -⟩ := job_of_changeFeed hscan hfeed m
    exact absurd (hjob.symm.trans hj) nofun

/-! ## Scans -/

/-- Progress is saved just if there is a state file. -/
theorem isSome_stateFile? (g : Scan Settled) : (stateFile? g).isSome = g.savesState := by
  unfold stateFile? Scan.savesState
  split
  · rename_i hsave
    rw [bne_iff_ne.2 hsave]
    rfl
  · rename_i hsave
    split
    · rename_i hresume
      rw [bne_iff_ne.2 hresume, Bool.or_true]
      rfl
    · rename_i hresume
      rw [Classical.not_not] at hsave hresume
      rw [hsave, hresume]
      rfl

/-- An estimate that is allowed keeps to no part of the namespace and writes nowhere. -/
theorem of_estimate {g : Scan Settled} (hcheck : g.check = .ok ()) (hestimate : g.estimate = true) :
    g.transfer.directory = "" ∧ g.outputFile = "" ∧ g.afterDigest = "" ∧ g.partitionList = "" ∧
      g.nodeList = "" ∧ g.rackList = "" ∧ g.modifiedBefore = "" ∧ g.modifiedAfter = "" := by
  obtain ⟨-, -, -, -, -, -, -, -, hallowed, -⟩ := (Scan.check_eq_ok_iff g).1 hcheck
  obtain ⟨hfilters, ⟨hfile, hdirectory⟩, -⟩ :=
    (Scan.checkEstimate_eq_ok_iff g).1 (hallowed hestimate)
  simp only [Scan.keepsBackRecords, Bool.or_eq_false_iff, List.any_cons, List.any_nil,
    bne_eq_false_iff_eq] at hfilters
  obtain ⟨⟨hlist, hnodes, hdigest, hracks, -, hafter, hbefore, -⟩, -⟩ := hfilters
  exact ⟨hdirectory, hfile, hdigest, hlist, hnodes, hracks, hbefore, hafter⟩

/-- The job of a scan that meets its rules is coherent. -/
theorem scanCoherent_of_check {g : Scan Settled} (hj : j.OfScan m i g) (hcheck : g.check = .ok ()) :
    j.ScanCoherent g := by
  have hscan := ScanConfig.from_of_scanConfig hj.scan
  obtain ⟨-, hexclusive, -⟩ := (Scan.check_eq_ok_iff g).1 hcheck
  exact {
    isContinued := hscan.isContinued.trans hj.isContinued.symm
    savesState := by rw [hj.savesState, hscan.stateFile, isSome_stateFile?]
    pageSize := hscan.pageSize
    outputFile := hj.outputFile
    singleFile := by
      intro hfile
      rw [hj.outputFile] at hfile
      rw [hscan.fileLimit, hscan.parallelWrite, fileLimit, writers, if_neg hfile, if_neg hfile]
      exact ⟨rfl, rfl⟩
    manyFiles := by
      intro hfile
      rw [hj.outputFile] at hfile
      rw [hscan.parallelWrite, hscan.parallelRead, writers, if_pos hfile]
    standardOutput := by
      intro houtput
      rw [hj.writesToOutput, beq_iff_eq] at houtput
      have hfile : g.outputFile ≠ "" := by
        rw [houtput]
        decide
      rw [hj.directory, hj.estimate]
      constructor
      · exact Classical.byContradiction fun hdirectory => hexclusive ⟨hdirectory, hfile⟩
      · exact Bool.eq_false_iff.2 fun hestimate => hfile (of_estimate hcheck hestimate).2.1
    estimate := by
      intro hestimate
      rw [hj.estimate] at hestimate
      obtain ⟨hdirectory, hfile, hdigest, hlist, hnodes, hracks, hbefore, hafter⟩ :=
        of_estimate hcheck hestimate
      refine ⟨hj.directory.trans hdirectory, hj.outputFile.trans hfile, ?_, ?_, ?_, ?_, ?_⟩
      · exact Except.ok.inj (hscan.partitions.symm.trans
          (Scan.partitionFilters_of_unset hdigest hlist))
      · rw [hscan.nodes, Scan.nodes, hnodes]
        rfl
      · have hempty : g.racks = .ok [] := by
          rw [Scan.racks, hracks]
          rfl
        exact Except.ok.inj (hscan.racks.symm.trans hempty)
      · have hnone : m.readTime? g.modifiedBefore = .ok none := if_pos hbefore
        exact Except.ok.inj (hscan.before.symm.trans hnone)
      · have hnone : m.readTime? g.modifiedAfter = .ok none := if_pos hafter
        exact Except.ok.inj (hscan.after.symm.trans hnone) }

/-! ## Change feeds -/

/-- The job of a change feed that meets its rules is coherent. -/
theorem feedCoherent_of_check {g : ChangeFeed Settled} (hj : j.OfChangeFeed m i g)
    (hcheck : g.check = .ok ()) : j.FeedCoherent (feedConfig m i g) := by
  obtain ⟨-, hexclusive, hfolder, -⟩ := (ChangeFeed.check_eq_ok_iff g).1 hcheck
  exact {
    changeFeed := hj.changeFeed
    noRecords := by rw [hj.scan]
    nameSpace := by rw [hj.scan]; rfl
    isContinued := hj.isContinued
    writesToOutput := hj.writesToOutput
    estimate := hj.estimate
    savesState := hj.savesState
    oneTask := by rw [hj.isStopXdr, hj.isUnblockMrt]; exact hexclusive
    directory := by
      intro hstop hunblock hdirectory
      rw [hj.isStopXdr] at hstop
      rw [hj.isUnblockMrt] at hunblock
      rw [hj.directory] at hdirectory
      refine hfolder ⟨?_, hdirectory⟩
      rw [ChangeFeed.writesFiles, hstop, hunblock]
      rfl }

/-! ## Accepted backups -/

/-- A backup is never refused, nor left without a job, for its kind.  One that was loaded is of
exactly one kind, decided by the change-feed section, and any job of it is coherent. -/
theorem accepted_backup_is_coherent (d : Defaults) (resolver : SecretResolver) (l : Layer) :
    (load d resolver l).result ≠ .error (.during .configuring (.violation .backupMode)) ∧
      ∀ s, (load d resolver l).result = .ok s →
        (s.scan.isSome = !s.changeFeed.isSome) ∧
        ∀ m, s.job m ≠ .error (.violation .backupMode) ∧
          ∀ j, s.job m = .ok j →
            j.isChangeFeed = j.changeFeed.isSome ∧ j.isChangeFeed = l.changeFeed.isSome ∧
            (∀ g, s.scan = some g → j.ScanCoherent g) ∧
            ∀ g, s.changeFeed = some g → ∃ feed, j.FeedCoherent feed := by
  refine ⟨load_ne_backupMode d resolver l, fun s hload => ?_⟩
  obtain ⟨hsection, hkind⟩ := kind_of_load hload
  obtain ⟨-, -, hscanCheck, hfeedCheck, -⟩ :=
    (check_eq_ok_iff s).1 (check_of_load_eq_ok hload)
  refine ⟨hkind, fun m => ⟨job_ne_backupMode hload m, fun j hjob => ?_⟩⟩
  rw [← hsection]
  rcases kind_cases hkind with ⟨g, hscan, hfeed⟩ | ⟨g, hscan, hfeed⟩
  · have hj := ofScan_of_job hscan hfeed hjob
    rw [hj.isChangeFeed, hj.changeFeed, hscan, hfeed]
    refine ⟨rfl, rfl, ?_, fun _ hg => absurd hg nofun⟩
    intro g' hg'
    obtain rfl := Option.some.inj hg'
    exact scanCoherent_of_check hj (hscanCheck g hscan)
  · obtain ⟨k, hk, hj⟩ := job_of_changeFeed hscan hfeed m
    obtain rfl := Except.ok.inj (hjob.symm.trans hk)
    rw [hj.isChangeFeed, hj.changeFeed, hscan, hfeed]
    refine ⟨rfl, rfl, fun _ hg => absurd hg nofun, fun _ _ => ?_⟩
    exact ⟨feedConfig m s.infrastructure g, feedCoherent_of_check hj (hfeedCheck g hfeed)⟩

/-- An estimate of a namespace. -/
def estimateLayer : Layer :=
  { scan := some { (OptionGroup.unset : Scan Given) with
      transfer := { (OptionGroup.unset : Transfer Given) with nameSpace := some "test" }
      estimate := some true } }

/-- An estimate is accepted, and its job is coherent. -/
theorem accepted_estimate_is_coherent :
    ∃ s j g, (load .builtIn silentResolver estimateLayer).result = .ok s ∧
      s.job smallMachine = .ok j ∧ s.scan = some g ∧ j.ScanCoherent g ∧ j.estimate = true ∧
      j.directory = "" ∧ j.scan.partitionFilters = [.all] := by
  have hrun : (accepted estimateLayer).any (fun run =>
      run.1.scan.isSome && run.2.estimate) = true := by
    decide +kernel
  obtain ⟨⟨s, j⟩, haccepted, hrun⟩ := (Option.any_eq_true ..).1 hrun
  obtain ⟨hload, hjob⟩ := of_accepted_eq_some haccepted
  obtain ⟨hscan, hestimate⟩ := Bool.and_eq_true_iff.1 hrun
  obtain ⟨g, hg⟩ := Option.isSome_iff_exists.1 hscan
  obtain ⟨-, haccepted⟩ := accepted_backup_is_coherent .builtIn silentResolver estimateLayer
  obtain ⟨-, hjobs⟩ := (haccepted s hload).2 smallMachine
  obtain ⟨-, -, hcoherent, -⟩ := hjobs j hjob
  obtain ⟨hdirectory, -, hfilters, -⟩ := (hcoherent g hg).estimate hestimate
  exact ⟨s, j, g, hload, hjob, hg, hcoherent g hg, hestimate, hdirectory, hfilters⟩

end BackupService

end BackupControl
