/-
# What a backup job consists of

The job of a backup field by field, for a scan and for a change feed.  The literals among the
options of a scan are read while its config is put together, so its config tells what they
denote.  Later modules cite these facts and do not open the functions that assemble a job.
-/
import BackupControl.Proofs.Rules.Backup

namespace BackupControl

/-! ## Configs -/

/-- The fields of a scan config that are read from a literal, or that depend on more than one
option. -/
structure ScanConfig.From (m : Machine) (g : Scan Settled) (c : ScanConfig) : Prop where
  racks : g.racks = .ok c.rackList
  partitions : g.partitionFilters = .ok c.partitionFilters
  policy : g.scanPolicy = .ok c.scanPolicy
  before : m.readTime? g.modifiedBefore = .ok c.modifiedBefore
  after : m.readTime? g.modifiedAfter = .ok c.modifiedAfter
  nodes : c.nodeList = g.nodes
  parallelRead : c.parallelRead = g.transfer.parallel
  parallelWrite : c.parallelWrite = BackupService.writers g
  fileLimit : c.fileLimit = BackupService.fileLimit g
  stateFile : c.stateFile = BackupService.stateFile? g
  isContinued : c.isContinued = (g.continueFrom != "")
  pageSize : c.pageSize = if c.stateFile.isSome then g.scanPageSize else 0

/-- A scan config that is complete has read every literal. -/
theorem ScanConfig.from_of_scanConfig {m : Machine} {i : Infrastructure} {g : Scan Settled}
    {c : ScanConfig} (h : BackupService.scanConfig m i g = .ok c) : c.From m g := by
  simp only [BackupService.scanConfig, bind_eq_ok_iff, mapError_eq_ok_iff, during_eq_ok_iff] at h
  obtain ⟨racks, hracks, filters, hfilters, policy, hpolicy, before, hbefore, after, hafter, h⟩ := h
  obtain rfl := pure_eq_ok_iff.1 h
  exact {
    racks := hracks
    partitions := hfilters
    policy := hpolicy
    before := hbefore
    after := hafter
    nodes := rfl
    parallelRead := rfl
    parallelWrite := rfl
    fileLimit := rfl
    stateFile := rfl
    isContinued := rfl
    pageSize := rfl }

/-- The fields of a scan config that are taken from the infrastructure, or from an option that a
change feed has as well. -/
structure ScanConfig.Carries (i : Infrastructure) (g : Scan Settled) (c : ScanConfig) : Prop where
  nameSpace : c.nameSpace = g.transfer.nameSpace
  infoPolicy : c.infoPolicy = g.transfer.infoPolicy
  infoRetryPolicy : c.infoRetryPolicy = g.transfer.infoRetryPolicy
  compressionPolicy : c.compressionPolicy = i.compression.policy?
  encryptionPolicy : c.encryptionPolicy = i.encryption.policy?
  agent : c.agent = i.secretAgent.config?

/-- A scan config that is complete has taken them over. -/
theorem ScanConfig.carries_of_scanConfig {m : Machine} {i : Infrastructure} {g : Scan Settled}
    {c : ScanConfig} (h : BackupService.scanConfig m i g = .ok c) : c.Carries i g := by
  simp only [BackupService.scanConfig, bind_eq_ok_iff] at h
  obtain ⟨racks, -, filters, -, policy, -, before, -, after, -, h⟩ := h
  obtain rfl := pure_eq_ok_iff.1 h
  exact {
    nameSpace := rfl
    infoPolicy := rfl
    infoRetryPolicy := rfl
    compressionPolicy := rfl
    encryptionPolicy := rfl
    agent := rfl }

/-! ## Kinds of backups -/

/-- A backup of exactly one kind is a scan or follows a change feed. -/
theorem BackupService.kind_cases {s : BackupService} (h : s.scan.isSome = !s.changeFeed.isSome) :
    (∃ g, s.scan = some g ∧ s.changeFeed = none) ∨
      ∃ g, s.scan = none ∧ s.changeFeed = some g := by
  cases hscan : s.scan with
  | none =>
    rw [hscan, Option.isSome_none, Bool.false_eq, Bool.not_eq_false'] at h
    obtain ⟨g, hfeed⟩ := Option.isSome_iff_exists.1 h
    exact .inr ⟨g, rfl, hfeed⟩
  | some g =>
    rw [hscan, Option.isSome_some, Bool.true_eq, Bool.not_eq_true', Option.isSome_eq_false_iff,
      Option.isNone_iff_eq_none] at h
    exact .inl ⟨g, rfl, h⟩

/-! ## Jobs -/

/-- The job of a scan backup. -/
structure BackupJob.OfScan (m : Machine) (i : Infrastructure) (g : Scan Settled)
    (j : BackupJob) : Prop where
  scan : BackupService.scanConfig m i g = .ok j.scan
  changeFeed : j.changeFeed = none
  directory : j.directory = g.transfer.directory
  outputFile : j.outputFile = g.outputFile
  estimate : j.estimate = g.estimate
  removeArtifacts : j.removeArtifacts = g.removeArtifacts
  isChangeFeed : j.isChangeFeed = false
  isContinued : j.isContinued = (g.continueFrom != "")
  isStopXdr : j.isStopXdr = false
  isUnblockMrt : j.isUnblockMrt = false
  writesToOutput : j.writesToOutput = (g.outputFile == BackupService.outputMark)
  clearsTarget : j.clearsTarget = g.clearsTarget
  savesState : j.savesState = g.savesState

/-- The job of a change-feed backup. -/
structure BackupJob.OfChangeFeed (m : Machine) (i : Infrastructure) (g : ChangeFeed Settled)
    (j : BackupJob) : Prop where
  scan : j.scan = { nameSpace := g.nameSpace, noRecords := true }
  changeFeed : j.changeFeed = some (BackupService.feedConfig m i g)
  directory : j.directory = g.directory
  outputFile : j.outputFile = ""
  estimate : j.estimate = false
  removeArtifacts : j.removeArtifacts = false
  isChangeFeed : j.isChangeFeed = true
  isContinued : j.isContinued = false
  isStopXdr : j.isStopXdr = g.stopXdr
  isUnblockMrt : j.isUnblockMrt = g.unblockMrt
  writesToOutput : j.writesToOutput = false
  clearsTarget : j.clearsTarget = g.removeFiles
  savesState : j.savesState = false

namespace BackupService

variable {m : Machine} {s : BackupService} {j : BackupJob}

/-- A scan backup that has a job has that of a scan. -/
theorem ofScan_of_job {g : Scan Settled} (hscan : s.scan = some g) (hfeed : s.changeFeed = none)
    (h : s.job m = .ok j) : j.OfScan m s.infrastructure g := by
  -- the service is taken apart, so that every branch on its kind is decided
  obtain ⟨infrastructure, scan, changeFeed⟩ := s
  dsimp only at hscan hfeed
  subst hscan hfeed
  rw [job, bind_eq_ok_iff] at h
  obtain ⟨⟨scan, changeFeed⟩, hconfigs, h⟩ := h
  obtain rfl := pure_eq_ok_iff.1 h
  obtain ⟨c, hc, hpair⟩ := map_eq_ok_iff.1 hconfigs
  obtain ⟨rfl, rfl⟩ := Prod.mk.inj hpair
  exact {
    scan := during_eq_ok_iff.1 hc
    changeFeed := rfl
    directory := rfl
    outputFile := rfl
    estimate := rfl
    removeArtifacts := rfl
    isChangeFeed := rfl
    isContinued := rfl
    isStopXdr := rfl
    isUnblockMrt := rfl
    writesToOutput := rfl
    clearsTarget := rfl
    savesState := rfl }

/-- The config of a scan stands in its job. -/
theorem scanConfig_of_job {g : Scan Settled} (hscan : s.scan = some g) (h : s.job m = .ok j) :
    scanConfig m s.infrastructure g = .ok j.scan := by
  rw [job, bind_eq_ok_iff] at h
  obtain ⟨⟨c, feed⟩, hconfigs, h⟩ := h
  obtain rfl := pure_eq_ok_iff.1 h
  rw [configs, hscan] at hconfigs
  obtain ⟨c', hc, hpair⟩ := map_eq_ok_iff.1 hconfigs
  obtain ⟨rfl, -⟩ := Prod.mk.inj hpair
  exact during_eq_ok_iff.1 hc

/-- A scan backup has no job just if its config cannot be put together. -/
theorem job_eq_error_iff {g : Scan Settled} (hscan : s.scan = some g) {failure : Failure} :
    s.job m = .error failure ↔
      ∃ cause, scanConfig m s.infrastructure g = .error cause ∧
        failure = .during .mappingBackup cause := by
  have hconfigs : s.configs m =
      ((scanConfig m s.infrastructure g).during .mappingBackup).map fun c => (c, none) := by
    rw [configs, hscan]
  rw [job, bind_eq_error_iff, hconfigs, map_eq_error_iff, Result.during, mapError_eq_error_iff]
  constructor
  · rintro (⟨cause, hcause, hfailure⟩ | ⟨_, -, h⟩)
    · exact ⟨cause, hcause, hfailure.symm⟩
    · exact absurd h pure_ne_error
  · rintro ⟨cause, hcause, hfailure⟩
    exact .inl ⟨cause, hcause, hfailure.symm⟩

/-- A scan backup has a job just if its config can be put together. -/
theorem exists_job_iff {g : Scan Settled} (hscan : s.scan = some g) (hfeed : s.changeFeed = none) :
    (∃ j, s.job m = .ok j) ↔ ∃ c, scanConfig m s.infrastructure g = .ok c := by
  constructor
  · rintro ⟨j, hjob⟩
    exact ⟨j.scan, (ofScan_of_job hscan hfeed hjob).scan⟩
  · rintro ⟨c, hc⟩
    cases hjob : s.job m with
    | ok j => exact ⟨j, rfl⟩
    | error failure =>
      obtain ⟨cause, hcause, -⟩ := (job_eq_error_iff hscan).1 hjob
      exact absurd (hc.symm.trans hcause) nofun

/-- A change-feed backup has the job of a change feed, whatever its options are. -/
theorem job_of_changeFeed {g : ChangeFeed Settled} (hscan : s.scan = none)
    (hfeed : s.changeFeed = some g) (m : Machine) :
    ∃ j, s.job m = .ok j ∧ j.OfChangeFeed m s.infrastructure g := by
  obtain ⟨infrastructure, scan, changeFeed⟩ := s
  dsimp only at hscan hfeed
  subst hscan hfeed
  exact ⟨_, rfl, {
    scan := rfl
    changeFeed := rfl
    directory := rfl
    outputFile := rfl
    estimate := rfl
    removeArtifacts := rfl
    isChangeFeed := rfl
    isContinued := rfl
    isStopXdr := rfl
    isUnblockMrt := rfl
    writesToOutput := rfl
    clearsTarget := rfl
    savesState := rfl }⟩

/-- The job of a backup of either kind has the cluster and the store of its infrastructure. -/
theorem infrastructure_of_job (h : s.job m = .ok j) :
    j.cluster = s.infrastructure.cluster.config ∧ j.storage = s.infrastructure.stores.target := by
  rw [job, bind_eq_ok_iff] at h
  obtain ⟨_, -, h⟩ := h
  obtain rfl := pure_eq_ok_iff.1 h
  exact ⟨rfl, rfl⟩

/-! ## Runs without secrets -/

/-- No agent answers. -/
def silentResolver : SecretResolver := fun _ _ => .error .noSecretAgent

/-- A machine with one processor, in universal time. -/
def smallMachine : Machine := ⟨.universal, ⟨2024, 1, 1⟩, 1⟩

/-- The backup of a layer over the built-in values and its job, if both are accepted. -/
def accepted (l : Layer) : Option (BackupService × BackupJob) :=
  (load .builtIn silentResolver l).result.toOption.bind fun s =>
    (s.job smallMachine).toOption.map fun j => (s, j)

/-- What is accepted was loaded and has a job. -/
theorem of_accepted_eq_some {l : Layer} (h : accepted l = some (s, j)) :
    (load .builtIn silentResolver l).result = .ok s ∧ s.job smallMachine = .ok j := by
  obtain ⟨t, hload, h⟩ := Option.bind_eq_some_iff.1 h
  obtain ⟨k, hjob, hpair⟩ := Option.map_eq_some_iff.1 h
  obtain ⟨rfl, rfl⟩ := Prod.mk.inj hpair
  exact ⟨toOption_eq_some_iff.1 hload, toOption_eq_some_iff.1 hjob⟩

end BackupService

end BackupControl
