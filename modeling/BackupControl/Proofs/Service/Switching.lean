/-
# From a scan to a change feed

An empty change-feed section turns the scan backup of a layer into one along the change feed.
The built-in values of the two groups agree on the options that they share, and what the scan
section sets for such an option is inherited, so its value stays.  The two jobs are put together
by different functions, which take the shared options over alike.
-/
import BackupControl.Proofs.Service.Job
import BackupControl.Proofs.Service.Precedence

namespace BackupControl

/-! ## Values -/

/-- The layer with an empty change-feed section. -/
def Layer.alongFeed (l : Layer) : Layer := { l with changeFeed := some OptionGroup.unset }

/-- Where both groups have an option, its built-in value is the same. -/
theorem SharedOption.feed_builtIn {o : SharedOption} (ho : o ∈ all) :
    o.feed Defaults.builtIn.changeFeed = o.scan Defaults.builtIn.scan := by
  revert o
  simp only [all, List.forall_mem_cons]
  exact ⟨rfl, rfl, rfl, rfl, rfl, rfl, rfl, rfl, List.forall_mem_nil _⟩

/-- An empty change-feed section sets no shared option. -/
theorem SharedOption.feed_unset {o : SharedOption} (ho : o ∈ all) :
    o.feed (OptionGroup.unset : ChangeFeed Given) = none := by
  revert o
  simp only [all, List.forall_mem_cons]
  exact ⟨rfl, rfl, rfl, rfl, rfl, rfl, rfl, rfl, List.forall_mem_nil _⟩

/-- A shared option of a scan has the value of the scan section, then the one below. -/
theorem SharedOption.scan_settle {o : SharedOption} (ho : o ∈ all) (scan : Scan Given)
    (values : Scan Settled) :
    o.scan (OptionGroup.settle scan values) = (o.scan scan).getD (o.scan values) := by
  revert o
  simp only [all, List.forall_mem_cons]
  exact ⟨rfl, rfl, rfl, rfl, rfl, rfl, rfl, rfl, List.forall_mem_nil _⟩

/-- A change feed that inherits all shared options has the values of the scan. -/
theorem SharedOption.feed_eq_scan {o : SharedOption} (ho : o ∈ all) (scan : Scan Given) :
    o.feed (OptionGroup.settle ((OptionGroup.unset : ChangeFeed Given).inherit scan)
        Defaults.builtIn.changeFeed) =
      o.scan (OptionGroup.settle scan Defaults.builtIn.scan) := by
  rw [feed_settle_inherit ho, feed_unset ho, Option.none_or, scan_settle ho, feed_builtIn ho]

/-- A scan section without options that mean something to a scan only names no output file. -/
theorem Scan.outputFile_of_scanOnly {scan : Scan Given} (h : scan.scanOnly = []) :
    scan.outputFile = none := by
  cases hfile : scan.outputFile with
  | none => rfl
  | some file => simp [scanOnly, hfile] at h

/-! ## Jobs -/

/-- The job of a change feed has what the job of a scan has, as far as the options go that they
share. -/
structure BackupJob.KeptAlong (scanJob feedJob : BackupJob) (feed : FeedConfig) : Prop where
  changeFeed : feedJob.changeFeed = some feed
  fileLimit : feed.fileLimit = scanJob.scan.fileLimit
  infoPolicy : feed.infoPolicy = scanJob.scan.infoPolicy
  infoRetryPolicy : feed.infoRetryPolicy = scanJob.scan.infoRetryPolicy
  compressionPolicy : feed.compressionPolicy = scanJob.scan.compressionPolicy
  encryptionPolicy : feed.encryptionPolicy = scanJob.scan.encryptionPolicy
  agent : feed.agent = scanJob.scan.agent
  directory : feedJob.directory = scanJob.directory
  cluster : feedJob.cluster = scanJob.cluster
  storage : feedJob.storage = scanJob.storage
  nameSpace : feed.nameSpace = scanJob.scan.nameSpace
  scanNameSpace : feedJob.scan.nameSpace = scanJob.scan.nameSpace

namespace BackupService

/-- A change feed has the shared options of a scan, and whenever the scan has a job, the change feed
has one that keeps what they share. -/
structure SwitchedTo (s t : BackupService) (g : Scan Settled) (f : ChangeFeed Settled) : Prop where
  scan : s.scan = some g ∧ s.changeFeed = none
  feed : t.scan = none ∧ t.changeFeed = some f
  shared : ∀ o ∈ SharedOption.all, o.feed f = o.scan g
  job : ∀ m j, s.job m = .ok j → ∃ k feed, t.job m = .ok k ∧ j.KeptAlong k feed

variable {s t : BackupService} {g : Scan Settled} {f : ChangeFeed Settled}

/-- A scan into a folder and a change feed with the same shared options, in the same surroundings,
have jobs that agree. -/
theorem switchedTo_of_shared (hscan : s.scan = some g ∧ s.changeFeed = none)
    (hfeed : t.scan = none ∧ t.changeFeed = some f)
    (hinfrastructure : t.infrastructure = s.infrastructure) (houtput : g.outputFile = "")
    (hshared : ∀ o ∈ SharedOption.all, o.feed f = o.scan g) : s.SwitchedTo t g f := by
  refine ⟨hscan, hfeed, hshared, fun m j hjob => ?_⟩
  simp only [SharedOption.all, List.forall_mem_cons] at hshared
  obtain ⟨hname, hdirectory, hlimit, -, htimeout, hretries, hmultiplier, hinterval, -⟩ := hshared
  have hj := ofScan_of_job hscan.1 hscan.2 hjob
  have hcarries := ScanConfig.carries_of_scanConfig hj.scan
  have hfields := ScanConfig.from_of_scanConfig hj.scan
  obtain ⟨hcluster, hstorage⟩ := infrastructure_of_job hjob
  obtain ⟨k, hkjob, hk⟩ := job_of_changeFeed hfeed.1 hfeed.2 m
  obtain ⟨hcluster', hstorage'⟩ := infrastructure_of_job hkjob
  rw [hinfrastructure] at hk hcluster' hstorage'
  refine ⟨k, feedConfig m s.infrastructure f, hkjob, ?_⟩
  exact {
    changeFeed := hk.changeFeed
    fileLimit := by
      rw [hfields.fileLimit, fileLimit, if_pos houtput]
      exact congrArg bytesOfMiB hlimit
    infoPolicy := by
      rw [hcarries.infoPolicy]
      exact congrArg (fun ms => InfoPolicy.mk (.ofMillis ms)) htimeout
    infoRetryPolicy := by
      rw [hcarries.infoRetryPolicy, Transfer.infoRetryPolicy, ← hinterval, ← hmultiplier,
        ← hretries]
      rfl
    compressionPolicy := hcarries.compressionPolicy.symm
    encryptionPolicy := hcarries.encryptionPolicy.symm
    agent := hcarries.agent.symm
    directory := hk.directory.trans (hdirectory.trans hj.directory.symm)
    cluster := hcluster'.trans hcluster.symm
    storage := hstorage'.trans hstorage.symm
    nameSpace := hname.trans hcarries.nameSpace.symm
    scanNameSpace := by
      rw [hk.scan, hcarries.nameSpace]
      exact hname }

/-- **Switching to a change feed keeps the shared options.**  With an empty change-feed section, a
layer that sets no option for a scan only has a change-feed backup in which every shared option has
the value that it has in the scan of the layer, and whenever that scan has a job, the change feed
has one that keeps it.  This is so of the backups as they are settled, and of those that are
loaded. -/
theorem switching_keeps_shared_options {l : Layer} (hfeed : l.changeFeed = none)
    (hscanOnly : (l.scan.getD OptionGroup.unset).scanOnly = []) :
    ∃ g f,
      (∃ s t, ofLayer .builtIn l = .ok s ∧ ofLayer .builtIn l.alongFeed = .ok t ∧
        s.SwitchedTo t g f) ∧
      ∀ resolver s t, (load .builtIn resolver l).result = .ok s →
        (load .builtIn resolver l.alongFeed).result = .ok t → s.SwitchedTo t g f := by
  have hscan := ofLayer_of_changeFeed_eq_none (d := .builtIn) hfeed
  have hswitched := ofLayer_of_scanOnly_eq_nil (d := .builtIn) (l := l.alongFeed) rfl hscanOnly
  have houtput : (settleSection l.scan Defaults.builtIn.scan).outputFile = "" :=
    congrArg (·.getD "") (Scan.outputFile_of_scanOnly hscanOnly)
  have hshared (o : SharedOption) (ho : o ∈ SharedOption.all) :=
    SharedOption.feed_eq_scan ho (l.scan.getD OptionGroup.unset)
  refine ⟨_, _, ⟨_, _, hscan, hswitched,
    switchedTo_of_shared ⟨rfl, rfl⟩ ⟨rfl, rfl⟩ rfl houtput hshared⟩, ?_⟩
  intro resolver s t hs ht
  -- references are replaced in the infrastructure, which is the same for both
  obtain ⟨s', hs', hcomplete⟩ := of_load_eq_ok hs
  obtain ⟨t', ht', hcomplete'⟩ := of_load_eq_ok ht
  obtain rfl := Except.ok.inj (hscan.symm.trans hs')
  obtain rfl := Except.ok.inj (hswitched.symm.trans ht')
  obtain ⟨hkind, hnone, hresolve, -⟩ := of_complete_eq_ok hcomplete
  obtain ⟨hnone', hkind', hresolve', -⟩ := of_complete_eq_ok hcomplete'
  have hinfrastructure : t.infrastructure = s.infrastructure :=
    Except.ok.inj (hresolve'.symm.trans hresolve)
  exact switchedTo_of_shared ⟨hkind, hnone⟩ ⟨hnone', hkind'⟩ hinfrastructure houtput hshared

/-- A scan that sets options of its own, and of those that it shares with a change feed some and
not others. -/
def sharingLayer : Layer :=
  { scan := some { (OptionGroup.unset : Scan Given) with
      transfer := { (OptionGroup.unset : Transfer Given) with
        nameSpace := some "test"
        directory := some "/b"
        infoTimeout := some 2500 }
      fileLimit := some 50
      compact := some true
      estimate := some false }
    compression := some { (OptionGroup.unset : Compression Given) with mode := some "zstd" } }

/-- The scan and the change feed are both accepted, and a file may have as many bytes in either. -/
theorem switching_keeps_shared_options_of_folder :
    sharingLayer.changeFeed = none ∧
      (sharingLayer.scan.getD OptionGroup.unset).scanOnly = [] ∧
      ∃ s t j k feed, (load .builtIn silentResolver sharingLayer).result = .ok s ∧
        (load .builtIn silentResolver sharingLayer.alongFeed).result = .ok t ∧
        s.job smallMachine = .ok j ∧ t.job smallMachine = .ok k ∧ j.KeptAlong k feed ∧
        feed.fileLimit.toNat = 50 * 1048576 ∧ feed.infoPolicy = ⟨⟨2, 500000000⟩⟩ := by
  refine ⟨rfl, rfl, ?_⟩
  have hrun : (accepted sharingLayer).any (fun run =>
      run.2.scan.fileLimit.toNat == 50 * 1048576 &&
        run.2.scan.infoPolicy == ⟨⟨2, 500000000⟩⟩) = true := by
    decide +kernel
  have hrun' : (accepted sharingLayer.alongFeed).isSome = true := by
    decide +kernel
  obtain ⟨⟨s, j⟩, haccepted, hrun⟩ := (Option.any_eq_true ..).1 hrun
  obtain ⟨⟨t, k⟩, haccepted'⟩ := Option.isSome_iff_exists.1 hrun'
  obtain ⟨hload, hjob⟩ := of_accepted_eq_some haccepted
  obtain ⟨hload', hjob'⟩ := of_accepted_eq_some haccepted'
  obtain ⟨hlimit, htimeout⟩ := Bool.and_eq_true_iff.1 hrun
  obtain ⟨g, f, -, hswitched⟩ := switching_keeps_shared_options (l := sharingLayer) rfl rfl
  obtain ⟨k', feed, hk', hkept⟩ :=
    (hswitched silentResolver s t hload hload').job smallMachine j hjob
  obtain rfl := Except.ok.inj (hjob'.symm.trans hk')
  refine ⟨s, t, j, k, feed, hload, hload', hjob, hjob', hkept, ?_, ?_⟩
  · rw [hkept.fileLimit]
    exact beq_iff_eq.1 hlimit
  · rw [hkept.infoPolicy]
    exact beq_iff_eq.1 htimeout

end BackupService

end BackupControl
