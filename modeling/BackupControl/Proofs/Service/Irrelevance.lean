/-
# What a backup and a restore do not depend on

A backup reads nothing of the sections of the program and of a restore, and a restore nothing of
those of a backup.  Along a change feed, the scan section is heard only on the options that both
kinds of backup share, and on those that a change feed refuses.
-/
import BackupControl.Proofs.Rules.ScanOnly
import BackupControl.Proofs.Service.Job
import BackupControl.Proofs.Service.Precedence

namespace BackupControl

/-! ## Layers that agree -/

/-- Two layers have the same sections, but for some. -/
def Layer.AgreeExcept (others : List Section) (l l' : Layer) : Prop :=
  ∀ n : Section, n ∉ others → l.get n = l'.get n

namespace Layer.AgreeExcept

variable {others more : List Section} {l l' : Layer}

/-- Layers that agree but for some sections agree but for more of them. -/
theorem mono (h : AgreeExcept others l l') (hmore : others ⊆ more) : AgreeExcept more l l' :=
  fun n hn => h n fun hother => hn (hmore hother)

/-- An infrastructure depends on no section of the program, a backup or a restore. -/
theorem infrastructure_eq (h : AgreeExcept [.app, .scan, .changeFeed, .restore] l l')
    (d : Defaults) : Infrastructure.ofLayer d l = Infrastructure.ofLayer d l' := by
  -- the sections that it does not read may as well be those of the other layer
  have hsame : ({ l with
      scan := l'.scan, changeFeed := l'.changeFeed, restore := l'.restore } : Layer).SetSame l' := by
    intro n hn
    have hagree := h n
    cases n with
    | app => exact absurd rfl hn
    | scan | changeFeed | restore => rfl
    | cluster | compression | encryption | secretAgent | awsS3 | gcpStorage | azureBlob
    | localFiles => exact congrArg (·.getD OptionGroup.unset) (hagree (by decide))
  exact hsame.infrastructure_eq d

/-- A backup depends on neither the section of the program nor that of a restore. -/
theorem backup_eq (h : AgreeExcept [.app, .restore] l l') (d : Defaults) :
    BackupService.ofLayer d l = BackupService.ofLayer d l' := by
  have hscan : l.scan = l'.scan := h .scan (by decide)
  have hfeed : l.changeFeed = l'.changeFeed := h .changeFeed (by decide)
  have hrest : AgreeExcept [.app, .scan, .changeFeed, .restore] l l' := h.mono (by decide)
  rw [BackupService.ofLayer, BackupService.ofLayer, hrest.infrastructure_eq, hscan, hfeed]

/-- A restore depends on neither the section of the program nor those of a backup. -/
theorem restore_eq (h : AgreeExcept [.app, .scan, .changeFeed] l l') (d : Defaults) :
    RestoreService.ofLayer d l = RestoreService.ofLayer d l' := by
  have hrestore : l.restore = l'.restore := h .restore (by decide)
  have hrest : AgreeExcept [.app, .scan, .changeFeed, .restore] l l' := h.mono (by decide)
  rw [RestoreService.ofLayer, RestoreService.ofLayer, hrest.infrastructure_eq, hrestore]

end Layer.AgreeExcept

/-! ## Inheritance -/

/-- A change feed inherits nothing of a scan section but the options that they share. -/
theorem ChangeFeed.inherit_congr (feed : ChangeFeed Given) {scan scan' : Scan Given}
    (h : ∀ o ∈ SharedOption.all, o.scan scan = o.scan scan') :
    feed.inherit scan = feed.inherit scan' := by
  simp only [SharedOption.all, List.forall_mem_cons] at h
  obtain ⟨hname, hdirectory, hlimit, hremove, htimeout, hretries, hmultiplier, hinterval, -⟩ := h
  rw [inherit, inherit, hname, hdirectory, hlimit, hremove, htimeout, hretries, hmultiplier,
    hinterval]

namespace BackupService

variable {d : Defaults} {l l' : Layer}

/-- A change-feed backup that is not refused hears the scan section on the shared options only. -/
theorem ofLayer_congr_of_shared (hfeed : l.changeFeed.isSome = true)
    (hagree : Layer.AgreeExcept [.app, .scan, .restore] l l')
    (hscanOnly : (l.scan.getD OptionGroup.unset).scanOnly = [])
    (hscanOnly' : (l'.scan.getD OptionGroup.unset).scanOnly = [])
    (hshared : ∀ o ∈ SharedOption.all, l.scanValue? o = l'.scanValue? o) :
    ofLayer d l = ofLayer d l' := by
  obtain ⟨feed, hfeed⟩ := Option.isSome_iff_exists.1 hfeed
  have hfeed' : l'.changeFeed = some feed := (hagree .changeFeed (by decide)).symm.trans hfeed
  have hrest : Layer.AgreeExcept [.app, .scan, .changeFeed, .restore] l l' :=
    hagree.mono (by decide)
  have hinherit : feed.inherit (l.scan.getD OptionGroup.unset) =
      feed.inherit (l'.scan.getD OptionGroup.unset) := by
    refine feed.inherit_congr fun o ho => ?_
    rw [SharedOption.scan_getD_unset ho, SharedOption.scan_getD_unset ho]
    exact hshared o ho
  rw [ofLayer_of_scanOnly_eq_nil hfeed hscanOnly, ofLayer_of_scanOnly_eq_nil hfeed' hscanOnly',
    hrest.infrastructure_eq, hinherit]

/-- What is loaded for a layer depends on its backup. -/
theorem load_congr (resolver : SecretResolver) (h : ofLayer d l = ofLayer d l') :
    load d resolver l = load d resolver l' := by
  rw [load, load, h]

/-! ## What other sections can do -/

/-- **What the other sections can do to a backup.**

* Layers with a change-feed section are refused just if one of them sets an option other than an
  estimate that means something to a scan only, or the last to say whether to estimate asks for it.
  The option that is named is the first of those that count among the layers, in the order in which
  they are looked for; it is the first to be declared just if they are not out of order.
* Change feeds that are not refused are loaded alike from layers that agree on what is shared with
  a scan and on the sections that are not those of the program, a scan or a restore.
* A backup is loaded without regard to the sections of the program and of a restore, and a restore
  without regard to those of the program and of a backup. -/
theorem backup_depends_on (d : Defaults) (resolver : SecretResolver) :
    (∀ ls : List Layer, (ls.foldl Layer.overlay Layer.empty).changeFeed.isSome = true →
      ((∃ v, ofLayer d (ls.foldl Layer.overlay Layer.empty) = .error v) ↔
        (∃ l ∈ ls, ∃ name ∈ Scan.scanOnlyNames, name ≠ "estimate" ∧ l.setsScan name = true) ∨
          Layer.lastEstimate? ls = some true) ∧
      ∀ v, ofLayer d (ls.foldl Layer.overlay Layer.empty) = .error v →
        ∃ name, v = .unsupportedForChangeFeed name ∧
          Scan.scanOnlyNames.find? (Layer.countsAmong ls) = some name ∧
          (Scan.declaredScanOnlyNames.find? (Layer.countsAmong ls) = some name ↔
            ¬ Layer.OutOfOrder ls)) ∧
    (∀ l l' : Layer, l.changeFeed.isSome = true →
      Layer.AgreeExcept [.app, .scan, .restore] l l' →
      (l.scan.getD OptionGroup.unset).scanOnly = [] →
      (l'.scan.getD OptionGroup.unset).scanOnly = [] →
      (∀ o ∈ SharedOption.all, l.scanValue? o = l'.scanValue? o) →
      load d resolver l = load d resolver l' ∧
        ∀ m, ((load d resolver l).result >>= job m) = ((load d resolver l').result >>= job m)) ∧
    (∀ l l' : Layer, Layer.AgreeExcept [.app, .restore] l l' →
      load d resolver l = load d resolver l') ∧
    ∀ l l' : Layer, Layer.AgreeExcept [.app, .scan, .changeFeed] l l' →
      RestoreService.load d resolver l = RestoreService.load d resolver l' := by
  refine ⟨fun ls hfeed => ⟨exists_ofLayer_foldl_eq_error_iff hfeed, fun v hv => ?_⟩, ?_,
    fun l l' h => load_congr resolver (h.backup_eq d), fun l l' h => ?_⟩
  · obtain ⟨name, hname, rfl⟩ := (ofLayer_foldl_eq_error_iff hfeed).1 hv
    have horder := Layer.find?_countsAmong_eq_iff ls
    rw [hname] at horder
    exact ⟨name, rfl, hname, eq_comm.trans horder⟩
  · intro l l' hfeed hagree hscanOnly hscanOnly' hshared
    have hlayer : ofLayer d l = ofLayer d l' :=
      ofLayer_congr_of_shared hfeed hagree hscanOnly hscanOnly' hshared
    have hload := load_congr resolver hlayer
    exact ⟨hload, fun m => by rw [hload]⟩
  · rw [RestoreService.load, RestoreService.load, h.restore_eq d]

/-- A change feed into a folder, beside a scan section. -/
def besideScan (scan : Option (Scan Given)) : Layer :=
  { scan := scan
    changeFeed := some { (OptionGroup.unset : ChangeFeed Given) with
      nameSpace := some "test"
      directory := some "/b" } }

/-- How many workers a scan has does not matter along a change feed, nor does a program that talks
much. -/
theorem backup_depends_on_of_parallel :
    ∃ s, (load .builtIn silentResolver (besideScan none)).result = .ok s ∧
      load .builtIn silentResolver (besideScan none) =
        load .builtIn silentResolver
          { besideScan (some { (OptionGroup.unset : Scan Given) with
              transfer := { (OptionGroup.unset : Transfer Given) with parallel := some 8 } }) with
            app := some { (OptionGroup.unset : App Given) with verbose := some true } } := by
  have hrun : (accepted (besideScan none)).isSome = true := by
    decide +kernel
  obtain ⟨⟨s, j⟩, haccepted⟩ := Option.isSome_iff_exists.1 hrun
  refine ⟨s, (of_accepted_eq_some haccepted).1, ?_⟩
  obtain ⟨-, hload, -⟩ := backup_depends_on .builtIn silentResolver
  refine (hload _ _ rfl ?_ rfl rfl ?_).1
  · intro n hn
    cases n <;> first | rfl | exact absurd (by decide) hn
  · simp only [SharedOption.all, List.forall_mem_cons]
    exact ⟨rfl, rfl, rfl, rfl, rfl, rfl, rfl, rfl, List.forall_mem_nil _⟩

/-- A change feed beside a scan of records that never expire, after a digest. -/
def outOfOrderLayer : Layer :=
  besideScan (some { (OptionGroup.unset : Scan Given) with
    noTtlOnly := some true
    afterDigest := some "x" })

/-- The option that is named need not be the first to be declared of those that are set. -/
theorem named_option_is_not_the_first_declared :
    ofLayer .builtIn ([outOfOrderLayer].foldl Layer.overlay Layer.empty) =
        .error (.unsupportedForChangeFeed "after-digest") ∧
      Scan.declaredScanOnlyNames.find? (Layer.countsAmong [outOfOrderLayer]) =
        some "no-ttl-only" := by
  constructor
  · exact (ofLayer_foldl_eq_error_iff rfl).2 ⟨"after-digest", by decide +kernel, rfl⟩
  · decide +kernel

end BackupService

end BackupControl
