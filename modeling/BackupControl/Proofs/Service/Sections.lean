/-
# Sections of a service

The groups of values that a service holds, under the index of sections.  Each of them is the
section of the layer over the built-in values, so a service depends on its layer only through
what the sections set, and, for a backup, through the presence of the change-feed section.
-/
import BackupControl.Proofs.Options.Layering
import BackupControl.Service.Load

namespace BackupControl

/-! ## Values of a service -/

/-- The values of an infrastructure for a section that it has. -/
def Infrastructure.get (i : Infrastructure) : (n : Section) → Option (n.Group Settled)
  | .cluster => some i.cluster
  | .compression => some i.compression
  | .encryption => some i.encryption
  | .secretAgent => some i.secretAgent
  | .awsS3 => some i.awsS3
  | .gcpStorage => some i.gcpStorage
  | .azureBlob => some i.azureBlob
  | .localFiles => some i.localFiles
  | .app | .scan | .changeFeed | .restore => none

/-- The values of a restore for a section that it has. -/
def RestoreService.get (s : RestoreService) : (n : Section) → Option (n.Group Settled)
  | .restore => some s.restore
  | n => s.infrastructure.get n

/-- The values of a backup for a section that it has. -/
def BackupService.get (s : BackupService) : (n : Section) → Option (n.Group Settled)
  | .scan => s.scan
  | .changeFeed => s.changeFeed
  | n => s.infrastructure.get n

/-! ## Services of a layer -/

variable {d : Defaults} {l l' : Layer} {n : Section}

/-- An infrastructure holds the sections of its layer over the built-in values. -/
theorem Infrastructure.get_ofLayer {values : n.Group Settled}
    (h : (ofLayer d l).get n = some values) : values = settleSection (l.get n) (d.get n) := by
  cases n <;> first | exact (Option.some.inj h).symm | exact absurd h nofun

/-- A restore holds the sections of its layer over the built-in values. -/
theorem RestoreService.get_ofLayer {values : n.Group Settled}
    (h : (ofLayer d l).get n = some values) : values = settleSection (l.get n) (d.get n) := by
  cases n with
  | restore => exact (Option.some.inj h).symm
  | app | cluster | scan | changeFeed | compression | encryption | secretAgent | awsS3
  | gcpStorage | azureBlob | localFiles => exact Infrastructure.get_ofLayer h

/-- Without a change-feed section there is a scan backup. -/
theorem BackupService.ofLayer_of_changeFeed_eq_none (h : l.changeFeed = none) :
    ofLayer d l = .ok ⟨Infrastructure.ofLayer d l, some (settleSection l.scan d.scan), none⟩ := by
  rw [ofLayer, h]
  rfl

/-- A scan backup holds the sections of its layer over the built-in values. -/
theorem BackupService.get_ofLayer (hfeed : l.changeFeed = none) {s : BackupService}
    (hs : ofLayer d l = .ok s) {values : n.Group Settled} (h : s.get n = some values) :
    values = settleSection (l.get n) (d.get n) := by
  rw [ofLayer_of_changeFeed_eq_none hfeed] at hs
  obtain rfl := Except.ok.inj hs
  cases n with
  | scan => exact (Option.some.inj h).symm
  | app | cluster | restore | changeFeed | compression | encryption | secretAgent | awsS3
  | gcpStorage | azureBlob | localFiles => exact Infrastructure.get_ofLayer h

/-- With a change-feed section there is a change-feed backup, unless the scan section sets an
option that means nothing to it. -/
theorem BackupService.ofLayer_of_changeFeed_eq_some {feed : ChangeFeed Given}
    (h : l.changeFeed = some feed) {s : BackupService} (hs : ofLayer d l = .ok s) :
    (l.scan.getD OptionGroup.unset).scanOnly = [] ∧
      s = ⟨Infrastructure.ofLayer d l, none,
        some (OptionGroup.settle (feed.inherit (l.scan.getD OptionGroup.unset)) d.changeFeed)⟩ := by
  simp only [ofLayer, h] at hs
  split at hs
  · exact absurd hs nofun
  · rename_i hscanOnly
    exact ⟨hscanOnly, (Except.ok.inj hs).symm⟩

/-- With a change-feed section and no option that it refuses, there is a change-feed backup. -/
theorem BackupService.ofLayer_of_scanOnly_eq_nil {feed : ChangeFeed Given}
    (hfeed : l.changeFeed = some feed)
    (hscanOnly : (l.scan.getD OptionGroup.unset).scanOnly = []) :
    ofLayer d l = .ok ⟨Infrastructure.ofLayer d l, none,
      some (OptionGroup.settle (feed.inherit (l.scan.getD OptionGroup.unset)) d.changeFeed)⟩ := by
  simp only [ofLayer, hfeed, hscanOnly]

/-- The backup of a layer has its infrastructure. -/
theorem BackupService.infrastructure_of_ofLayer {s : BackupService} (h : ofLayer d l = .ok s) :
    s.infrastructure = Infrastructure.ofLayer d l := by
  cases hfeed : l.changeFeed with
  | none =>
    rw [ofLayer_of_changeFeed_eq_none hfeed] at h
    rw [← Except.ok.inj h]
  | some feed =>
    obtain ⟨-, rfl⟩ := ofLayer_of_changeFeed_eq_some hfeed h
    rfl

/-- With a change-feed section, a layer is refused for the first of the options that mean
something to a scan only. -/
theorem BackupService.ofLayer_eq_error_iff (hfeed : l.changeFeed.isSome = true) {v : Violation} :
    ofLayer d l = .error v ↔
      ∃ option, (l.scan.getD OptionGroup.unset).scanOnly.head? = some option ∧
        v = .unsupportedForChangeFeed option := by
  obtain ⟨feed, hfeed⟩ := Option.isSome_iff_exists.1 hfeed
  cases hscanOnly : (l.scan.getD OptionGroup.unset).scanOnly with
  | nil =>
    rw [ofLayer_of_scanOnly_eq_nil hfeed hscanOnly]
    exact ⟨fun h => absurd h nofun, fun ⟨_, h, _⟩ => absurd h nofun⟩
  | cons option others =>
    simp only [ofLayer, hfeed, hscanOnly, List.head?_cons]
    constructor
    · exact fun h => ⟨option, rfl, (Except.error.inj h).symm⟩
    · rintro ⟨_, hoption, rfl⟩
      obtain rfl := Option.some.inj hoption
      rfl

/-- A layer has a backup of exactly one kind, and the presence of the change-feed section decides
which. -/
theorem BackupService.kind_of_ofLayer {s : BackupService} (hs : ofLayer d l = .ok s) :
    s.changeFeed.isSome = l.changeFeed.isSome ∧ s.scan.isSome = !s.changeFeed.isSome := by
  cases hfeed : l.changeFeed with
  | none =>
    rw [ofLayer_of_changeFeed_eq_none hfeed] at hs
    obtain rfl := Except.ok.inj hs
    exact ⟨rfl, rfl⟩
  | some feed =>
    obtain ⟨-, rfl⟩ := ofLayer_of_changeFeed_eq_some hfeed hs
    exact ⟨rfl, rfl⟩

/-- A layer without a backup sets an option that means nothing to a change feed. -/
theorem BackupService.of_ofLayer_eq_error {v : Violation} (h : ofLayer d l = .error v) :
    ∃ option, v = .unsupportedForChangeFeed option := by
  cases hfeed : l.changeFeed with
  | none =>
    rw [ofLayer_of_changeFeed_eq_none hfeed] at h
    exact absurd h nofun
  | some feed =>
    obtain ⟨option, -, hv⟩ := (ofLayer_eq_error_iff (Option.isSome_of_eq_some hfeed)).1 h
    exact ⟨option, hv⟩

/-- The presence of the change-feed section decides the kind of a backup. -/
theorem BackupService.isChangeFeed_ofLayer {s : BackupService} (hs : ofLayer d l = .ok s) :
    s.isChangeFeed = l.changeFeed.isSome := by
  obtain ⟨hfeed, hscan⟩ := kind_of_ofLayer hs
  rw [isChangeFeed, ← Option.not_isSome, hscan, hfeed, Bool.not_not, Bool.and_self]

/-! ## Layers that set the same -/

/-- Two layers set the same options in the sections of services. -/
def Layer.SetSame (l l' : Layer) : Prop :=
  ∀ n : Section, n ≠ .app → (l.get n).getD OptionGroup.unset = (l'.get n).getD OptionGroup.unset

namespace Layer.SetSame

/-- Layers set the same if they set every option to the same value. -/
theorem of_value? (h : ∀ n : Section, n ≠ .app → ∀ s ∈ n.settings, l.value? n s = l'.value? n s) :
    l.SetSame l' := by
  intro n hn
  apply LawfulOptionGroup.ext
  intro s hs
  rw [get_getD_unset hs, get_getD_unset hs]
  exact h n hn s hs

/-- What is settled from a section depends on what it sets. -/
theorem settleSection_eq (h : l.SetSame l') (hn : n ≠ .app) (values : n.Group Settled) :
    settleSection (l.get n) values = settleSection (l'.get n) values := by
  rw [settleSection, settleSection, h n hn]

/-- Layers that set the same have the same infrastructure. -/
theorem infrastructure_eq (h : l.SetSame l') (d : Defaults) :
    Infrastructure.ofLayer d l = Infrastructure.ofLayer d l' := by
  rw [Infrastructure.ofLayer, Infrastructure.ofLayer, Infrastructure.mk.injEq]
  exact ⟨h.settleSection_eq (n := .cluster) nofun _, h.settleSection_eq (n := .compression) nofun _,
    h.settleSection_eq (n := .encryption) nofun _, h.settleSection_eq (n := .secretAgent) nofun _,
    h.settleSection_eq (n := .awsS3) nofun _, h.settleSection_eq (n := .gcpStorage) nofun _,
    h.settleSection_eq (n := .azureBlob) nofun _, h.settleSection_eq (n := .localFiles) nofun _⟩

/-- Layers that set the same have the same restore. -/
theorem restore_eq (h : l.SetSame l') (d : Defaults) :
    RestoreService.ofLayer d l = RestoreService.ofLayer d l' := by
  rw [RestoreService.ofLayer, RestoreService.ofLayer, h.infrastructure_eq, RestoreService.mk.injEq]
  exact ⟨rfl, h.settleSection_eq (n := .restore) nofun _⟩

/-- Layers that set the same and agree on the change-feed section have the same backup. -/
theorem backup_eq (h : l.SetSame l') (hfeed : l.changeFeed = l'.changeFeed) (d : Defaults) :
    BackupService.ofLayer d l = BackupService.ofLayer d l' := by
  have hscan : l.scan.getD OptionGroup.unset = l'.scan.getD OptionGroup.unset := h .scan nofun
  rw [BackupService.ofLayer, BackupService.ofLayer, h.infrastructure_eq, hfeed, hscan]

end Layer.SetSame

end BackupControl
