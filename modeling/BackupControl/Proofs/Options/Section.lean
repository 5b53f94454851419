/-
# Sections of a layer

The groups of a layer under one index, so that what holds of every section is said once.  A
section may be missing, and a missing section sets none of its options.  The sections of the
cloud stores stand inside those of their vendors, which may be missing in turn.
-/
import BackupControl.Options.Defaults
import BackupControl.Proofs.Options.Groups

namespace BackupControl

/-! ## Sections -/

/-- A section that holds options. -/
inductive Section where
  | app
  | cluster
  | scan
  | changeFeed
  | restore
  | compression
  | encryption
  | secretAgent
  | awsS3
  | gcpStorage
  | azureBlob
  | localFiles
  deriving DecidableEq, Repr

/-- The group of the options of a section. -/
abbrev Section.Group : Section → (Type → Type) → Type
  | .app => App
  | .cluster => Cluster
  | .scan => Scan
  | .changeFeed => ChangeFeed
  | .restore => Restore
  | .compression => Compression
  | .encryption => Encryption
  | .secretAgent => SecretAgent
  | .awsS3 => AwsS3
  | .gcpStorage => GcpStorage
  | .azureBlob => AzureBlob
  | .localFiles => LocalFiles

instance : (n : Section) → OptionGroup n.Group
  | .app => inferInstanceAs (OptionGroup App)
  | .cluster => inferInstanceAs (OptionGroup Cluster)
  | .scan => inferInstanceAs (OptionGroup Scan)
  | .changeFeed => inferInstanceAs (OptionGroup ChangeFeed)
  | .restore => inferInstanceAs (OptionGroup Restore)
  | .compression => inferInstanceAs (OptionGroup Compression)
  | .encryption => inferInstanceAs (OptionGroup Encryption)
  | .secretAgent => inferInstanceAs (OptionGroup SecretAgent)
  | .awsS3 => inferInstanceAs (OptionGroup AwsS3)
  | .gcpStorage => inferInstanceAs (OptionGroup GcpStorage)
  | .azureBlob => inferInstanceAs (OptionGroup AzureBlob)
  | .localFiles => inferInstanceAs (OptionGroup LocalFiles)

instance : (n : Section) → LawfulOptionGroup n.Group
  | .app => inferInstanceAs (LawfulOptionGroup App)
  | .cluster => inferInstanceAs (LawfulOptionGroup Cluster)
  | .scan => inferInstanceAs (LawfulOptionGroup Scan)
  | .changeFeed => inferInstanceAs (LawfulOptionGroup ChangeFeed)
  | .restore => inferInstanceAs (LawfulOptionGroup Restore)
  | .compression => inferInstanceAs (LawfulOptionGroup Compression)
  | .encryption => inferInstanceAs (LawfulOptionGroup Encryption)
  | .secretAgent => inferInstanceAs (LawfulOptionGroup SecretAgent)
  | .awsS3 => inferInstanceAs (LawfulOptionGroup AwsS3)
  | .gcpStorage => inferInstanceAs (LawfulOptionGroup GcpStorage)
  | .azureBlob => inferInstanceAs (LawfulOptionGroup AzureBlob)
  | .localFiles => inferInstanceAs (LawfulOptionGroup LocalFiles)

/-- The options of a section. -/
abbrev Section.settings (n : Section) : List (Setting n.Group) := OptionGroup.settings

/-- The section of a layer, if it is there. -/
def Layer.get (l : Layer) : (n : Section) → Option (n.Group Given)
  | .app => l.app
  | .cluster => l.cluster
  | .scan => l.scan
  | .changeFeed => l.changeFeed
  | .restore => l.restore
  | .compression => l.compression
  | .encryption => l.encryption
  | .secretAgent => l.secretAgent
  | .awsS3 => l.awsS3
  | .gcpStorage => l.gcpStorage
  | .azureBlob => l.azureBlob
  | .localFiles => l.localFiles

/-- The value that a layer sets for an option, if it sets one. -/
def Layer.value? (l : Layer) (n : Section) (s : Setting n.Group) : Option s.kind.Value :=
  (l.get n).bind s.get

/-- The built-in values of a section. -/
def Defaults.get (d : Defaults) : (n : Section) → n.Group Settled
  | .app => d.app
  | .cluster => d.cluster
  | .scan => d.scan
  | .changeFeed => d.changeFeed
  | .restore => d.restore
  | .compression => d.compression
  | .encryption => d.encryption
  | .secretAgent => d.secretAgent
  | .awsS3 => d.awsS3
  | .gcpStorage => d.gcpStorage
  | .azureBlob => d.azureBlob
  | .localFiles => d.localFiles

/-! ## Sections over each other -/

section Overlay

variable {G : (Type → Type) → Type} [OptionGroup G]

/-- A section is there if either side has it. -/
theorem isSome_overlaySection (base top : Option (G Given)) :
    (overlaySection base top).isSome = (base.isSome || top.isSome) := by
  cases base <;> cases top <;> rfl

/-- A section over a missing one is that section. -/
theorem overlaySection_none_left (top : Option (G Given)) : overlaySection none top = top := by
  cases top <;> rfl

/-- A missing section changes no section that it is laid over. -/
theorem overlaySection_none_right (base : Option (G Given)) : overlaySection base none = base := by
  cases base <;> rfl

variable [LawfulOptionGroup G]

/-- Laying three sections over each other may begin at either end. -/
theorem overlaySection_assoc (a b c : Option (G Given)) :
    overlaySection (overlaySection a b) c = overlaySection a (overlaySection b c) := by
  rcases a with _ | a
  · rw [overlaySection_none_left, overlaySection_none_left]
  rcases b with _ | b
  · rw [overlaySection_none_right, overlaySection_none_left]
  rcases c with _ | c
  · rw [overlaySection_none_right, overlaySection_none_right]
  exact congrArg some (OptionGroup.overlay_assoc a b c)

/-- A section over itself is that section. -/
theorem overlaySection_self (a : Option (G Given)) : overlaySection a a = a := by
  cases a with
  | none => rfl
  | some a => exact congrArg some (OptionGroup.overlay_self a)

/-- What two sections set over each other, where a missing one sets nothing. -/
theorem getD_overlaySection (base top : Option (G Given)) :
    (overlaySection base top).getD OptionGroup.unset =
      OptionGroup.overlay (base.getD OptionGroup.unset) (top.getD OptionGroup.unset) := by
  cases base with
  | none =>
    rw [overlaySection_none_left, Option.getD_none, OptionGroup.unset_overlay]
  | some base =>
    cases top with
    | none => rw [overlaySection_none_right, Option.getD_none, OptionGroup.overlay_unset]
    | some top => rfl

/-- A missing section sets none of its options. -/
theorem get_getD_unset {s : Setting G} (hs : s ∈ OptionGroup.settings (G := G))
    (given : Option (G Given)) : s.get (given.getD OptionGroup.unset) = given.bind s.get := by
  cases given with
  | none => exact OptionGroup.get_unset hs
  | some g => rfl

/-- Of two sections, the upper one is heard first on every option. -/
theorem bind_get_overlaySection {s : Setting G} (hs : s ∈ OptionGroup.settings (G := G))
    (base top : Option (G Given)) :
    (overlaySection base top).bind s.get = (top.bind s.get).or (base.bind s.get) := by
  rw [← get_getD_unset hs, getD_overlaySection, OptionGroup.get_overlay hs, get_getD_unset hs,
    get_getD_unset hs]

/-- A settled option has the value of the section where the section sets it. -/
theorem get_settleSection {s : Setting G} (hs : s ∈ OptionGroup.settings (G := G))
    (given : Option (G Given)) (values : G Settled) :
    s.get (settleSection given values) = (given.bind s.get).getD (s.get values) := by
  rw [settleSection, OptionGroup.get_settle hs, get_getD_unset hs]

/-- Settling two sections at once is settling the lower one and then the upper one. -/
theorem settleSection_overlaySection (base top : Option (G Given)) (values : G Settled) :
    settleSection (overlaySection base top) values =
      settleSection top (settleSection base values) := by
  rw [settleSection, getD_overlaySection, OptionGroup.settle_overlay]
  rfl

/-- A missing section keeps every settled value. -/
theorem settleSection_none (values : G Settled) : settleSection none values = values :=
  OptionGroup.settle_unset values

end Overlay

/-! ## Vendors -/

namespace Vendor

variable {G : (Type → Type) → Type} [OptionGroup G]

/-- The section of a vendor is there if either side has it. -/
theorem isSome_overlaySection (base top : Option (Vendor G)) :
    (overlaySection base top).isSome = (base.isSome || top.isSome) := by
  cases base <;> cases top <;> rfl

/-- The store of two vendor sections over each other is that of one over the other. -/
theorem store_overlaySection (base top : Option (Vendor G)) :
    (overlaySection base top).bind (·.store) =
      BackupControl.overlaySection (base.bind (·.store)) (top.bind (·.store)) := by
  cases base with
  | none => cases top <;> simp [overlaySection, overlaySection_none_left]
  | some base =>
    cases top with
    | none => simp [overlaySection, overlaySection_none_right]
    | some top => rfl

/-- The section of a vendor over a missing one is that section. -/
theorem overlaySection_none_left (top : Option (Vendor G)) : overlaySection none top = top := by
  cases top <;> rfl

/-- A missing section of a vendor changes no section that it is laid over. -/
theorem overlaySection_none_right (base : Option (Vendor G)) :
    overlaySection base none = base := by
  cases base <;> rfl

variable [LawfulOptionGroup G]

/-- Laying three vendor sections over each other may begin at either end. -/
theorem overlaySection_assoc (a b c : Option (Vendor G)) :
    overlaySection (overlaySection a b) c = overlaySection a (overlaySection b c) := by
  rcases a with _ | a
  · rw [overlaySection_none_left, overlaySection_none_left]
  rcases b with _ | b
  · rw [overlaySection_none_right, overlaySection_none_left]
  rcases c with _ | c
  · rw [overlaySection_none_right, overlaySection_none_right]
  exact congrArg (some ∘ Vendor.mk)
    (BackupControl.overlaySection_assoc a.store b.store c.store)

/-- The section of a vendor over itself is that section. -/
theorem overlaySection_self (a : Option (Vendor G)) : overlaySection a a = a := by
  cases a with
  | none => rfl
  | some a => exact congrArg (some ∘ Vendor.mk) (BackupControl.overlaySection_self a.store)

end Vendor

end BackupControl
