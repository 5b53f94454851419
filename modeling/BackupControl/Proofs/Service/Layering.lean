/-
# Settling layers

To settle two layers that were laid over each other is to settle the lower one first, and the
upper one over the values that came of it.  What holds of two layers carries over to any number
of them, so a restore does not depend on whether its config files were joined before or after
they were settled.
-/
import BackupControl.Proofs.Options.Layering
import BackupControl.Service.Load

namespace BackupControl

/-! ## Values in place of built-in ones -/

/-- The values of an infrastructure in place of the built-in ones. -/
def Defaults.afterInfrastructure (d : Defaults) (i : Infrastructure) : Defaults :=
  { d with
    cluster := i.cluster
    compression := i.compression
    encryption := i.encryption
    secretAgent := i.secretAgent
    awsS3 := i.awsS3
    gcpStorage := i.gcpStorage
    azureBlob := i.azureBlob
    localFiles := i.localFiles }

/-- The values of a restore in place of the built-in ones. -/
def Defaults.afterRestore (d : Defaults) (s : RestoreService) : Defaults :=
  { d.afterInfrastructure s.infrastructure with restore := s.restore }

/-! ## Two layers -/

/-- The infrastructure of two layers is that of the upper one over the values of the lower
one. -/
theorem Infrastructure.ofLayer_overlay (d : Defaults) (base top : Layer) :
    ofLayer d (base.overlay top) = ofLayer (d.afterInfrastructure (ofLayer d base)) top := by
  have hsection (n : Section) : settleSection ((base.overlay top).get n) (d.get n) =
      settleSection (top.get n) (settleSection (base.get n) (d.get n)) := by
    rw [Layer.get_overlay, settleSection_overlaySection]
  rw [ofLayer, ofLayer, Infrastructure.mk.injEq]
  exact ⟨hsection .cluster, hsection .compression, hsection .encryption, hsection .secretAgent,
    hsection .awsS3, hsection .gcpStorage, hsection .azureBlob, hsection .localFiles⟩

/-- The restore of two layers is that of the upper one over the values of the lower one. -/
theorem RestoreService.ofLayer_overlay (d : Defaults) (base top : Layer) :
    ofLayer d (base.overlay top) = ofLayer (d.afterRestore (ofLayer d base)) top := by
  rw [ofLayer, ofLayer, Infrastructure.ofLayer_overlay, RestoreService.mk.injEq]
  refine ⟨rfl, ?_⟩
  exact settleSection_overlaySection base.restore top.restore d.restore

/-- The values of a session under two layers are those of the upper one over those of the lower
one. -/
theorem Session.settle_overlay (base top : Layer) (s : Session) :
    settle (base.overlay top) s = settle top (settle base s) := by
  rw [settle, settle, Session.mk.injEq]
  exact ⟨settleSection_overlaySection base.app top.app s.options, rfl⟩

/-- The empty layer keeps every built-in value. -/
theorem Infrastructure.afterInfrastructure_ofLayer_empty (d : Defaults) :
    d.afterInfrastructure (ofLayer d .empty) = d := by
  simp only [ofLayer, Defaults.afterInfrastructure, Layer.empty, Layer.awsS3, Layer.gcpStorage,
    Layer.azureBlob, Option.bind_none, settleSection_none]

/-- A restore without any layer has the built-in values. -/
theorem RestoreService.afterRestore_ofLayer_empty (d : Defaults) :
    d.afterRestore (ofLayer d .empty) = d := by
  have hinfrastructure := Infrastructure.afterInfrastructure_ofLayer_empty d
  have hrestore : settleSection Layer.empty.restore d.restore = d.restore :=
    settleSection_none d.restore
  rw [ofLayer, Defaults.afterRestore, hinfrastructure, hrestore]

/-! ## Any number of layers -/

/-- One more layer after a restore that was already settled. -/
def RestoreService.next (d : Defaults) (s : RestoreService) (l : Layer) : RestoreService :=
  ofLayer (d.afterRestore s) l

/-- A restore is the same whether its layers are joined first or settled one after another. -/
theorem RestoreService.ofLayer_foldl (d : Defaults) (base : Layer) (ls : List Layer) :
    ofLayer d (ls.foldl Layer.overlay base) = ls.foldl (next d) (ofLayer d base) := by
  -- the base stands for all layers so far, so it varies in the induction
  induction ls generalizing base with
  | nil => rfl
  | cons l ls ih =>
    rw [List.foldl_cons, List.foldl_cons, ih, ofLayer_overlay]
    rfl

/-! ## The laws of layering -/

/-- Layers are a monoid in which the upper of two layers is heard first on every option and
neither hides the other's sections.  Settling is an action of this monoid on the values of
every group, of which the listed options are all there is, and it reaches each of them at its
own place and nothing else.  The action extends to any number of layers of a restore. -/
theorem layering_acts_on_settled_values :
    (∀ (F : Type → Type) (n : Section) (p q : n.Group F),
      (∀ s ∈ n.settings, s.get p = s.get q) → p = q) ∧
    (∀ a b c : Layer, (a.overlay b).overlay c = a.overlay (b.overlay c)) ∧
    (∀ a : Layer, Layer.empty.overlay a = a ∧ a.overlay .empty = a ∧ a.overlay a = a) ∧
    (∀ (a b : Layer) (n : Section), ∀ s ∈ n.settings,
      (a.overlay b).value? n s = (b.value? n s).or (a.value? n s)) ∧
    (∀ (a b : Layer) (n : Section),
      ((a.overlay b).get n).isSome = ((a.get n).isSome || (b.get n).isSome)) ∧
    (∀ a b : Layer,
      (a.overlay b).aws.isSome = (a.aws.isSome || b.aws.isSome) ∧
      (a.overlay b).gcp.isSome = (a.gcp.isSome || b.gcp.isSome) ∧
      (a.overlay b).azure.isSome = (a.azure.isSome || b.azure.isSome)) ∧
    (∀ (n : Section) (p q : n.Group Given) (d : n.Group Settled),
      OptionGroup.settle (OptionGroup.overlay p q) d =
        OptionGroup.settle q (OptionGroup.settle p d)) ∧
    (∀ (n : Section) (d : n.Group Settled), OptionGroup.settle OptionGroup.unset d = d) ∧
    (∀ (n : Section) (p : n.Group Given) (d : n.Group Settled), ∀ s ∈ n.settings,
      s.get (OptionGroup.settle p d) = (s.get p).getD (s.get d)) ∧
    (∀ (a b : Layer) (s : Session), s.settle (a.overlay b) = (s.settle a).settle b) ∧
    (∀ (a : Layer) (s : Session), (s.settle a).configPath = s.configPath) ∧
    (∀ d : Defaults, d.afterRestore (RestoreService.ofLayer d .empty) = d) ∧
    (∀ (d : Defaults) (ls : List Layer),
      RestoreService.ofLayer d (ls.foldl Layer.overlay .empty) =
        ls.foldl (RestoreService.next d) (RestoreService.ofLayer d .empty)) := by
  refine ⟨?_, Layer.overlay_assoc, ?_, ?_, Layer.isSome_get_overlay, ?_, ?_, ?_, ?_, ?_, ?_,
    RestoreService.afterRestore_ofLayer_empty, ?_⟩
  · intro F n p q h
    exact LawfulOptionGroup.ext h
  · intro a
    exact ⟨a.empty_overlay, a.overlay_empty, a.overlay_self⟩
  · intro a b n s hs
    exact Layer.value?_overlay a b hs
  · intro a b
    exact ⟨Vendor.isSome_overlaySection a.aws b.aws, Vendor.isSome_overlaySection a.gcp b.gcp,
      Vendor.isSome_overlaySection a.azure b.azure⟩
  · intro n p q d
    exact OptionGroup.settle_overlay p q d
  · intro n d
    exact OptionGroup.settle_unset d
  · intro n p d s hs
    exact OptionGroup.get_settle hs p d
  · intro a b s
    exact Session.settle_overlay a b s
  · intro a s
    rfl
  · intro d ls
    exact RestoreService.ofLayer_foldl d .empty ls

end BackupControl
