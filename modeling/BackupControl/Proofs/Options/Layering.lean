/-
# Layers over each other

Layers form a monoid under `overlay`, in which every layer is idempotent and the upper of two
layers is heard first on every option.  Whether a section is there is settled apart from what
it sets, at the level of vendors and at the level of their stores.
-/
import BackupControl.Proofs.Options.Section

namespace BackupControl.Layer

/-! ## Sections -/

/-- The sections of two layers are laid over each other one by one. -/
theorem get_overlay (base top : Layer) (n : Section) :
    (base.overlay top).get n = overlaySection (base.get n) (top.get n) := by
  cases n with
  | awsS3 => exact Vendor.store_overlaySection base.aws top.aws
  | gcpStorage => exact Vendor.store_overlaySection base.gcp top.gcp
  | azureBlob => exact Vendor.store_overlaySection base.azure top.azure
  | app | cluster | scan | changeFeed | restore | compression | encryption | secretAgent
  | localFiles => rfl

/-- A section is there if either layer has it. -/
theorem isSome_get_overlay (base top : Layer) (n : Section) :
    ((base.overlay top).get n).isSome = ((base.get n).isSome || (top.get n).isSome) := by
  rw [get_overlay, isSome_overlaySection]

/-- Of two layers, the upper one is heard first on every option. -/
theorem value?_overlay (base top : Layer) {n : Section} {s : Setting n.Group}
    (hs : s ∈ n.settings) :
    (base.overlay top).value? n s = (top.value? n s).or (base.value? n s) := by
  rw [value?, get_overlay, bind_get_overlaySection hs]
  rfl

/-! ## Layers as a monoid -/

/-- Laying three layers over each other may begin at either end. -/
theorem overlay_assoc (a b c : Layer) :
    (a.overlay b).overlay c = a.overlay (b.overlay c) := by
  simp only [overlay, overlaySection_assoc, Vendor.overlaySection_assoc]

/-- A layer over the empty one is that layer. -/
theorem empty_overlay (a : Layer) : empty.overlay a = a := by
  simp only [overlay, empty, overlaySection_none_left, Vendor.overlaySection_none_left]

/-- The empty layer changes no layer that it is laid over. -/
theorem overlay_empty (a : Layer) : a.overlay empty = a := by
  simp only [overlay, empty, overlaySection_none_right, Vendor.overlaySection_none_right]

/-- A layer over itself is that layer. -/
theorem overlay_self (a : Layer) : a.overlay a = a := by
  simp only [overlay, overlaySection_self, Vendor.overlaySection_self]

/-! ## Any number of layers -/

/-- The empty layer sets no option. -/
theorem value?_empty (n : Section) (s : Setting n.Group) : empty.value? n s = none := by
  cases n <;> rfl

/-- Of any number of layers over each other, the last to set an option decides it. -/
theorem value?_foldl_overlay (base : Layer) (ls : List Layer) {n : Section} {s : Setting n.Group}
    (hs : s ∈ n.settings) :
    (ls.foldl overlay base).value? n s =
      ((ls.filterMap (·.value? n s)).getLast?).or (base.value? n s) := by
  -- the base stands for all layers so far, so it varies in the induction
  induction ls generalizing base with
  | nil => rfl
  | cons l ls ih =>
    rw [List.foldl_cons, ih, value?_overlay base l hs]
    cases hl : l.value? n s with
    | none => simp only [List.filterMap_cons, hl, Option.none_or]
    | some v =>
      simp only [List.filterMap_cons, hl, List.getLast?_cons, Option.some_or]
      cases (ls.filterMap (·.value? n s)).getLast? <;> rfl

/-- Some option is set by layers over each other just if one of them sets it. -/
theorem isSome_value?_foldl_overlay (ls : List Layer) {n : Section} {s : Setting n.Group}
    (hs : s ∈ n.settings) :
    ((ls.foldl overlay empty).value? n s).isSome = ls.any fun l => (l.value? n s).isSome := by
  rw [value?_foldl_overlay empty ls hs, value?_empty, Option.or_none, Bool.eq_iff_iff,
    List.getLast?_isSome, ne_eq, List.filterMap_eq_nil_iff, List.any_eq_true]
  simp only [Classical.not_forall, exists_prop, Option.isSome_iff_ne_none, ne_eq]

end BackupControl.Layer
