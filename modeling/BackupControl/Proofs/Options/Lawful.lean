/-
# Lawful option groups

What the listed options of a group owe to the operations on the group.  A group is determined
by its options, an option is filled and joined by its kind, what is written to an option is
read back from it, and writing one option leaves every other as it was.  From these laws alone
it follows that laying sources over each other is a right-biased monoid, and that settling a
source is an action of this monoid on values.
-/
import BackupControl.Options.Group
import Mathlib.Data.List.Pairwise
import Mathlib.Tactic.MkIffOfInductiveProp

namespace BackupControl

variable {G H : (Type → Type) → Type}

/-! ## Laws of options -/

namespace Setting

/-- Two options have different places: writing either leaves the other as it was. -/
def Independent (s t : Setting G) : Prop :=
  (∀ {F : Type → Type} (v : F s.kind.Value) (g : G F), t.get (s.put v g) = t.get g) ∧
    ∀ {F : Type → Type} (v : F t.kind.Value) (g : G F), s.get (t.put v g) = s.get g

/-- Independence does not depend on the order of the two options. -/
theorem Independent.symm {s t : Setting G} (h : Independent s t) : Independent t s :=
  ⟨h.2, h.1⟩

instance : Std.Symm (Independent (G := G)) where
  symm _ _ h := h.symm

/-- An option is filled and joined by its kind, and holds what was written to it last. -/
@[mk_iff]
structure Lawful [OptionGroup G] (s : Setting G) : Prop where
  get_fill {F : Type → Type} (f : (k : Kind) → F k.Value) :
    s.get (OptionGroup.fill f : G F) = f s.kind
  get_zipWith {F₁ F₂ F₃ : Type → Type} (f : (k : Kind) → F₁ k.Value → F₂ k.Value → F₃ k.Value)
    (a : G F₁) (b : G F₂) :
    s.get (OptionGroup.zipWith f a b) = f s.kind (s.get a) (s.get b)
  get_put {F : Type → Type} (v : F s.kind.Value) (g : G F) : s.get (s.put v g) = v

/-- A group is part of another: filling, joining and updating the whole do the same to its
part. -/
structure IsPart [OptionGroup G] [OptionGroup H] (inner : {F : Type → Type} → H F → G F)
    (update : {F : Type → Type} → G F → H F → H F) : Prop where
  fill {F : Type → Type} (f : (k : Kind) → F k.Value) :
    inner (OptionGroup.fill f : H F) = OptionGroup.fill f
  zipWith {F₁ F₂ F₃ : Type → Type} (f : (k : Kind) → F₁ k.Value → F₂ k.Value → F₃ k.Value)
    (a : H F₁) (b : H F₂) :
    inner (OptionGroup.zipWith f a b) = OptionGroup.zipWith f (inner a) (inner b)
  inner_update {F : Type → Type} (g : G F) (a : H F) : inner (update g a) = g

/-- The laws of an option do not see its flag. -/
theorem Lawful.underFlag [OptionGroup G] {s : Setting G} (h : s.Lawful) (front : String) :
    (s.underFlag front).Lawful :=
  ⟨h.get_fill, h.get_zipWith, h.get_put⟩

section IsPart

variable [OptionGroup G] [OptionGroup H] {inner : {F : Type → Type} → H F → G F}
  {update : {F : Type → Type} → G F → H F → H F}

/-- A lawful option of a part is a lawful option of the whole. -/
theorem Lawful.within {s : Setting G} (h : s.Lawful) (hpart : IsPart @inner @update) :
    (s.within inner update).Lawful where
  get_fill f := by
    change s.get (inner (OptionGroup.fill f)) = _
    rw [hpart.fill]
    exact h.get_fill f
  get_zipWith f a b := by
    change s.get (inner (OptionGroup.zipWith f a b)) = _
    rw [hpart.zipWith]
    exact h.get_zipWith f (inner a) (inner b)
  get_put v a := by
    change s.get (inner (update (s.put v (inner a)) a)) = v
    rw [hpart.inner_update]
    exact h.get_put v (inner a)

/-- Independent options of a part are independent options of the whole. -/
theorem Independent.within {s t : Setting G} (h : Independent s t)
    (hpart : IsPart @inner @update) :
    Independent (s.within inner update) (t.within inner update) := by
  constructor
  · intro F v a
    change t.get (inner (update (s.put v (inner a)) a)) = t.get (inner a)
    rw [hpart.inner_update]
    exact h.1 v (inner a)
  · intro F v a
    change s.get (inner (update (t.put v (inner a)) a)) = s.get (inner a)
    rw [hpart.inner_update]
    exact h.2 v (inner a)

end IsPart

/-- An option has its place outside a part of the group. -/
def IsOutside (inner : {F : Type → Type} → H F → G F)
    (update : {F : Type → Type} → G F → H F → H F) (t : Setting H) : Prop :=
  (∀ {F : Type → Type} (g : G F) (a : H F), t.get (update g a) = t.get a) ∧
    ∀ {F : Type → Type} (v : F t.kind.Value) (a : H F), inner (t.put v a) = inner a

/-- An option of a part is independent of an option outside the part. -/
theorem IsOutside.independent {inner : {F : Type → Type} → H F → G F}
    {update : {F : Type → Type} → G F → H F → H F} {t : Setting H}
    (h : t.IsOutside @inner @update) (s : Setting G) :
    Independent (s.within inner update) t := by
  constructor
  · intro F v a
    exact h.1 _ _
  · intro F v a
    exact congrArg s.get (h.2 v a)

end Setting

/-! ## Lawful groups -/

/-- The laws of a group of options. -/
class LawfulOptionGroup (G : (Type → Type) → Type) [OptionGroup G] : Prop where
  ext {F : Type → Type} {a b : G F} :
    (∀ s ∈ OptionGroup.settings (G := G), s.get a = s.get b) → a = b
  lawful : ∀ s ∈ OptionGroup.settings (G := G), s.Lawful
  independent : (OptionGroup.settings (G := G)).Pairwise Setting.Independent

/-! ## Groups with a part -/

namespace Setting

variable [OptionGroup G] [LawfulOptionGroup G] [OptionGroup H]
  {inner : {F : Type → Type} → H F → G F} {update : {F : Type → Type} → G F → H F → H F}
  {own : List (Setting H)}

/-- The options of a part are lawful in the whole. -/
theorem lawful_of_mem_within (hpart : IsPart @inner @update) :
    ∀ s ∈ (OptionGroup.settings (G := G)).map (within inner update), s.Lawful := by
  intro s hs
  obtain ⟨part, hmem, rfl⟩ := List.mem_map.1 hs
  exact (LawfulOptionGroup.lawful part hmem).within hpart

/-- So they are under flags of the whole. -/
theorem lawful_of_mem_underFlag (front : String) (hpart : IsPart @inner @update) :
    ∀ s ∈ (OptionGroup.settings (G := G)).map fun s => (s.within inner update).underFlag front,
      s.Lawful := by
  intro s hs
  obtain ⟨part, hmem, rfl⟩ := List.mem_map.1 hs
  exact ((LawfulOptionGroup.lawful part hmem).within hpart).underFlag front

/-- The options of a part are independent of each other and of the own options of the whole. -/
theorem pairwise_within_append (hpart : IsPart @inner @update)
    (hown : own.Pairwise Independent) (hout : ∀ t ∈ own, t.IsOutside @inner @update) :
    ((OptionGroup.settings (G := G)).map (within inner update) ++ own).Pairwise
      Independent := by
  rw [List.pairwise_append, List.pairwise_map]
  refine ⟨(LawfulOptionGroup.independent (G := G)).imp fun h => h.within hpart, hown, ?_⟩
  intro s hs t ht
  obtain ⟨part, -, rfl⟩ := List.mem_map.1 hs
  exact (hout t ht).independent part

/-- The same holds if the part comes last and its options have flags of the whole. -/
theorem pairwise_append_underFlag (front : String) (hpart : IsPart @inner @update)
    (hown : own.Pairwise Independent) (hout : ∀ t ∈ own, t.IsOutside @inner @update) :
    (own ++ (OptionGroup.settings (G := G)).map fun s =>
      (s.within inner update).underFlag front).Pairwise Independent := by
  rw [List.pairwise_append, List.pairwise_map]
  refine ⟨hown, (LawfulOptionGroup.independent (G := G)).imp fun h => h.within hpart, ?_⟩
  intro t ht s hs
  obtain ⟨part, -, rfl⟩ := List.mem_map.1 hs
  exact ((hout t ht).independent part).symm

end Setting

/-! ## Options of a lawful group -/

namespace OptionGroup

variable [OptionGroup G] [LawfulOptionGroup G] {s t : Setting G}

/-- Writing an option leaves every other option of the group as it was. -/
theorem get_put_of_ne (hs : s ∈ settings (G := G)) (ht : t ∈ settings (G := G)) (hne : t ≠ s)
    {F : Type → Type} (v : F s.kind.Value) (g : G F) : t.get (s.put v g) = t.get g := by
  have hind : Setting.Independent s t :=
    (LawfulOptionGroup.independent (G := G)).forall hs ht (Ne.symm hne)
  exact hind.1 v g

/-- The source that sets nothing sets no option. -/
theorem get_unset (hs : s ∈ settings (G := G)) : s.get (unset : G Given) = none :=
  (LawfulOptionGroup.lawful s hs).get_fill fun _ => none

/-- Of two sources, the upper one is heard first on every option. -/
theorem get_overlay (hs : s ∈ settings (G := G)) (base top : G Given) :
    s.get (overlay base top) = (s.get top).or (s.get base) :=
  (LawfulOptionGroup.lawful s hs).get_zipWith _ base top

/-- A settled option has the value of the source where the source sets it. -/
theorem get_settle (hs : s ∈ settings (G := G)) (given : G Given) (values : G Settled) :
    s.get (settle given values) = (s.get given).getD (s.get values) :=
  (LawfulOptionGroup.lawful s hs).get_zipWith _ given values

omit [LawfulOptionGroup G] in
/-- A source is unset just if it sets none of the options. -/
theorem isUnset_iff (given : G Given) :
    isUnset given = true ↔ ∀ s ∈ settings (G := G), s.get given = none := by
  simp [isUnset]

/-! ## Sources as a monoid -/

/-- Laying three sources over each other may begin at either end. -/
theorem overlay_assoc (a b c : G Given) :
    overlay (overlay a b) c = overlay a (overlay b c) := by
  apply LawfulOptionGroup.ext
  intro s hs
  rw [get_overlay hs, get_overlay hs, get_overlay hs, get_overlay hs, Option.or_assoc]

/-- A source over the one that sets nothing is that source. -/
theorem unset_overlay (a : G Given) : overlay unset a = a := by
  apply LawfulOptionGroup.ext
  intro s hs
  rw [get_overlay hs, get_unset hs, Option.or_none]

/-- The source that sets nothing changes no source that it is laid over. -/
theorem overlay_unset (a : G Given) : overlay a unset = a := by
  apply LawfulOptionGroup.ext
  intro s hs
  rw [get_overlay hs, get_unset hs, Option.none_or]

/-- A source over itself is that source. -/
theorem overlay_self (a : G Given) : overlay a a = a := by
  apply LawfulOptionGroup.ext
  intro s hs
  rw [get_overlay hs, Option.or_self]

/-! ## Settling as an action -/

/-- Settling two sources at once is settling the lower one and then the upper one. -/
theorem settle_overlay (p q : G Given) (d : G Settled) :
    settle (overlay p q) d = settle q (settle p d) := by
  apply LawfulOptionGroup.ext
  intro s hs
  rw [get_settle hs, get_overlay hs, get_settle hs, get_settle hs]
  cases s.get q <;> rfl

/-- The source that sets nothing keeps every settled value. -/
theorem settle_unset (d : G Settled) : settle unset d = d := by
  apply LawfulOptionGroup.ext
  intro s hs
  rw [get_settle hs, get_unset hs, Option.getD_none]

end OptionGroup

end BackupControl
