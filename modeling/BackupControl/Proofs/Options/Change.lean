/-
# Changing some options of a group

A change is given by the kind of an option and reaches the options that are chosen.  The others
stay as they were, since no two options of a group share a place.
-/
import BackupControl.Proofs.Options.Lawful

namespace BackupControl.OptionGroup

variable {G : (Type → Type) → Type} {F : Type → Type}

/-! ## Options one after another -/

/-- The group with some options changed one after another. -/
def changeAll (f : (k : Kind) → F k.Value → F k.Value) (options : List (Setting G)) (g : G F) :
    G F :=
  options.foldl (fun g s => s.put (f s.kind (s.get g)) g) g

variable {f : (k : Kind) → F k.Value → F k.Value} {s : Setting G}

/-- An option stays as it was if only others are changed. -/
theorem get_changeAll_of_independent {options : List (Setting G)}
    (h : ∀ t ∈ options, Setting.Independent t s) (g : G F) :
    s.get (changeAll f options g) = s.get g := by
  induction options generalizing g with
  | nil => rfl
  | cons t options ih =>
    obtain ⟨ht, hrest⟩ := List.forall_mem_cons.1 h
    calc s.get (changeAll f (t :: options) g)
        = s.get (t.put (f t.kind (t.get g)) g) := ih hrest _
      _ = s.get g := ht.1 _ g

variable [OptionGroup G]

/-- An option that is changed among others holds its own value changed. -/
theorem get_changeAll_of_mem {options : List (Setting G)} (hlawful : ∀ t ∈ options, t.Lawful)
    (hpairwise : options.Pairwise Setting.Independent) (hs : s ∈ options) (g : G F) :
    s.get (changeAll f options g) = f s.kind (s.get g) := by
  -- the group varies, since the options in front of this one change it
  induction options generalizing g with
  | nil => exact absurd hs List.not_mem_nil
  | cons t options ih =>
    obtain ⟨ht, hrest⟩ := List.forall_mem_cons.1 hlawful
    obtain ⟨hind, hpairwise⟩ := List.pairwise_cons.1 hpairwise
    rcases List.mem_cons.1 hs with rfl | hs
    · calc s.get (changeAll f (s :: options) g)
          = s.get (s.put (f s.kind (s.get g)) g) :=
            get_changeAll_of_independent (fun t ht => (hind t ht).symm) _
        _ = f s.kind (s.get g) := ht.get_put _ g
    · calc s.get (changeAll f (t :: options) g)
          = f s.kind (s.get (t.put (f t.kind (t.get g)) g)) := ih hrest hpairwise hs _
        _ = f s.kind (s.get g) := congrArg _ ((hind s hs).1 _ g)

/-! ## Chosen options -/

/-- The group with those of its options changed that are chosen. -/
def change (chosen : Setting G → Bool) (f : (k : Kind) → F k.Value → F k.Value) (g : G F) : G F :=
  changeAll f ((settings (G := G)).filter chosen) g

variable [LawfulOptionGroup G] {chosen : Setting G → Bool}

/-- After a change, an option holds its own value changed if it is chosen, and its own value
otherwise. -/
theorem get_change (hs : s ∈ settings (G := G)) (g : G F) :
    s.get (change chosen f g) = if chosen s then f s.kind (s.get g) else s.get g := by
  have hind := LawfulOptionGroup.independent (G := G)
  split
  · rename_i hchosen
    refine get_changeAll_of_mem (fun t ht => ?_) (hind.filter _)
      (List.mem_filter.2 ⟨hs, hchosen⟩) g
    exact LawfulOptionGroup.lawful t (List.mem_filter.1 ht).1
  · rename_i hleft
    refine get_changeAll_of_independent (fun t ht => ?_) g
    obtain ⟨ht, hchosen⟩ := List.mem_filter.1 ht
    have hne : t ≠ s := fun h => hleft (h ▸ hchosen)
    exact hind.forall ht hs hne

/-- A change leaves the group as it was if it keeps the value of every chosen option. -/
theorem change_eq_self {g : G F}
    (h : ∀ s ∈ settings (G := G), chosen s = true → f s.kind (s.get g) = s.get g) :
    change chosen f g = g := by
  apply LawfulOptionGroup.ext
  intro s hs
  rw [get_change hs]
  split
  · exact h s hs ‹_›
  · rfl

end BackupControl.OptionGroup
