/-
# Storage flags by scope

The flags of the storage sections fall into those of both commands, those of a backup alone and
those of a restore alone.  Assigning the options of one kind after another builds the storage
sections of a command line, and since no option is of two kinds the order does not matter.
-/
import BackupControl.Proofs.CommandLine.OptionFlags

namespace BackupControl

/-! ## Assigning options -/

/-- The option has a flag of a scope. -/
def Setting.isOfScope {G : (Type → Type) → Type} (scope : Scope) (s : Setting G) : Bool :=
  s.flag.any fun f => f.scope == scope

/-- No option has flags of two scopes. -/
theorem Setting.isOfScope_unique {G : (Type → Type) → Type} {s : Setting G} {a b : Scope}
    (ha : s.isOfScope a = true) (hb : s.isOfScope b = true) : a = b := by
  unfold isOfScope at ha hb
  cases hflag : s.flag with
  | none => simp [hflag] at ha
  | some f =>
    rw [hflag, Option.any_some, beq_iff_eq] at ha hb
    rw [← ha, hb]

namespace OptionGroup

variable {G : (Type → Type) → Type} [OptionGroup G]

/-- Listed options are assigned one after another, whether they are set or not. -/
def assignAll (options : List (Setting G)) (given onto : G Given) : G Given :=
  options.foldl (fun g s => s.put (s.get given) g) onto

/-- The options with flags of a scope are assigned, and the others are left as they were. -/
def assign (scope : Scope) (given onto : G Given) : G Given :=
  assignAll ((settings (G := G)).filter (Setting.isOfScope scope)) given onto

variable [LawfulOptionGroup G]

/-- An option that was not assigned has its old value. -/
theorem get_assignAll_of_notMem {options : List (Setting G)} (hoptions : options ⊆ settings)
    {s : Setting G} (hs : s ∈ settings (G := G)) (h : s ∉ options) (given onto : G Given) :
    s.get (assignAll options given onto) = s.get onto := by
  induction options generalizing onto with
  | nil => rfl
  | cons t rest ih =>
    obtain ⟨ht, hrest⟩ := List.cons_subset.1 hoptions
    obtain ⟨hst, hmem⟩ := not_or.1 (mt List.mem_cons.2 h)
    exact (ih hrest hmem (t.put (t.get given) onto)).trans (get_put_of_ne ht hs hst _ onto)

/-- An option that was assigned has its new value, whatever was assigned after it. -/
theorem get_assignAll_of_mem {options : List (Setting G)} (hoptions : options ⊆ settings)
    {s : Setting G} (h : s ∈ options) (given onto : G Given) :
    s.get (assignAll options given onto) = s.get given := by
  induction options generalizing onto with
  | nil => exact absurd h List.not_mem_nil
  | cons t rest ih =>
    obtain ⟨ht, hrest⟩ := List.cons_subset.1 hoptions
    by_cases hmem : s ∈ rest
    · exact ih hrest hmem (t.put (t.get given) onto)
    · obtain rfl : s = t := (List.mem_cons.1 h).resolve_right hmem
      exact (get_assignAll_of_notMem hrest ht hmem given _).trans
        ((LawfulOptionGroup.lawful s ht).get_put _ onto)

/-- An option of the scope has its new value, any other its old one. -/
theorem get_assign (scope : Scope) {s : Setting G} (hs : s ∈ settings (G := G))
    (given onto : G Given) :
    s.get (assign scope given onto) =
      if s.isOfScope scope = true then s.get given else s.get onto := by
  have hsubset : (settings (G := G)).filter (Setting.isOfScope scope) ⊆ settings :=
    List.filter_subset_self _
  by_cases hscope : s.isOfScope scope = true
  · rw [if_pos hscope]
    exact get_assignAll_of_mem hsubset (List.mem_filter.2 ⟨hs, hscope⟩) given onto
  · rw [if_neg hscope]
    exact get_assignAll_of_notMem hsubset hs (fun h => hscope (List.mem_filter.1 h).2) given onto

/-- The options of two scopes may be assigned in either order. -/
theorem assign_comm {a b : Scope} (hne : a ≠ b) (first second onto : G Given) :
    assign b second (assign a first onto) = assign a first (assign b second onto) := by
  apply LawfulOptionGroup.ext
  intro s hs
  rw [get_assign b hs, get_assign a hs, get_assign a hs, get_assign b hs]
  by_cases ha : s.isOfScope a = true
  · have hb : ¬ s.isOfScope b = true := fun hb => hne (Setting.isOfScope_unique ha hb)
    rw [if_neg hb, if_pos ha, if_pos ha]
  · rw [if_neg ha, if_neg ha]

end OptionGroup

/-! ## Assigning storage options -/

namespace CommandLine

namespace CommandFlags

open OptionGroup (assign unset)

/-- The storage options of a scope are assigned to a layer, which then has the sections of the
cloud stores.  Only the flags of both commands reach the files of this machine. -/
def assignStorage (f : CommandFlags) (scope : Scope) (l : Layer) : Layer :=
  { l with
    aws := some ⟨some (assign scope f.awsS3 (l.awsS3.getD unset))⟩
    gcp := some ⟨some (assign scope f.gcpStorage (l.gcpStorage.getD unset))⟩
    azure := some ⟨some (assign scope f.azureBlob (l.azureBlob.getD unset))⟩
    localFiles :=
      if scope = .both then some (assign scope f.localFiles (l.localFiles.getD unset))
      else l.localFiles }

/-- The storage options of two scopes may be assigned in either order. -/
theorem assignStorage_comm {a b : Scope} (hne : a ≠ b) (first second : CommandFlags) (l : Layer) :
    second.assignStorage b (first.assignStorage a l) =
      first.assignStorage a (second.assignStorage b l) := by
  have haws := OptionGroup.assign_comm hne first.awsS3 second.awsS3 (l.awsS3.getD unset)
  have hgcp := OptionGroup.assign_comm hne first.gcpStorage second.gcpStorage
    (l.gcpStorage.getD unset)
  have hazure := OptionGroup.assign_comm hne first.azureBlob second.azureBlob
    (l.azureBlob.getD unset)
  have hlocal : (second.assignStorage b (first.assignStorage a l)).localFiles =
      (first.assignStorage a (second.assignStorage b l)).localFiles := by
    unfold assignStorage
    by_cases ha : a = .both
    · have hb : ¬ b = .both := fun hb => hne (ha.trans hb.symm)
      simp only [if_neg hb]
    · simp only [if_neg ha]
  rw [Layer.mk.injEq]
  exact ⟨rfl, rfl, rfl, rfl, rfl, rfl, rfl, rfl, congrArg (some ∘ Vendor.mk ∘ some) haws,
    congrArg (some ∘ Vendor.mk ∘ some) hgcp, congrArg (some ∘ Vendor.mk ∘ some) hazure, hlocal⟩

/-- The storage options of several scopes may be assigned in any order. -/
theorem foldl_assignStorage_perm (flags : Scope → CommandFlags) {scopes others : List Scope}
    (h : scopes.Perm others) (l : Layer) :
    scopes.foldl (fun l scope => (flags scope).assignStorage scope l) l =
      others.foldl (fun l scope => (flags scope).assignStorage scope l) l := by
  refine h.foldl_eq' ?_ l
  intro a _ b _ l
  by_cases hab : a = b
  · rw [hab]
  · exact assignStorage_comm hab (flags a) (flags b) l

/-! ## Storage options of a command line -/

/-- The scope of the flags that only one command has. -/
def ownScope : Operation → Scope
  | .backup => .backup
  | .restore => .restore

/-- A command has the flags of both commands and its own. -/
theorem isInScope_eq (op : Operation) (f : Flag) :
    isInScope op f = (f.scope == .both || f.scope == ownScope op) := by
  unfold isInScope
  cases op <;> cases f.scope <;> rfl

/-- Assigning the options of both commands and then those of one gives back what its flags have
set. -/
theorem assign_assign_of_explained {op : Operation} {r : FlagRecord} {texts : FlagTexts}
    (h : Explained op r texts) (n : Section) :
    assign (ownScope op) (r.get n) (assign .both (r.get n) unset) = r.get n := by
  apply LawfulOptionGroup.ext
  intro s hs
  rw [OptionGroup.get_assign _ hs, OptionGroup.get_assign _ hs]
  by_cases hown : s.isOfScope (ownScope op) = true
  · rw [if_pos hown]
  by_cases hboth : s.isOfScope .both = true
  · rw [if_neg hown, if_pos hboth]
  rw [if_neg hown, if_neg hboth, OptionGroup.get_unset hs]
  -- an option of neither scope has no flag that this command knows
  have hfilter : s.flag.filter (isInScope op) = none := by
    rw [Option.filter_eq_none_iff]
    intro f hf
    rw [isInScope_eq, Bool.or_eq_true, not_or]
    unfold Setting.isOfScope at hown hboth
    rw [hf, Option.any_some] at hown hboth
    exact ⟨hboth, hown⟩
  have htext : texts.text? op n s = none := by
    rw [FlagTexts.text?, Section.flag?, hfilter, ite_self, Option.bind_none]
  exact (h.get_of_text?_eq_none hs htext).symm

/-- A layer without its storage sections. -/
def withoutStorage (l : Layer) : Layer :=
  { l with aws := none, gcp := none, azure := none, localFiles := none }

/-- The layer of a command line is built by assigning its storage options scope by scope. -/
theorem layer_eq_assignStorage {op : Operation} {globals : GlobalFlags} {f : CommandFlags}
    {texts : FlagTexts} (h : Explained op (globals, f) texts) :
    f.layer op = f.assignStorage (ownScope op)
      (f.assignStorage .both (withoutStorage (f.layer op))) := by
  have haws := assign_assign_of_explained h .awsS3
  have hgcp := assign_assign_of_explained h .gcpStorage
  have hazure := assign_assign_of_explained h .azureBlob
  -- the files of this machine have flags of both commands only
  have hlocal : assign .both f.localFiles unset = f.localFiles := by
    apply LawfulOptionGroup.ext
    intro s hs
    have hscope : ∀ t ∈ LocalFiles.settings, t.isOfScope .both = true := by
      simp [LocalFiles.settings, Setting.isOfScope]
    rw [OptionGroup.get_assign _ hs, if_pos (hscope s hs)]
  have hown : ¬ ownScope op = .both := by
    cases op <;> decide
  rw [Layer.mk.injEq]
  refine ⟨rfl, rfl, rfl, rfl, rfl, rfl, rfl, rfl, (congrArg (some ∘ Vendor.mk ∘ some) haws).symm,
    (congrArg (some ∘ Vendor.mk ∘ some) hgcp).symm,
    (congrArg (some ∘ Vendor.mk ∘ some) hazure).symm, ?_⟩
  simp only [assignStorage, withoutStorage, if_neg hown, Option.getD_none, hlocal, if_true]
  rfl

end CommandFlags

end CommandLine

end BackupControl
