/-
# What the rules of a restore accept

The rules of a restore as conditions on its options.  The three inputs exclude each other, so
there is a case for each of them.
-/
import BackupControl.Proofs.Rules.Backup

namespace BackupControl

/-! ## Formats -/

namespace RestoreMode

/-- A text stands for a format just if it is the word for it. -/
theorem ofWord?_eq_some_iff {s : String} {mode : RestoreMode} :
    ofWord? s = some mode ↔ mode.word = s := by
  constructor
  · intro h
    have hfound : [auto, asb, asbx].find? (fun m => m.word == s) = some mode := h
    have hword := List.find?_some hfound
    exact beq_iff_eq.1 hword
  · rintro rfl
    cases mode <;> rfl

end RestoreMode

/-! ## Namespaces -/

/-- The namespaces that an option names: its two items, or its only item twice. -/
def NamesPair (s source destination : String) : Prop :=
  source ≠ "" ∧ destination ≠ "" ∧
    (splitCommas s = [source, destination] ∨ splitCommas s = [source] ∧ source = destination)

/-- The pair of an option is the one that it names. -/
theorem namespacePair?_eq_some_iff {s source destination : String} :
    namespacePair? s = some (source, destination) ↔ NamesPair s source destination := by
  constructor
  · intro h
    unfold namespacePair? at h
    split at h
    · rename_i single hitems
      obtain ⟨hsingle, hpair⟩ := Option.ite_none_left_eq_some.1 h
      obtain ⟨rfl, rfl⟩ := Prod.mk.inj (Option.some.inj hpair)
      exact ⟨hsingle, hsingle, .inr ⟨hitems, rfl⟩⟩
    · rename_i first second hitems
      obtain ⟨hboth, hpair⟩ := Option.ite_none_left_eq_some.1 h
      obtain ⟨rfl, rfl⟩ := Prod.mk.inj (Option.some.inj hpair)
      obtain ⟨hsource, hdestination⟩ := not_or.1 hboth
      exact ⟨hsource, hdestination, .inl hitems⟩
    · exact absurd h nofun
  · rintro ⟨hsource, hdestination, hitems | ⟨hitems, rfl⟩⟩
    · rw [namespacePair?, hitems]
      exact if_neg (not_or.2 ⟨hsource, hdestination⟩)
    · rw [namespacePair?, hitems]
      exact if_neg hsource

/-! ## Inputs -/

/-- The one input of a restore, and where it is read. -/
inductive Restore.Input (g : Restore Settled) : RestoreSource → Prop where
  | file (hfile : g.inputFile ≠ "") (hdirectory : g.transfer.directory = "")
      (hlist : g.directoryList = "") : Input g (.file g.inputFile)
  | directory (hfile : g.inputFile = "") (hdirectory : g.transfer.directory ≠ "")
      (hlist : g.directoryList = "") : Input g (.directory g.transfer.directory)
  | directories (hfile : g.inputFile = "") (hdirectory : g.transfer.directory = "")
      (hlist : g.directoryList ≠ "") :
      Input g (.directories ((splitCommas g.directoryList).map (joinPath g.parentDirectory)))

namespace Restore

variable {g : Restore Settled} {source : RestoreSource}

/-- A single input is the one that is read. -/
theorem Input.source?_eq (h : g.Input source) : g.source? = some source := by
  unfold source?
  cases h with
  | file hfile => rw [if_pos hfile]
  | directory hfile hdirectory hlist =>
    rw [if_neg (Classical.not_not.2 hfile), if_neg (Classical.not_not.2 hlist),
      if_pos hdirectory]
  | directories hfile hdirectory hlist =>
    rw [if_neg (Classical.not_not.2 hfile), if_pos hlist]

/-- The folder is read just if it is the single input. -/
theorem Input.isDirectoryRestore_iff (h : g.Input source) :
    g.isDirectoryRestore = true ↔ ∃ path, source = .directory path := by
  unfold isDirectoryRestore
  rw [Bool.and_eq_true, beq_iff_eq, beq_iff_eq]
  cases h with
  | file hfile => exact ⟨fun h => absurd h.2 hfile, fun ⟨_, h⟩ => absurd h nofun⟩
  | directory hfile hdirectory hlist => exact ⟨fun _ => ⟨_, rfl⟩, fun _ => ⟨hlist, hfile⟩⟩
  | directories hfile hdirectory hlist =>
    exact ⟨fun h => absurd h.1 hlist, fun ⟨_, h⟩ => absurd h nofun⟩

/-! ## Rules -/

/-- There is a single input just if some input is given and no two are. -/
theorem exists_input_iff (g : Restore Settled) :
    (∃ source, g.Input source) ↔
      ¬ (g.inputFile = "" ∧ g.transfer.directory = "" ∧ g.directoryList = "") ∧
      ¬ (g.transfer.directory ≠ "" ∧ g.inputFile ≠ "") ∧
      ¬ (g.directoryList ≠ "" ∧ (g.transfer.directory ≠ "" ∨ g.inputFile ≠ "")) := by
  constructor
  · rintro ⟨_, ⟨hfile, hdirectory, hlist⟩ | ⟨hfile, hdirectory, hlist⟩ | ⟨hfile, hdirectory, hlist⟩⟩
      <;> simp [hfile, hdirectory, hlist]
  · -- the input that is set decides which of the three it is
    rintro ⟨hsome, hfolder, hfolders⟩
    by_cases hfile : g.inputFile = ""
    · by_cases hlist : g.directoryList = ""
      · have hdirectory : g.transfer.directory ≠ "" := fun h => hsome ⟨hfile, h, hlist⟩
        exact ⟨_, .directory hfile hdirectory hlist⟩
      · have hdirectory : g.transfer.directory = "" :=
          Classical.byContradiction fun h => hfolders ⟨hlist, .inl h⟩
        exact ⟨_, .directories hfile hdirectory hlist⟩
    · have hdirectory : g.transfer.directory = "" :=
        Classical.byContradiction fun h => hfolder ⟨h, hfile⟩
      have hlist : g.directoryList = "" :=
        Classical.byContradiction fun h => hfolders ⟨h, .inr hfile⟩
      exact ⟨_, .file hfile hdirectory hlist⟩

/-- The options of a restore that are accepted. -/
theorem check_eq_ok_iff (g : Restore Settled) :
    g.check = .ok () ↔
      (∃ mode, RestoreMode.ofWord? g.mode = some mode) ∧ (∃ source, g.Input source) ∧
      ¬ (g.parentDirectory ≠ "" ∧ g.directoryList = "") ∧ 0 ≤ g.warmUp ∧
      (g.validateOnly = false → g.transfer.check = .ok ()) := by
  simp only [check, check_bind_eq_ok_iff, refuseIf_eq_ok_iff, ite_pure_eq_ok_iff, Int64.not_lt,
    Bool.not_eq_true', exists_input_iff, and_assoc, ← Option.isSome_iff_exists,
    Option.isSome_iff_ne_none, ne_eq]

end Restore

/-! ## Services -/

namespace RestoreService

/-- The restores that are accepted. -/
theorem check_eq_ok_iff (s : RestoreService) :
    s.check = .ok () ↔
      s.infrastructure.cluster.check = .ok () ∧ s.restore.check = .ok () ∧
      s.infrastructure.checkRest .restore = .ok () := by
  simp only [check, check_bind_eq_ok_iff]

/-- A restore that was completed has its own options, with secrets in its infrastructure, and
meets the rules. -/
theorem of_complete_eq_ok {resolver : SecretResolver} {s t : RestoreService}
    (h : s.complete resolver = .ok t) :
    t.restore = s.restore ∧ s.infrastructure.resolve resolver = .ok t.infrastructure ∧
      t.check = .ok () := by
  rw [complete, bind_eq_ok_iff] at h
  obtain ⟨infrastructure, hresolve, h⟩ := h
  rw [bind_eq_ok_iff] at h
  obtain ⟨_, hcheck, h⟩ := h
  rw [during_eq_ok_iff, ofCheck_eq_ok_iff] at hcheck
  obtain rfl := pure_eq_ok_iff.1 h
  exact ⟨rfl, hresolve, hcheck⟩

/-- A restore is completed with its references replaced if it then meets the rules. -/
theorem complete_eq_ok {resolver : SecretResolver} {s : RestoreService} {i : Infrastructure}
    (hresolve : s.infrastructure.resolve resolver = .ok i)
    (hcheck : ({ s with infrastructure := i } : RestoreService).check = .ok ()) :
    s.complete resolver = .ok { s with infrastructure := i } :=
  bind_eq_ok_iff.2 ⟨i, hresolve, bind_eq_ok_iff.2
    ⟨(), during_eq_ok_iff.2 (ofCheck_eq_ok_iff.2 hcheck), rfl⟩⟩

/-- A restore that was loaded has the options of its layer, with secrets in its infrastructure,
and meets the rules. -/
theorem of_load_eq_ok {d : Defaults} {resolver : SecretResolver} {l : Layer} {s : RestoreService}
    (h : (load d resolver l).result = .ok s) :
    s.restore = (ofLayer d l).restore ∧
      (ofLayer d l).infrastructure.resolve resolver = .ok s.infrastructure ∧
      s.check = .ok () :=
  of_complete_eq_ok h

end RestoreService

end BackupControl
