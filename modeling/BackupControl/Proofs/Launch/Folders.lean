/-
# The folders above a file

Before a log file is opened the folders above it are made.  The folders above a path are those
that the proper prefixes of its components name, so the walk upwards leaves out none, and a log
file is opened just if nothing but folders leads to it.

Main statement: `openLog_eq_ok_iff`.
-/
import BackupControl.Launch.Files
import BackupControl.Proofs.Rules.Check
import BackupControl.Proofs.Text.Path

namespace BackupControl

variable {path : String} {cs : List String}

/-! ## The way upwards -/

/-- What leads to the folder that holds a path leads to the path, and is not the path. -/
theorem isPrefix_parentPath_iff (hcs : cs ≠ []) :
    cs <+: pathComponents (parentPath path) ↔
      cs <+: pathComponents path ∧ cs ≠ pathComponents path := by
  rcases parentPath_cases path with ⟨hparent, hnone⟩ | ⟨last, hlast⟩
  · have hempty : pathComponents "" = [] := rfl
    rw [hparent, hnone, hempty, List.prefix_nil]
    exact ⟨fun h => absurd h hcs, fun h => absurd h.1 hcs⟩
  · rw [hlast, List.prefix_concat_iff]
    constructor
    · refine fun h => ⟨.inr h, fun heq => ?_⟩
      have hle := h.length_le
      rw [heq, List.length_append, List.length_singleton] at hle
      omega
    · exact fun h => h.1.resolve_left h.2

/-- The folders above a path are those to which proper prefixes of its components lead. -/
theorem exists_mem_foldersAbove_iff {n : Nat} (hn : (pathComponents path).length ≤ n)
    (hcs : cs ≠ []) :
    (∃ folder ∈ foldersAbove n path, pathComponents folder = cs) ↔
      cs <+: pathComponents path ∧ cs ≠ pathComponents path := by
  rw [← isPrefix_parentPath_iff hcs]
  induction n generalizing path with
  | zero =>
    have hnone : pathComponents (parentPath path) = [] := by
      rw [pathComponents_parentPath, List.eq_nil_of_length_eq_zero (Nat.le_zero.1 hn)]
      rfl
    rw [hnone, List.prefix_nil]
    exact ⟨fun ⟨_, hmem, _⟩ => absurd hmem List.not_mem_nil, fun h => absurd h hcs⟩
  | succ n ih =>
    have hlength : (pathComponents (parentPath path)).length ≤ n := by
      rw [pathComponents_parentPath, List.length_dropLast]
      omega
    rw [foldersAbove]
    by_cases hparent : parentPath path = ""
    · -- nothing is above, and no name leads to the folder that holds the path
      have hempty : pathComponents "" = [] := rfl
      rw [if_pos hparent, hparent, hempty, List.prefix_nil]
      exact ⟨fun ⟨_, hmem, _⟩ => absurd hmem List.not_mem_nil, fun h => absurd h hcs⟩
    · rw [if_neg hparent, List.exists_mem_cons_iff, ih hlength, isPrefix_parentPath_iff hcs]
      constructor
      · rintro (heq | h)
        · exact heq ▸ List.prefix_rfl
        · exact h.1
      · intro h
        by_cases heq : pathComponents (parentPath path) = cs
        · exact .inl heq
        · exact .inr ⟨h, fun h => heq h.symm⟩

example : foldersAbove 17 "/var/./log//a.txt" = ["/var/./log", "/var", "/"] := by decide +kernel

/-- All folders above a path begin at the root if the path does, and none if it does not. -/
theorem isAbsolute_of_mem_foldersAbove {n : Nat} {folder : String}
    (h : folder ∈ foldersAbove n path) : IsAbsolute folder ↔ IsAbsolute path := by
  induction n generalizing path with
  | zero => exact absurd h List.not_mem_nil
  | succ n ih =>
    rw [foldersAbove] at h
    split at h
    · exact absurd h List.not_mem_nil
    · rename_i hparent
      rw [← isAbsolute_parentPath_iff hparent]
      rcases List.mem_cons.1 h with rfl | h
      · exact Iff.rfl
      · exact ih h

/-! ## Making folders -/

/-- A file system tells paths apart by where they begin and by their components, and a folder
stands where they begin. -/
structure FileSystem.BlocksAt (files : FileSystem) (blocked : Bool → List String → Prop) :
    Prop where
  blocks_iff : ∀ path, files.blocks path = true ↔
    blocked (decide (IsAbsolute path)) (pathComponents path)
  start : ∀ rooted, ¬ blocked rooted []

variable {files : FileSystem} {blocked : Bool → List String → Prop}

/-- A folder is made just if nothing else stands at its path or above it. -/
theorem makeFolder_eq_ok_iff_forall_mem :
    makeFolder files path = .ok () ↔
      files.blocks path = false ∧ ∀ folder ∈ foldersAbove path.length path,
        files.blocks folder = false := by
  rw [makeFolder]
  split
  · rename_i hblocks
    exact ⟨nofun, fun h => absurd (hblocks.symm.trans h.1) nofun⟩
  · rename_i hfree
    rw [Bool.not_eq_true] at hfree
    split
    · rename_i habove
      obtain ⟨folder, hmem, hblocks⟩ := List.any_eq_true.1 habove
      exact ⟨nofun, fun h => absurd (hblocks.symm.trans (h.2 folder hmem)) nofun⟩
    · rename_i habove
      rw [Bool.not_eq_true, List.any_eq_false] at habove
      exact ⟨fun _ => ⟨hfree, fun folder hmem => Bool.not_eq_true _ ▸ habove folder hmem⟩,
        fun _ => rfl⟩

/-- A folder is made just if only folders stand at it and wherever its components lead through. -/
theorem makeFolder_eq_ok_iff (hfiles : files.BlocksAt blocked) :
    makeFolder files path = .ok () ↔
      ∀ cs, cs <+: pathComponents path → ¬ blocked (decide (IsAbsolute path)) cs := by
  have hfree : ∀ p, files.blocks p = false ↔
      ¬ blocked (decide (IsAbsolute p)) (pathComponents p) := by
    intro p
    rw [← hfiles.blocks_iff, Bool.not_eq_true]
  simp only [makeFolder_eq_ok_iff_forall_mem, hfree]
  constructor
  · rintro ⟨hpath, habove⟩ cs hleads
    by_cases hnone : cs = []
    · exact hnone ▸ hfiles.start _
    · by_cases hwhole : cs = pathComponents path
      · exact hwhole ▸ hpath
      · obtain ⟨folder, hmem, rfl⟩ := (exists_mem_foldersAbove_iff
          (length_pathComponents_le path) hnone).2 ⟨hleads, hwhole⟩
        have hfolder := habove folder hmem
        rwa [decide_eq_decide.2 (isAbsolute_of_mem_foldersAbove hmem)] at hfolder
  · refine fun h => ⟨h _ List.prefix_rfl, fun folder hmem => ?_⟩
    by_cases hnone : pathComponents folder = []
    · exact hnone ▸ hfiles.start _
    · obtain ⟨hleads, -⟩ := (exists_mem_foldersAbove_iff
        (length_pathComponents_le path) hnone).1 ⟨folder, hmem, rfl⟩
      rw [decide_eq_decide.2 (isAbsolute_of_mem_foldersAbove hmem)]
      exact h _ hleads

/-- A log file is opened just if only folders lead to it and the file itself can be opened. -/
theorem openLog_eq_ok_iff (hfiles : files.BlocksAt blocked) :
    openLog files path = .ok () ↔
      (∀ cs, cs <+: pathComponents path → cs ≠ pathComponents path →
        ¬ blocked (decide (IsAbsolute path)) cs) ∧ openFile files path = .ok () := by
  have hleads : (∀ cs, cs <+: pathComponents path → cs ≠ pathComponents path →
      ¬ blocked (decide (IsAbsolute path)) cs) ↔
      ∀ cs, cs <+: pathComponents (parentPath path) →
        ¬ blocked (decide (IsAbsolute path)) cs := by
    refine forall_congr' fun cs => ?_
    by_cases hnone : cs = []
    · subst hnone
      exact ⟨fun _ _ => hfiles.start _, fun _ _ _ => hfiles.start _⟩
    · rw [isPrefix_parentPath_iff hnone, and_imp]
  have hfile : Result.during (.openingLogFile path) ((openFile files path).mapError .file) =
      .ok () ↔ openFile files path = .ok () := by
    rw [during_eq_ok_iff, mapError_eq_ok_iff]
  rw [hleads, openLog]
  by_cases hparent : parentPath path = ""
  · have hempty : pathComponents "" = [] := rfl
    simp only [hparent, hempty, List.prefix_nil, forall_eq, ne_eq, not_true_eq_false, if_false]
    exact hfile.trans (and_iff_right (hfiles.start _)).symm
  · simp only [ne_eq, hparent, not_false_eq_true, if_true]
    rw [bind_eq_ok_iff, ← decide_eq_decide.2 (isAbsolute_parentPath_iff hparent),
      ← makeFolder_eq_ok_iff hfiles]
    simp only [during_eq_ok_iff, mapError_eq_ok_iff]
    exact ⟨fun ⟨(), h⟩ => h, fun h => ⟨(), h⟩⟩

end BackupControl
