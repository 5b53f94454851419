/-
# Paths below a folder

The state file of a scan is named within its folder, and the folders of a restore within their
parent.  Such a name is put behind the folder with one slash between, unless it begins with a
slash itself: then it is a path of its own and the folder is lost.

Main statement: `joined_paths_beneath_iff`.
-/
import BackupControl.Proofs.Service.RestoreJob
import BackupControl.Proofs.Text.Commas
import BackupControl.Proofs.Text.Path

namespace BackupControl

/-! ## State files -/

/-- The name of the state file: that to save to, or else that to resume from. -/
def Scan.stateName (g : Scan Settled) : String :=
  if g.stateFileDst ≠ "" then g.stateFileDst else g.continueFrom

/-- A scan that names a state file has it where its folder and the name are joined. -/
theorem BackupService.stateFile?_eq {g : Scan Settled} (h : g.stateName ≠ "") :
    stateFile? g = some (joinPath g.transfer.directory g.stateName) := by
  unfold stateFile?
  by_cases hsave : g.stateFileDst = ""
  · have hname : g.stateName = g.continueFrom := if_neg (not_not_intro hsave)
    rw [hname] at h ⊢
    rw [if_neg (not_not_intro hsave), if_pos h]
  · have hname : g.stateName = g.stateFileDst := if_pos hsave
    rw [hname, if_pos hsave]

/-! ## Folders of a restore -/

/-- The folders of a restore are named beneath their parent, one for each item of the list, just
if no item is a path of its own. -/
theorem forall₂_beneath_iff {parent : String} (hparent : parent ≠ "") {names : List String} :
    List.Forall₂ (Beneath parent) names (names.map (joinPath parent)) ↔
      ∀ name ∈ names, ¬ IsAbsolute name := by
  rw [List.forall₂_map_right_iff, List.forall₂_same]
  exact forall₂_congr fun _ _ => beneath_joinPath_iff hparent

/-- A restore from a list of folders reads each item of it seen from the parent, unless a file is
given as well. -/
theorem Restore.source?_eq_directories_iff {g : Restore Settled} (hlist : g.directoryList ≠ "")
    {paths : List String} :
    g.source? = some (.directories paths) ↔
      g.inputFile = "" ∧ (splitCommas g.directoryList).map (joinPath g.parentDirectory) = paths := by
  unfold source?
  by_cases hfile : g.inputFile = ""
  · rw [if_neg (not_not_intro hfile), if_pos hlist, Option.some.injEq,
      RestoreSource.directories.injEq]
    exact ⟨fun h => ⟨hfile, h⟩, (·.2)⟩
  · rw [if_pos hfile]
    exact ⟨nofun, fun h => absurd h.1 hfile⟩

/-! ## Both -/

/-- The state file of a scan lies beneath its folder just if its name is no path of its own. -/
theorem BackupService.stateFile_beneath_iff {m : Machine} {s : BackupService} {g : Scan Settled}
    {j : BackupJob} (hscan : s.scan = some g) (hjob : s.job m = .ok j)
    (hdirectory : g.transfer.directory ≠ "") (hstate : g.stateName ≠ "") :
    (∃ path, j.scan.stateFile = some path ∧ Beneath g.transfer.directory g.stateName path ∧
      g.transfer.directory.toList <+: path.toList) ↔ ¬ IsAbsolute g.stateName := by
  have hfile : j.scan.stateFile = some (joinPath g.transfer.directory g.stateName) := by
    rw [(ScanConfig.from_of_scanConfig (scanConfig_of_job hscan hjob)).stateFile,
      stateFile?_eq hstate]
  rw [hfile, ← beneath_joinPath_iff hdirectory]
  constructor
  · rintro ⟨path, hpath, hbeneath, -⟩
    rwa [Option.some.inj hpath]
  · intro hbeneath
    exact ⟨_, rfl, hbeneath, hbeneath.isPrefix⟩

/-- A restore from a list of folders reads folders beneath their parent just if it is from no file
and no item of the list is a path of its own. -/
theorem Restore.folders_beneath_iff {r : Restore Settled} (hparent : r.parentDirectory ≠ "")
    (hlist : r.directoryList ≠ "") :
    (∃ paths, r.source? = some (.directories paths) ∧
      List.Forall₂ (Beneath r.parentDirectory) (splitCommas r.directoryList) paths ∧
      ∀ path ∈ paths, r.parentDirectory.toList <+: path.toList) ↔
    r.inputFile = "" ∧ ∀ name ∈ splitCommas r.directoryList, ¬ IsAbsolute name := by
  simp only [source?_eq_directories_iff hlist]
  rw [← forall₂_beneath_iff hparent]
  constructor
  · rintro ⟨paths, ⟨hfile, rfl⟩, hbeneath, -⟩
    exact ⟨hfile, hbeneath⟩
  · rintro ⟨hfile, hbeneath⟩
    refine ⟨_, ⟨hfile, rfl⟩, hbeneath, fun path hpath => ?_⟩
    obtain ⟨name, hname, rfl⟩ := List.mem_map.1 hpath
    have hitem := (forall₂_beneath_iff hparent).1 hbeneath name hname
    exact (beneath_joinPath hparent hitem).isPrefix

/-- The state file of a scan lies beneath its folder just if its name does not begin with a
slash.  The folders of a restore are named beneath their parent, one for each item of the list and
in order, just if no item begins with a slash and no file is read instead. -/
theorem joined_paths_beneath_iff (m : Machine) (s : BackupService) (g : Scan Settled)
    (j : BackupJob) (r : Restore Settled) :
    (s.scan = some g → s.job m = .ok j → g.transfer.directory ≠ "" → g.stateName ≠ "" →
      ((∃ path, j.scan.stateFile = some path ∧ Beneath g.transfer.directory g.stateName path ∧
        g.transfer.directory.toList <+: path.toList) ↔ ¬ IsAbsolute g.stateName)) ∧
    (r.parentDirectory ≠ "" → r.directoryList ≠ "" →
      ((∃ paths, r.source? = some (.directories paths) ∧
          List.Forall₂ (Beneath r.parentDirectory) (splitCommas r.directoryList) paths ∧
          ∀ path ∈ paths, r.parentDirectory.toList <+: path.toList) ↔
        r.inputFile = "" ∧ ∀ name ∈ splitCommas r.directoryList, ¬ IsAbsolute name)) :=
  ⟨BackupService.stateFile_beneath_iff, Restore.folders_beneath_iff⟩

/-! ## Names of both kinds -/

/-- A scan into a folder that saves its progress to a state file. -/
def savingLayer (name : String) : Layer :=
  { scan := some { (OptionGroup.unset : Scan Given) with
      transfer := { (OptionGroup.unset : Transfer Given) with
        nameSpace := some "test"
        directory := some "/backups/" }
      stateFileDst := some name } }

/-- A state file that is named from the root is accepted, and lies elsewhere than in the folder. -/
theorem state_file_leaves_folder :
    (BackupService.accepted (savingLayer "/etc/run.state")).map
        (fun run => (run.2.directory, run.2.scan.stateFile)) =
      some ("/backups/", some "/etc/run.state") ∧
    ¬ Beneath "/backups/" "/etc/run.state" "/etc/run.state" := by
  refine ⟨by decide +kernel, fun h => ?_⟩
  exact absurd (h.length_lt (by decide)) (Nat.lt_irrefl _)

/-- A state file of a plain name lies in the folder, and so do folders of plain names. -/
theorem joined_paths_beneath_iff_of_plain :
    ∃ s j path paths,
      BackupService.accepted (savingLayer "run.state") = some (s, j) ∧
      j.scan.stateFile = some path ∧ Beneath "/backups/" "run.state" path ∧
      (RestoreService.ofLayer .builtIn RestoreService.checkingLayer).restore.source? =
        some (.directories paths) ∧ List.Forall₂ (Beneath "/backups") ["a", "b"] paths := by
  have hrun : (BackupService.accepted (savingLayer "run.state")).any (fun run =>
      run.1.scan.any fun g => g.transfer.directory == "/backups/" && g.stateName == "run.state") =
        true := by
    decide +kernel
  obtain ⟨⟨s, j⟩, haccepted, hrun⟩ := (Option.any_eq_true ..).1 hrun
  obtain ⟨g, hscan, hrun⟩ := (Option.any_eq_true ..).1 hrun
  obtain ⟨hdirectory, hstate⟩ := Bool.and_eq_true_iff.1 hrun
  rw [beq_iff_eq] at hdirectory hstate
  obtain ⟨-, hjob⟩ := BackupService.of_accepted_eq_some haccepted
  obtain ⟨hfile, hfolders⟩ := joined_paths_beneath_iff _ s g j
    (RestoreService.ofLayer .builtIn RestoreService.checkingLayer).restore
  obtain ⟨path, hpath, hbeneath, -⟩ := (hfile hscan hjob (by rw [hdirectory]; decide)
    (by rw [hstate]; decide)).2 (by rw [hstate]; decide)
  obtain ⟨paths, hsource, hall, -⟩ := (hfolders (by decide) (by decide)).2 ⟨rfl, by decide⟩
  rw [hdirectory, hstate] at hbeneath
  exact ⟨s, j, path, paths, haccepted, hpath, hbeneath, hsource, hall⟩

end BackupControl
