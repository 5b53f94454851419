/-
# Rules of a restore

A restore reads exactly one input: a file, a folder, or a list of folders.  A run that only
checks backup files needs neither a namespace nor workers.
-/
import BackupControl.Options.Restore
import BackupControl.Rules.Transfer

namespace BackupControl

/-- The format of backup files that a restore expects. -/
inductive RestoreMode where
  | auto
  | asb
  | asbx
  deriving DecidableEq, Repr

namespace RestoreMode

/-- The word for a format. -/
def word : RestoreMode → String
  | .auto => "auto"
  | .asb => "asb"
  | .asbx => "asbx"

/-- The format of a word, which must be in lower case. -/
def ofWord? (s : String) : Option RestoreMode := [auto, asb, asbx].find? fun m => m.word == s

end RestoreMode

/-- The rules of a restore, in order. -/
def Restore.check (g : Restore Settled) : Check := do
  refuseIf (RestoreMode.ofWord? g.mode = none) (.restoreMode g.mode)
  refuseIf (g.inputFile = "" ∧ g.transfer.directory = "" ∧ g.directoryList = "")
    .missingRestoreInput
  refuseIf (g.transfer.directory ≠ "" ∧ g.inputFile ≠ "") .directoryWithInputFile
  refuseIf (g.directoryList ≠ "" ∧ (g.transfer.directory ≠ "" ∨ g.inputFile ≠ ""))
    .directoryListConflict
  refuseIf (g.parentDirectory ≠ "" ∧ g.directoryList = "") .parentWithoutDirectoryList
  refuseIf (g.warmUp < 0) (.negative "warm-up")
  if !g.validateOnly then g.transfer.check

end BackupControl
