/-
# Violations

The constraints that options must meet beyond their types.  A violation is the first constraint
that fails; the rest are not looked at.
-/
import BackupControl.Partition.Overlap
import BackupControl.Rules.FilePrefix

namespace BackupControl

/-- A constraint that is not met. -/
inductive Violation where
  | missingOutputTarget
  | outputFileWithDirectory
  | filePrefix (fault : PrefixFault)
  | filePrefixWithOutputFile
  | multipleFilters (options : List String)
  | continueWithStateFile
  | continueWithRemoveFiles
  | maxRecordsWithParallel
  | estimateWithFilter
  | estimateWithOutput
  | negativeEstimateSamples
  | restoreMode (mode : String)
  | missingRestoreInput
  | directoryWithInputFile
  | directoryListConflict
  | parentWithoutDirectoryList
  | badNamespace (nameSpace : String)
  | required (option : String)
  | negative (option : String)
  | tooSmall (option : String) (least : Int)
  | exclusive (first second : String)
  | paired (first second : String)
  | unsupportedForChangeFeed (option : String)
  | unsupported (what value : String)
  | missingEncryptionKey
  | multipleEncryptionKeys
  | storage (provider : String) (cause : Violation)
  | multipleCloudProviders
  | backupMode
  | partitions (fault : OverlapFault)
  deriving DecidableEq, Repr

namespace Violation

/-- The wording of a violation. -/
def message : Violation → String
  | .missingOutputTarget => "must specify either estimate, output-file or directory"
  | .outputFileWithDirectory =>
    "only one of output-file and directory may be configured at the same time"
  | .filePrefix fault => s!"invalid output-file-prefix: {fault.message}"
  | .filePrefixWithOutputFile => "using output-file-prefix is not allowed with output-file"
  | .multipleFilters options =>
    "only one of " ++ " or ".intercalate options ++ " can be configured"
  | .continueWithStateFile => "continue and state-file-dst are mutually exclusive"
  | .continueWithRemoveFiles =>
    "continue and remove-files are mutually exclusive, as remove-files will delete the backup files"
  | .maxRecordsWithParallel => "max-records must be used with parallel = 1"
  | .estimateWithFilter => "estimate with any filter is not allowed"
  | .estimateWithOutput => "estimate with output-file or directory is not allowed"
  | .negativeEstimateSamples => "estimate with estimate-samples < 0 is not allowed"
  | .restoreMode mode => s!"invalid restore mode: {mode}"
  | .missingRestoreInput => "input file or directory required"
  | .directoryWithInputFile =>
    "only one of directory and input-file may be configured at the same time"
  | .directoryListConflict =>
    "only one of directory, input-file and directory-list may be configured at the same time"
  | .parentWithoutDirectoryList => "must specify directory-list list"
  | .badNamespace nameSpace => s!"invalid namespace: {nameSpace}"
  | .required option => s!"{option} is required"
  | .negative option => s!"{option} must be non-negative"
  | .tooSmall option least => s!"{option} can't be less than {least}"
  | .exclusive first second => s!"{first} and {second} are mutually exclusive"
  | .paired first second => s!"{first} and {second} must be configured together"
  | .unsupportedForChangeFeed option => s!"{option} is not supported for xdr backup"
  | .unsupported what value => s!"unsupported {what}: {value}"
  | .missingEncryptionKey => "encryption key location not specified"
  | .multipleEncryptionKeys => "only one encryption key source may be configured"
  | .storage provider cause => s!"failed to validate {provider}: {cause.message}"
  | .multipleCloudProviders => "only one cloud provider can be configured"
  | .backupMode => "exactly one of backup or xdr backup must be configured"
  | .partitions fault => fault.message

/-- The wordings of a violation and of the causes behind it, outermost first.  A violation that
names its cause in its own wording has it as a cause as well. -/
def chain : Violation → List String
  | .filePrefix fault => [(Violation.filePrefix fault).message, fault.message]
  | .storage provider cause => (Violation.storage provider cause).message :: cause.chain
  | v => [v.message]

end Violation

/-! ## Checks -/

/-- A check of constraints: it passes or gives the first that fails. -/
abbrev Check : Type := Except Violation Unit

/-- Fails with a violation if a condition holds. -/
def refuseIf (condition : Prop) [Decidable condition] (v : Violation) : Check :=
  if condition then .error v else .ok ()

/-- Checks a value that may be absent; an absent one passes. -/
def checkOption {α : Type} (check : α → Check) : Option α → Check
  | some a => check a
  | none => .ok ()

end BackupControl
