/-
# Failures

Why a run ends without success: a cause, and the activities during which it arose.  A failure
is shown as the chain of their wordings, the outermost activity first.
-/
import BackupControl.Calendar.TimeLiteral
import BackupControl.Operation
import BackupControl.Options.OfText
import BackupControl.Rules.Racks
import BackupControl.Rules.Violation

namespace BackupControl

/-! ## Causes -/

/-- An option whose text denotes nothing. -/
inductive LiteralFault where
  | time (input : String) (fault : TimeLiteralFault)
  | rack (fault : RackFault)
  | selector (fault : SelectorFault)
  | filterExpression (fault : Base64.Fault)

/-- The wording of a literal fault. -/
def LiteralFault.message : LiteralFault → String
  | .time input .unknownFormat => s!"unknown time format: {input}"
  | .time input (.malformed fault) => s!"failed to parse time {input}: {fault.message}"
  | .rack fault => fault.message
  | .selector fault => fault.message
  | .filterExpression fault => s!"failed to parse filter expression: {fault.message}"

/-- Why the operating system refuses to open, create or start something. -/
inductive FileFault where
  | missing
  | denied
  | exists
  | notADirectory
  | isADirectory
  | notText
  deriving DecidableEq, Repr

/-- The wording of a file fault. -/
def FileFault.message : FileFault → String
  | .missing => "No such file or directory (os error 2)"
  | .denied => "Permission denied (os error 13)"
  | .exists => "File exists (os error 17)"
  | .notADirectory => "Not a directory (os error 20)"
  | .isADirectory => "Is a directory (os error 21)"
  | .notText => "stream did not contain valid UTF-8"

/-! ## Activities -/

/-- What was being done when a cause arose. -/
inductive Activity where
  | configuring
  | resolving (option : String)
  | mappingBackup
  | mappingWarmUp
  | checkingPartitions
  | readingAfterDigest
  | readingPartitionList
  | readingModifiedBefore
  | readingModifiedAfter
  | readingFile (path : String)
  | parsingFile (path : String)
  | creatingLogDirectory (path : String)
  | openingLogFile (path : String)
  | starting (command : List String)

/-- The wording of an activity. -/
def Activity.message : Activity → String
  | .configuring => "invalid configuration"
  | .resolving option => s!"failed to resolve {option}"
  | .mappingBackup => "failed to map backup config"
  | .mappingWarmUp => "failed to map warm-up"
  | .checkingPartitions => "failed to validate partition filters"
  | .readingAfterDigest => "failed to parse after digest filter"
  | .readingPartitionList => "failed to parse partition filter list"
  | .readingModifiedBefore => "failed to parse modified before date"
  | .readingModifiedAfter => "failed to parse modified after date"
  | .readingFile path => s!"reading {path}"
  | .parsingFile path => s!"parsing {path}"
  | .creatingLogDirectory path => s!"failed to create log directory {path}"
  | .openingLogFile path => s!"failed to open log file {path}"
  | .starting command => "failed to spawn: " ++ " ".intercalate command

/-! ## Failures -/

/-- A cause, or a failure that arose during an activity. -/
inductive Failure where
  | violation (v : Violation)
  | literal (fault : LiteralFault)
  | noSecretAgent
  | secretRefused (answer : String)
  | unknownSecret (reference : String)
  | negativeCount
  | configNotFound (path : String)
  | config (fault : ConfigFault)
  | file (fault : FileFault)
  | aborted (op : Operation)
  | engineFailed (op : Operation)
  | during (activity : Activity) (cause : Failure)

namespace Failure

/-- The wordings of a failure and of what is behind it, outermost first. -/
def chain : Failure → List String
  | .violation v => v.chain
  | .literal fault => [fault.message]
  | .noSecretAgent => ["secret agent is not configured"]
  | .secretRefused answer => [s!"secret agent lookup failed: {answer}"]
  | .unknownSecret reference => [s!"no such secret: {reference}"]
  | .negativeCount => ["out of range integral type conversion attempted"]
  | .configNotFound path => [s!"config file not found: {path}"]
  | .config fault => [fault.message]
  | .file fault => [fault.message]
  | .aborted op => [s!"{op.word} aborted: invalid configuration"]
  | .engineFailed op => [s!"{op.word} failed: engine exited non-zero"]
  | .during activity cause => activity.message :: cause.chain

/-- The failure on one line. -/
def message (f : Failure) : String := ": ".intercalate f.chain

end Failure

/-- The result of a step that may fail. -/
abbrev Result (α : Type) : Type := Except Failure α

namespace Result

/-- A step that was part of an activity. -/
def during {α : Type} (activity : Activity) (r : Result α) : Result α :=
  r.mapError (.during activity)

/-- A check as a step. -/
def ofCheck (c : Check) : Result Unit := c.mapError .violation

end Result

end BackupControl
