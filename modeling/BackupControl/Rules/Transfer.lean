/-
# Rules of transfers

The namespace option names one namespace, or a source and a destination with a comma between.
-/
import BackupControl.Options.Transfer
import BackupControl.Rules.Violation
import BackupControl.Text.Commas

namespace BackupControl

/-- The source and the destination that a namespace option names: one namespace is both, and
none may be empty. -/
def namespacePair? (s : String) : Option (String × String) :=
  match splitCommas s with
  | [single] => if single = "" then none else some (single, single)
  | [source, destination] =>
    if source = "" ∨ destination = "" then none else some (source, destination)
  | _ => none

/-- The namespace is given and names one or two, and at least one worker runs. -/
def Transfer.check (g : Transfer Settled) : Check := do
  refuseIf (g.nameSpace = "") (.required "namespace")
  refuseIf (namespacePair? g.nameSpace = none) (.badNamespace g.nameSpace)
  refuseIf (g.parallel < 1) (.tooSmall "parallel" 1)

end BackupControl
