/-
# Operations

What the program is asked to do: to take a backup or to restore one.
-/

namespace BackupControl

/-- What the program is asked to do. -/
inductive Operation where
  | backup
  | restore
  deriving DecidableEq, Repr

namespace Operation

/-- The word for an operation, on the command line and towards the engine. -/
def word : Operation → String
  | .backup => "backup"
  | .restore => "restore"

/-- The word at the beginning of a sentence. -/
def title : Operation → String
  | .backup => "Backup"
  | .restore => "Restore"

end Operation

end BackupControl
