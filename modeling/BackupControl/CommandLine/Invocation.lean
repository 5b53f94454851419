/-
# Invocations

A command line as a whole: a command, the flags of every level, and the flags of the command.
-/
import BackupControl.CommandLine.Flags

namespace BackupControl.CommandLine

/-- What a command line asks for. -/
structure Invocation where
  op : Operation
  globals : GlobalFlags
  flags : CommandFlags

namespace Invocation

/-- The engine that is started unless a flag names another. -/
def usualEngine : String := "backup-engine"

/-- The engine to start. -/
def engine (i : Invocation) : String := i.globals.engine.getD usualEngine

/-- The environment variable that names the engine when no flag does. -/
def engineVariable : String := "BACKUPCTL_ENGINE"

/-- The invocation with the engine that the environment names, unless a flag names one. -/
def inEnvironment (named : Option String) (i : Invocation) : Invocation :=
  { i with globals := { i.globals with engine := i.globals.engine.or named } }

/-- The layer of the logging flags. -/
def appLayer (i : Invocation) : Layer := { app := some i.globals.app }

/-- The layer of the flags of the command. -/
def layer (i : Invocation) : Layer := i.flags.layer i.op

/-! ## Reading -/

/-- The word that asks for help on a command. -/
def helpWord : String := "help"

/-- The commands. -/
def commandWords : List String := [Operation.backup.word, Operation.restore.word, helpWord]

/-- The level before the command. -/
def outerLevel : Level GlobalFlags where
  rules := GlobalFlags.rules ++ [.lone "version" (some 'V') (.error .version)]
  commands := commandWords

/-- The level after the command, where flags of both kinds may stand. -/
def innerLevel (op : Operation) : Level (GlobalFlags × CommandFlags) where
  rules :=
    (CommandFlags.rules op).map (.within fun change r => (r.1, change r.2)) ++
    GlobalFlags.rules.map (.within fun change r => (change r.1, r.2))
  commands := []

/-- The end of a request for help on a command: words behind it must be commands in turn, and
none has commands of its own. -/
def helpOn : List String → Stop
  | [] => .help
  | [command] => if commandWords.contains command then .help else .invalidSubcommand
  | _ => .invalidSubcommand

/-- Reads what follows a command, and then ends the level before it. -/
def readCommand {α β : Type} (op : Operation) (outer : Progress α) (level : Level β) (start : β)
    (args : List String) : Except Stop (Operation × α × β) := do
  let (inner, _) ← level.read { record := start } args
  let inner ← inner.settle
  let outer ← outer.settle
  return (op, outer.record, inner.record)

/-- Reads a command and the records of the levels before and after it. -/
def readLevels {α β : Type} (outer : Level α) (inner : Operation → Level β) (first : α) (second : β)
    (args : List String) : Except Stop (Operation × α × β) := do
  let (outer, command) ← outer.read { record := first } args
  match command with
  | some (word, rest) =>
    if word = Operation.backup.word then readCommand .backup outer (inner .backup) second rest
    else if word = Operation.restore.word then
      readCommand .restore outer (inner .restore) second rest
    else throw (helpOn rest)
  | none =>
    let outer ← outer.settle
    throw (if outer.given.isEmpty then .helpForLackOfArguments else .missingSubcommand)

/-- Reads the arguments behind the name of the program. -/
def ofArguments (args : List String) : Except Stop Invocation :=
  (readLevels outerLevel innerLevel {} ({}, {}) args).map fun (op, globals, inner) =>
    ⟨op, globals.overlay inner.1, inner.2⟩

end Invocation

end BackupControl.CommandLine
