/-
# Levels of a command line

Reads the arguments of one level: those before the command, or those after it.  The value of a
flag that takes the next argument is looked at only when the next flag begins or the level
ends, so a fault in between is found first.
-/
import BackupControl.CommandLine.Rule

namespace BackupControl.CommandLine

variable {α : Type}

/-- What has been read of a level: the record so far, the flags given, and a flag whose value is
still to come or not yet looked at. -/
structure Progress (α : Type) where
  record : α
  given : List String := []
  pending : Option (FlagRule α × Option String) := none

namespace Progress

/-- Applies a flag with its value.  A flag may be given once. -/
def apply (p : Progress α) (r : FlagRule α) (value : Option String) :
    Except Stop (Progress α) := do
  if value.isNone && r.arity == .one then throw .invalidValue
  if p.given.contains r.long then throw .argumentConflict
  let change ← r.read value
  return { record := change p.record, given := r.long :: p.given }

/-- Applies the flag that was left pending. -/
def settle (p : Progress α) : Except Stop (Progress α) :=
  match p.pending with
  | none => .ok p
  | some (r, value) => { p with pending := none }.apply r value

/-- Applies a flag after the one that was left pending. -/
def take (p : Progress α) (r : FlagRule α) (value : Option String) :
    Except Stop (Progress α) := do
  (← p.settle).apply r value

/-- Leaves a flag pending until its value has come. -/
def await (p : Progress α) (r : FlagRule α) : Except Stop (Progress α) := do
  return { (← p.settle) with pending := some (r, none) }

/-- The next argument is the value of a flag. -/
def isAwaiting (p : Progress α) : Bool :=
  match p.pending with
  | some (_, none) => true
  | _ => false

end Progress

/-! ## Flags -/

/-- The name and the value of a long flag, parted by its first equals sign. -/
def splitLong (cs : List Char) : String × Option String :=
  let name := String.ofList (cs.takeWhile (· != '='))
  match cs.dropWhile (· != '=') with
  | _ :: value => (name, some (String.ofList value))
  | [] => (name, none)

/-- Reads a long flag after its two hyphens. -/
def readLong (rules : List (FlagRule α)) (p : Progress α) (cs : List Char) :
    Except Stop (Progress α) :=
  let (name, value) := splitLong cs
  match rules.find? (·.long == name) with
  | none => .error .unknownArgument
  | some r =>
    match r.arity, value with
    | .none, some _ => .error .tooManyValues
    | .one, none => p.await r
    | _, _ => p.take r value

/-- Reads a cluster of short flags after its hyphen.  A flag that needs a value takes the rest
of the cluster. -/
def readShort (rules : List (FlagRule α)) (p : Progress α) :
    List Char → Except Stop (Progress α)
  | [] => .ok p
  | c :: rest =>
    match rules.find? (·.short == some c) with
    | none => .error .unknownArgument
    | some r =>
      match r.arity, rest with
      | .none, _ =>
        match p.take r none with
        | .ok p => readShort rules p rest
        | .error e => .error e
      | _, '=' :: value => p.take r (some (String.ofList value))
      | .optional, _ =>
        match p.take r none with
        | .ok p => readShort rules p rest
        | .error e => .error e
      | .one, [] => p.await r
      | .one, _ => p.take r (some (String.ofList rest))

/-! ## Levels -/

/-- A level: its flags, and the commands that end it. -/
structure Level (α : Type) where
  rules : List (FlagRule α)
  commands : List String

/-- The fault of an argument that is no flag.  Where a command may stand it is taken for one,
unless it is a command behind a double hyphen. -/
def Level.strayFault (l : Level α) (escaped : Bool) (arg : String) : Stop :=
  if l.commands.isEmpty then .unknownArgument
  else if escaped && l.commands.contains arg then .unknownArgument
  else .invalidSubcommand

/-- Reads a level up to its end, or up to a command and the arguments behind it. -/
def Level.read (l : Level α) (p : Progress α) :
    List String → Except Stop (Progress α × Option (String × List String))
  | [] => .ok (p, none)
  | arg :: rest =>
    if !p.isAwaiting && l.commands.contains arg then .ok (p, some (arg, rest))
    else
      match arg.toList with
      | ['-', '-'] =>
        match rest with
        | [] => .ok (p, none)
        | stray :: _ => .error (l.strayFault true stray)
      | '-' :: '-' :: cs =>
        match readLong l.rules p cs with
        | .ok p => l.read p rest
        | .error e => .error e
      | '-' :: c :: cs =>
        match readShort l.rules p (c :: cs) with
        | .ok p => l.read p rest
        | .error e => .error e
      | _ =>
        match p.pending with
        | some (r, none) => l.read { p with pending := some (r, some arg) } rest
        | _ => .error (l.strayFault false arg)

end BackupControl.CommandLine
