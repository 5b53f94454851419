/-
# Flag rules

How a flag is written on a command line and what its value does.  A value is attached after an
equals sign or, behind a short name, directly; a flag that needs a value also takes the next
argument.
-/
import BackupControl.Numeric.Literal
import BackupControl.Options.Group

namespace BackupControl.CommandLine

/-- Why arguments lead to no run: they are at fault, or they ask for help. -/
inductive Stop where
  | unknownArgument
  | invalidValue
  | valueValidation
  | argumentConflict
  | tooManyValues
  | invalidSubcommand
  | missingSubcommand
  | help
  | helpForLackOfArguments
  | version
  deriving DecidableEq, Repr

/-- Whether a flag takes a value: never, only after an equals sign, or always. -/
inductive Arity where
  | none
  | optional
  | one
  deriving DecidableEq, Repr

/-- A flag and what it does to a record of flags.  The value is absent for a flag that stands
alone. -/
structure FlagRule (α : Type) where
  long : String
  short : Option Char
  arity : Arity
  read : Option String → Except Stop (α → α)

/-! ## Values -/

/-- The value of a kind that a text after a flag stands for. -/
def flagValue (k : Kind) (s : String) : Except Stop k.Value :=
  let counted (k : Kind) (least most : Nat) : Except Stop k.Value :=
    match readInteger least most s with
    | .ok n =>
      match k.ofInt? n with
      | some v => .ok v
      | none => .error .valueValidation
    | .error _ => .error .valueValidation
  match k with
  | .text => .ok s
  | .list => .ok s
  | .switch =>
    if s = "true" then .ok true else if s = "false" then .ok false else .error .invalidValue
  | .word16 => counted .word16 (twoTo 63) (twoTo 63 - 1)
  | .word32 => counted .word32 (twoTo 63) (twoTo 63 - 1)
  | .word64 => counted .word64 0 (twoTo 64 - 1)
  | .size => counted .size 0 (twoTo 64 - 1)
  | .int32 => counted .int32 (twoTo 63) (twoTo 63 - 1)
  | .int64 => counted .int64 (twoTo 63) (twoTo 63 - 1)
  | .real =>
    match readReal? s with
    | some x => .ok x
    | none => .error .valueValidation

/-- A switch may stand alone and is then on; every other kind needs a value. -/
def arityOf (k : Kind) : Arity := if k = .switch then .optional else .one

/-- The text that a flag without a value stands for. -/
def loneValue : String := "true"

namespace FlagRule

/-- The rule of an option of a group that is part of a record. -/
def ofSetting {α : Type} {G : (Type → Type) → Type} (update : (G Given → G Given) → α → α)
    (s : Setting G) (f : Flag) : FlagRule α where
  long := f.long
  short := f.short
  arity := arityOf s.kind
  read value :=
    (flagValue s.kind (value.getD loneValue)).map fun v => update (s.put (some v))

/-- The rule of a flag that stands alone and does one thing. -/
def lone {α : Type} (long : String) (short : Option Char) (read : Except Stop (α → α)) :
    FlagRule α where
  long := long
  short := short
  arity := .none
  read _ := read

/-- The rule of a flag with a text. -/
def withText {α : Type} (long : String) (read : String → Except Stop (α → α)) : FlagRule α where
  long := long
  short := none
  arity := .one
  read value := read (value.getD "")

/-- The same rule for a part of a larger record. -/
def within {α β : Type} (update : (α → α) → β → β) (r : FlagRule α) : FlagRule β where
  long := r.long
  short := r.short
  arity := r.arity
  read value := (r.read value).map update

end FlagRule

end BackupControl.CommandLine
