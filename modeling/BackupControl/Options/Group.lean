/-
# Option groups

A group of options is a structure over a functor: over `Given` it says what one source sets,
over `Settled` it holds a value for every option.  Two operations build every configuration:
`overlay` lays one source over another, and `settle` fills what no source has set.  A group
also lists its options, and the list drives the reading of documents and flags.
-/
import BackupControl.Options.Kind

namespace BackupControl

/-- What one source says about an option: nothing, or a value. -/
abbrev Given (α : Type) : Type := Option α

/-- An option after every source has been heard. -/
abbrev Settled (α : Type) : Type := α

/-! ## Flags -/

/-- The commands whose command line has a flag. -/
inductive Scope where
  | both
  | backup
  | restore
  deriving DecidableEq, Repr

/-- The flag of an option: its long name, its short name if it has one, and its scope. -/
structure Flag where
  long : String
  short : Option Char
  scope : Scope
  deriving DecidableEq, Repr

/-! ## Settings -/

/-- One option of a group: its key in a document, its kind, its place in the group and its
flag.  The place is the same whatever the functor, so one description serves what is given and
what is settled. -/
structure Setting (G : (Type → Type) → Type) where
  key : String
  kind : Kind
  get : {F : Type → Type} → G F → F kind.Value
  put : {F : Type → Type} → F kind.Value → G F → G F
  flag : Option Flag := some ⟨key, none, .both⟩

namespace Setting

variable {G H : (Type → Type) → Type}

/-- The same option seen as one of a group that contains its group. -/
def within (inner : {F : Type → Type} → H F → G F)
    (update : {F : Type → Type} → G F → H F → H F) (s : Setting G) : Setting H where
  key := s.key
  kind := s.kind
  get := fun h => s.get (inner h)
  put := fun v h => update (s.put v (inner h)) h
  flag := s.flag

/-- The same option under a flag with something in front of its name. -/
def underFlag (front : String) (s : Setting G) : Setting G :=
  { s with flag := s.flag.map fun f => { f with long := front ++ f.long } }

end Setting

/-! ## Groups -/

/-- A group of options: how to fill each of them by its kind, how to join two of them option
by option, and the list of its options. -/
class OptionGroup (G : (Type → Type) → Type) where
  fill : {F : Type → Type} → ((k : Kind) → F k.Value) → G F
  zipWith : {F₁ F₂ F₃ : Type → Type} →
    ((k : Kind) → F₁ k.Value → F₂ k.Value → F₃ k.Value) → G F₁ → G F₂ → G F₃
  settings : List (Setting G)

namespace OptionGroup

variable {G : (Type → Type) → Type} [OptionGroup G]

/-- The source that sets nothing. -/
def unset : G Given := fill fun _ => none

/-- The values of a group in which everything is zero or empty. -/
def blank : G Settled := fill Kind.blank

/-- One source over another: an option has the value of `top` where `top` sets it. -/
def overlay (base top : G Given) : G Given := zipWith (fun _ b o => o.or b) base top

/-- A source over settled values: an option keeps its settled value unless the source sets
it. -/
def settle (given : G Given) (values : G Settled) : G Settled :=
  zipWith (fun _ g v => g.getD v) given values

/-- No option is set. -/
def isUnset (given : G Given) : Bool :=
  (settings (G := G)).all fun s => (s.get given).isNone

end OptionGroup

/-- One section over another: a section is there if either side has it, and two sections are
laid over each other option by option. -/
def overlaySection {G : (Type → Type) → Type} [OptionGroup G] :
    Option (G Given) → Option (G Given) → Option (G Given)
  | some base, some top => some (OptionGroup.overlay base top)
  | base, top => top.or base

/-- A section that may be missing over settled values; a missing one sets nothing. -/
def settleSection {G : (Type → Type) → Type} [OptionGroup G]
    (given : Option (G Given)) (values : G Settled) : G Settled :=
  OptionGroup.settle (given.getD OptionGroup.unset) values

end BackupControl
