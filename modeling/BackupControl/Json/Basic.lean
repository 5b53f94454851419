/-
# JSON values

The values handed to the backup engine.  The members of an object keep the order in which they
are listed, and whole numbers are kept apart from binary fractions, since the two are written
differently.
-/
import BackupControl.Numeric.ShortestDecimal

namespace BackupControl

/-- A JSON value. -/
inductive Json where
  | null
  | bool (b : Bool)
  | int (n : Int)
  | real (x : Binary64)
  | str (s : String)
  | arr (items : List Json)
  | obj (members : List (String × Json))
  deriving Repr, Inhabited

namespace Json

/-- A natural number. -/
def nat (n : Nat) : Json := .int n

/-- A value that may be absent. -/
def optional {α : Type} (f : α → Json) : Option α → Json
  | none => .null
  | some a => f a

/-- A list of values of one kind. -/
def list {α : Type} (f : α → Json) (xs : List α) : Json := .arr (xs.map f)

/-- A text that may be absent. -/
def optionalText : Option String → Json := optional .str

/-- A list of texts. -/
def texts : List String → Json := list .str

end Json

end BackupControl
