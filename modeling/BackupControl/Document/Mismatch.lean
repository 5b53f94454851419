/-
# Mismatches between a document and its options

What is wrong with a document that is well formed but sets no options: a value of the wrong
type, a number out of range, a key that names no option.  A mismatch also says where in the
document it was found.
-/
import BackupControl.Document.Basic

namespace BackupControl

/-! ## Places -/

/-- One step from a part of a document into a smaller part: to the value of a key, to an item
of a sequence, or to the value of a key that is not itself written there. -/
inductive Step where
  | key (name : String)
  | item (index : Nat)
  | hidden
  deriving DecidableEq, Repr

/-- The text of a place, which begins at the whole document.  An item is written without a
separator. -/
def placeText (steps : List Step) : String :=
  steps.foldl (fun front step =>
    let joined := if front.isEmpty then "" else front ++ "."
    match step with
    | .key name => joined ++ name
    | .item index => front ++ "[" ++ toString index ++ "]"
    | .hidden => joined ++ "?") ""

/-! ## Problems -/

/-- What is wrong at a place. -/
inductive Problem where
  | wrongType (found : Found) (expected : String)
  | outOfRange (n : Int) (expected : String)
  | unknownKey (name : String) (known : List String)
  | repeatedKey (name : String)
  | notAList
  | taggedList
  deriving DecidableEq, Repr

/-- The known keys as a refusal lists them. -/
def knownKeysText : List String → String
  | [] => "there are no fields"
  | [a] => s!"expected `{a}`"
  | [a, b] => s!"expected `{a}` or `{b}`"
  | names => "expected one of " ++ ", ".intercalate (names.map fun a => s!"`{a}`")

/-- The wording of a problem. -/
def Problem.message : Problem → String
  | .wrongType found expected => s!"invalid type: {found.text}, expected {expected}"
  | .outOfRange n expected => s!"invalid value: integer `{n}`, expected {expected}"
  | .unknownKey name known => s!"unknown field `{name}`, {knownKeysText known}"
  | .repeatedKey name => s!"duplicate field `{name}`"
  | .notAList => "data did not match any variant of untagged enum List"
  | .taggedList => "untagged and internally tagged enums do not support enum input"

/-- A problem and its place. -/
structure Mismatch where
  place : List Step
  problem : Problem
  deriving DecidableEq, Repr

/-- The wording of a mismatch; one of the whole document names no place. -/
def Mismatch.message (m : Mismatch) : String :=
  if m.place.isEmpty then m.problem.message
  else placeText m.place ++ ": " ++ m.problem.message

end BackupControl
