/-
# Documents

A document is what a config file says before it is known which options it sets.  The type of
an unquoted scalar depends on the option that reads it, so such a scalar is kept as it is
written; a document from another source may also hold scalars whose type is fixed.
-/
import BackupControl.Yaml.Scalar
import BackupControl.Numeric.ShortestDecimal
import BackupControl.Text.Quoted

namespace BackupControl

/-- A scalar with its type. -/
inductive Scalar where
  | null
  | bool (b : Bool)
  | int (n : Int)
  | real (x : Binary64)
  | text (s : String)
  deriving DecidableEq, Repr

/-- A document or a part of one. -/
inductive Document where
  | written (tag : Option String) (style : Yaml.ScalarStyle) (text : String)
  | fixed (v : Scalar)
  | sequence (tag : Option String) (items : List Document)
  | mapping (tag : Option String) (entries : List (Document × Document))
  | alias (target : Document)
  deriving Repr, Inhabited

namespace Document

/-- The document itself, or what it is an alias of. -/
def resolved : Document → Document
  | .alias target => target.resolved
  | d => d

end Document

/-- What was found where something else was expected. -/
inductive Found where
  | scalar (v : Scalar)
  | sequence
  | mapping
  deriving DecidableEq, Repr

/-- How a refusal names what was found. -/
def Found.text : Found → String
  | .scalar .null => "unit value"
  | .scalar (.bool b) => s!"boolean `{b}`"
  | .scalar (.int n) => s!"integer `{n}`"
  | .scalar (.real x) => "floating point `" ++ x.text .ofProse ++ "`"
  | .scalar (.text s) => "string " ++ quoted s
  | .sequence => "sequence"
  | .mapping => "map"

end BackupControl
