/-
# Types of scalars

The type of a scalar by its text.  Whole numbers are written in decimal without leading zeros
or with a base mark, and must fit sixty-four bits; decimal fractions must be finite or one of
the words for infinity and NaN; a few words are null or truth values; everything else is text.
-/
import BackupControl.Document.Basic
import BackupControl.Numeric.Literal

namespace BackupControl

/-! ## Words -/

/-- The text is a word for null. -/
def isNullWord (s : String) : Bool := s == "null" || s == "Null" || s == "NULL" || s == "~"

/-- The truth value that a word stands for. -/
def boolWord? (s : String) : Option Bool :=
  if s = "true" ∨ s = "True" ∨ s = "TRUE" then some true
  else if s = "false" ∨ s = "False" ∨ s = "FALSE" then some false
  else none

/-! ## Numbers -/

/-- The text without a plus or minus sign in front. -/
def dropSign : List Char → List Char
  | '+' :: cs => cs
  | '-' :: cs => cs
  | cs => cs

/-- The text has several digits and begins with zero, which makes it no number. -/
def isZeroPadded (cs : List Char) : Bool :=
  match dropSign cs with
  | '0' :: d :: ds => (d :: ds).all Char.isDigit
  | _ => false

/-- A whole number after its sign: in decimal, or in base sixteen, eight or two after a base
mark. -/
def unsignedNumber? : List Char → Option Nat
  | '0' :: 'x' :: cs => digitsValue? 16 cs
  | '0' :: 'o' :: cs => digitsValue? 8 cs
  | '0' :: 'b' :: cs => digitsValue? 2 cs
  | cs => digitsValue? 10 cs

/-- A whole number without a minus sign. -/
def naturalNumber? (cs : List Char) : Option Nat :=
  if isZeroPadded cs then none
  else match cs with
    | '+' :: ds => unsignedNumber? ds
    | ds => unsignedNumber? ds

/-- A whole number with a minus sign. -/
def negatedNumber? (cs : List Char) : Option Int :=
  if isZeroPadded cs then none
  else match cs with
    | '-' :: ds => (unsignedNumber? ds).map fun n => -(n : Int)
    | _ => none

/-- A whole number with or without a sign. -/
def wholeNumber? (cs : List Char) : Option Int :=
  match naturalNumber? cs with
  | some n => some n
  | none => negatedNumber? cs

/-- A decimal fraction: a finite one, or a word for an infinity or the NaN. -/
def fraction? (s : String) : Option Binary64 :=
  if s = ".inf" ∨ s = ".Inf" ∨ s = ".INF" ∨ s = "+.inf" ∨ s = "+.Inf" ∨ s = "+.INF" then
    some (Binary64.infinity false)
  else if s = "-.inf" ∨ s = "-.Inf" ∨ s = "-.INF" then some (Binary64.infinity true)
  else if s = ".nan" ∨ s = ".NaN" ∨ s = ".NAN" then some Binary64.nan
  else match s.toList with
    | '+' :: '+' :: _ => none
    | '+' :: '-' :: _ => none
    | _ =>
      match readReal? s with
      | some x => if x.isFinite then some x else none
      | none => none

/-! ## Scalars -/

/-- The type of an unquoted scalar.  A whole number beyond sixty-four bits but within a
hundred and twenty-eight has no type. -/
def plainScalar? (s : String) : Option Scalar :=
  let cs := s.toList
  if s.isEmpty || isNullWord s then some .null
  else match boolWord? s with
    | some b => some (.bool b)
    | none =>
      let fraction : Scalar :=
        if isZeroPadded cs then .text s
        else match fraction? s with
          | some x => .real x
          | none => .text s
      match naturalNumber? cs, negatedNumber? cs with
      | some n, _ =>
        if n < twoTo 64 then some (.int n) else if n < twoTo 128 then none else some fraction
      | none, some n =>
        if -(twoTo 63 : Int) ≤ n then some (.int n)
        else if -(twoTo 127 : Int) ≤ n then none
        else some fraction
      | none, none => some fraction

/-- The address of the tag of a type. -/
def coreTag (name : String) : String := "tag:yaml.org,2002:" ++ name

/-- A tag that the writer of the document chose, rather than one of a type. -/
def isLocalTag (tag : String) : Bool := tag.startsWith "!"

/-- The whole number that a scalar under the tag of whole numbers stands for. -/
def taggedInteger? (s : String) : Option Scalar :=
  match naturalNumber? s.toList, negatedNumber? s.toList with
  | some n, _ => if n < twoTo 64 then some (.int n) else none
  | none, some n => if -(twoTo 63 : Int) ≤ n then some (.int n) else none
  | none, none => none

/-- The type of a scalar by its tag, style and text; `none` if the text does not fit the tag or
has no type.  Scalars that are not plain are text unless a tag says otherwise. -/
def scalarType? (tag : Option String) (style : Yaml.ScalarStyle) (s : String) : Option Scalar :=
  let byStyle := if style = .plain then plainScalar? s else some (.text s)
  match tag with
  | none => byStyle
  | some t =>
    if t = coreTag "bool" then (boolWord? s).map .bool
    else if t = coreTag "int" then taggedInteger? s
    else if t = coreTag "float" then (fraction? s).map .real
    else if t = coreTag "null" then (if isNullWord s then some .null else none)
    else if isLocalTag t then byStyle
    else some (.text s)

namespace Document

/-- What a refusal says was found. -/
def found (d : Document) : Found :=
  match d.resolved with
  | .written tag style s => .scalar ((scalarType? tag style s).getD (.text s))
  | .fixed v => .scalar v
  | .sequence _ _ => .sequence
  | .mapping _ _ => .mapping
  | .alias _ => .mapping

/-- The document says nothing where an option may be left out: a plain scalar that is empty or
a word for null.  A tag other than that of null makes it say something. -/
def isUnset (d : Document) : Bool :=
  match d.resolved with
  | .written none .plain s => s.isEmpty || isNullWord s
  | .written (some t) .plain s => t == coreTag "null" && isNullWord s
  | .fixed .null => true
  | _ => false

end Document

end BackupControl
