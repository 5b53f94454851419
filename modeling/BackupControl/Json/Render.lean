/-
# JSON text

A value is written either on one line without any space, as it is handed to the engine, or
over several lines with two spaces for each level, as it is shown to a person.  A number that
is no finite one has no JSON text and is written as null.
-/
import BackupControl.Json.Basic

namespace BackupControl.Json

/-! ## Leaves -/

/-- A character inside a JSON string.  Controls without a short escape are written with four
hexadecimal digits; every other character stands for itself. -/
def escape (c : Char) : List Char :=
  match c with
  | '"' => ['\\', '"']
  | '\\' => ['\\', '\\']
  | '\n' => ['\\', 'n']
  | '\r' => ['\\', 'r']
  | '\t' => ['\\', 't']
  | '\x08' => ['\\', 'b']
  | '\x0c' => ['\\', 'f']
  | _ =>
    if c.toNat < 32 then
      let ds := Nat.toDigits 16 c.toNat
      ['\\', 'u'] ++ List.replicate (4 - ds.length) '0' ++ ds
    else [c]

/-- The text of a string, with quotes. -/
def writeString (s : String) : List Char := '"' :: s.toList.flatMap escape ++ ['"']

/-- The text of a binary fraction. -/
def writeReal (x : Binary64) : List Char :=
  if x.isFinite then (x.text .ofData).toList else "null".toList

/-! ## One line -/

mutual

/-- The text of a value on one line. -/
def writeCompact : Json → List Char
  | .null => "null".toList
  | .bool b => (if b then "true" else "false").toList
  | .int n => n.repr.toList
  | .real x => writeReal x
  | .str s => writeString s
  | .arr items => '[' :: writeItems items ++ [']']
  | .obj members => '\x7b' :: writeMembers members ++ ['\x7d']

/-- The items of an array with commas between. -/
def writeItems : List Json → List Char
  | [] => []
  | [v] => writeCompact v
  | v :: vs => writeCompact v ++ ',' :: writeItems vs

/-- The members of an object with commas between. -/
def writeMembers : List (String × Json) → List Char
  | [] => []
  | [(k, v)] => writeString k ++ ':' :: writeCompact v
  | (k, v) :: ms => writeString k ++ ':' :: writeCompact v ++ ',' :: writeMembers ms

end

/-- The value on one line. -/
def compact (v : Json) : String := String.ofList (writeCompact v)

/-! ## Several lines -/

/-- A new line at a level of nesting. -/
def newLine (level : Nat) : List Char := '\n' :: List.replicate (2 * level) ' '

mutual

/-- The text of a value over several lines, for a place at a level of nesting. -/
def writePretty (level : Nat) : Json → List Char
  | .null => "null".toList
  | .bool b => (if b then "true" else "false").toList
  | .int n => n.repr.toList
  | .real x => writeReal x
  | .str s => writeString s
  | .arr [] => "[]".toList
  | .arr items => '[' :: writePrettyItems (level + 1) items ++ newLine level ++ [']']
  | .obj [] => ['\x7b', '\x7d']
  | .obj members =>
    '\x7b' :: writePrettyMembers (level + 1) members ++ newLine level ++ ['\x7d']

/-- The items of an array, each on its own line. -/
def writePrettyItems (level : Nat) : List Json → List Char
  | [] => []
  | [v] => newLine level ++ writePretty level v
  | v :: vs => newLine level ++ writePretty level v ++ ',' :: writePrettyItems level vs

/-- The members of an object, each on its own line. -/
def writePrettyMembers (level : Nat) : List (String × Json) → List Char
  | [] => []
  | [(k, v)] => newLine level ++ writeString k ++ ": ".toList ++ writePretty level v
  | (k, v) :: ms =>
    newLine level ++ writeString k ++ ": ".toList ++ writePretty level v ++
      ',' :: writePrettyMembers level ms

end

/-- The value over several lines. -/
def pretty (v : Json) : String := String.ofList (writePretty 0 v)

end BackupControl.Json
