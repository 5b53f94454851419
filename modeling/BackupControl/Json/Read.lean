/-
# Reading JSON

The value that a JSON text denotes.  The reading is by descent on the text with one function
for each part of the grammar; the depth of nesting is bounded by the length of the text.  How
the digits of a decimal fraction are rounded is left to the caller.
-/
import BackupControl.Json.Basic
import BackupControl.Numeric.Literal

namespace BackupControl.Json

/-! ## Leaves -/

/-- White space between tokens. -/
def isSpace (c : Char) : Bool := c == ' ' || c == '\n' || c == '\t' || c == '\r'

/-- The text after white space. -/
def skipSpace (cs : List Char) : List Char := cs.dropWhile isSpace

/-- Four hexadecimal digits and the rest of the text. -/
def readHex4? : List Char → Option (Nat × List Char)
  | a :: b :: c :: d :: rest => (digitsValue? 16 [a, b, c, d]).map fun n => (n, rest)
  | _ => none

/-- The character that an escape stands for, after the backslash; two escapes stand for one
character beyond the first plane. -/
def readEscape? : List Char → Option (Char × List Char)
  | '"' :: rest => some ('"', rest)
  | '\\' :: rest => some ('\\', rest)
  | '/' :: rest => some ('/', rest)
  | 'b' :: rest => some ('\x08', rest)
  | 'f' :: rest => some ('\x0c', rest)
  | 'n' :: rest => some ('\n', rest)
  | 'r' :: rest => some ('\r', rest)
  | 't' :: rest => some ('\t', rest)
  | 'u' :: rest =>
    match readHex4? rest with
    | none => none
    | some (n, rest) =>
      if n < 0xd800 ∨ 0xdfff < n then some (Char.ofNat n, rest)
      else if 0xdbff < n then none
      else match rest with
        | '\\' :: 'u' :: rest =>
          match readHex4? rest with
          | some (m, rest) =>
            if 0xdc00 ≤ m ∧ m ≤ 0xdfff then
              some (Char.ofNat (0x10000 + (n - 0xd800) * 0x400 + (m - 0xdc00)), rest)
            else none
          | none => none
        | _ => none
  | _ => none

/-- The characters of a string after its opening quote, last first, and the text after its
closing quote. -/
def readChars? : Nat → List Char → List Char → Option (List Char × List Char)
  | 0, _, _ => none
  | fuel + 1, done, cs =>
    match cs with
    | [] => none
    | '"' :: rest => some (done, rest)
    | '\\' :: rest =>
      match readEscape? rest with
      | some (c, rest) => readChars? fuel (c :: done) rest
      | none => none
    | c :: rest => if c.toNat < 32 then none else readChars? fuel (c :: done) rest

/-- A string after its opening quote, and the text after its closing quote. -/
def readString? (cs : List Char) : Option (String × List Char) :=
  (readChars? (cs.length + 1) [] cs).map fun (done, rest) => (String.ofList done.reverse, rest)

/-- The character can be part of a number. -/
def isNumberChar (c : Char) : Bool :=
  c.isDigit || c == '-' || c == '+' || c == '.' || c == 'e' || c == 'E'

/-- A way to round a decimal fraction without sign, whose sign is given first. -/
abbrev Rounding : Type := Bool → List Char → Option Binary64

/-- A number token: a whole number if it has neither point nor exponent, except that minus zero
is a binary fraction. -/
def number? (rounding : Rounding) (token : List Char) : Option Json :=
  let (negative, digits) := match token with
    | '-' :: cs => (true, cs)
    | cs => (false, cs)
  let wellFormed := match digits with
    | '0' :: d :: _ => !d.isDigit
    | d :: _ => d.isDigit
    | [] => false
  if !wellFormed then none
  else if digits.all Char.isDigit && !(negative && digits.all (· == '0')) then
    (digitsValue? 10 digits).map fun n => .int (if negative then -(n : Int) else n)
  else (rounding negative digits).map .real

/-! ## Values -/

mutual

/-- A value at the front of a text, and the rest of the text. -/
def readValue? (rounding : Rounding) : Nat → List Char → Option (Json × List Char)
  | 0, _ => none
  | fuel + 1, cs =>
    match skipSpace cs with
    | 'n' :: 'u' :: 'l' :: 'l' :: rest => some (.null, rest)
    | 't' :: 'r' :: 'u' :: 'e' :: rest => some (.bool true, rest)
    | 'f' :: 'a' :: 'l' :: 's' :: 'e' :: rest => some (.bool false, rest)
    | '"' :: rest => (readString? rest).map fun (s, rest) => (.str s, rest)
    | '[' :: rest =>
      match skipSpace rest with
      | ']' :: rest => some (.arr [], rest)
      | rest => (readItems? rounding fuel rest).map fun (vs, rest) => (.arr vs, rest)
    | '\x7b' :: rest =>
      match skipSpace rest with
      | '\x7d' :: rest => some (.obj [], rest)
      | rest => (readMembers? rounding fuel rest).map fun (ms, rest) => (.obj ms, rest)
    | cs =>
      (number? rounding (cs.takeWhile isNumberChar)).map fun v => (v, cs.dropWhile isNumberChar)

/-- The items of an array up to its closing bracket. -/
def readItems? (rounding : Rounding) : Nat → List Char → Option (List Json × List Char)
  | 0, _ => none
  | fuel + 1, cs =>
    match readValue? rounding fuel cs with
    | none => none
    | some (v, rest) =>
      match skipSpace rest with
      | ']' :: rest => some ([v], rest)
      | ',' :: rest => (readItems? rounding fuel rest).map fun (vs, rest) => (v :: vs, rest)
      | _ => none

/-- The members of an object up to its closing brace. -/
def readMembers? (rounding : Rounding) : Nat → List Char → Option (List (String × Json) × List Char)
  | 0, _ => none
  | fuel + 1, cs =>
    match skipSpace cs with
    | '"' :: rest =>
      match readString? rest with
      | none => none
      | some (k, rest) =>
        match skipSpace rest with
        | ':' :: rest =>
          match readValue? rounding fuel rest with
          | none => none
          | some (v, rest) =>
            match skipSpace rest with
            | '\x7d' :: rest => some ([(k, v)], rest)
            | ',' :: rest =>
              (readMembers? rounding fuel rest).map fun (ms, rest) => ((k, v) :: ms, rest)
            | _ => none
        | _ => none
    | _ => none

end

/-- The value that a text denotes under a way to round decimal fractions. -/
def readWith? (rounding : Rounding) (text : String) : Option Json :=
  let cs := text.toList
  match readValue? rounding (cs.length + 1) cs with
  | some (v, rest) => if (skipSpace rest).isEmpty then some v else none
  | none => none

/-- The value that a text denotes, decimal fractions being rounded to the nearest. -/
def ofText? (text : String) : Option Json := readWith? readMagnitude? text

/-- The member of an object under a key. -/
def member? (key : String) : Json → Option Json
  | .obj members => (members.find? (·.1 == key)).map (·.2)
  | _ => none

end BackupControl.Json
