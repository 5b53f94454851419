/-
# Positions in a YAML text

A cursor is what is left of a text and where it stands: how many characters are behind it, its
line and its column.  The module also names the classes of characters on which the reading of
scalars and tokens rests.
-/

namespace BackupControl.Yaml

/-- The text is no YAML.  Where and why is not told apart. -/
inductive Refusal where
  | malformed
  deriving DecidableEq, Repr

/-! ## Classes of characters -/

/-- A space or a tab. -/
def isWhite (c : Char) : Bool := c == ' ' || c == '\t'

/-- A line break of any convention. -/
def isBreak (c : Char) : Bool :=
  c == '\n' || c == '\r' || c == '\u0085' || c == '\u2028' || c == '\u2029'

/-- White space or a line break. -/
def isGap (c : Char) : Bool := isWhite c || isBreak c

/-- A letter, a digit, an underscore or a hyphen, of ASCII alone. -/
def isWordChar (c : Char) : Bool := c.isAlphanum || c == '_' || c == '-'

/-- The character may stand in a YAML text: no control but tab and line breaks. -/
def isAllowed (c : Char) : Bool :=
  c == '\t' || c == '\n' || c == '\r' || (' ' ≤ c && c ≤ '~') || c == '\u0085' ||
    ('\u00a0' ≤ c && c ≤ '\ufffd') || 0x10000 ≤ c.toNat

/-- The text is at its end or goes on with white space or a line break. -/
def atGap : List Char → Bool
  | [] => true
  | c :: _ => isGap c

/-! ## Cursors -/

/-- What is left of a text, and the position reached. -/
structure Cursor where
  rest : List Char
  index : Nat
  line : Nat
  column : Nat
  deriving DecidableEq, Repr

namespace Cursor

/-- The beginning of a text; a byte order mark before it is no part of it. -/
def start (text : List Char) : Cursor :=
  match text with
  | '\ufeff' :: rest => ⟨rest, 0, 0, 0⟩
  | _ => ⟨text, 0, 0, 0⟩

/-- The text is read to its end. -/
def atEnd (c : Cursor) : Bool := c.rest.isEmpty

/-- The next character. -/
def peek (c : Cursor) : Option Char := c.rest.head?

/-- The cursor after `n` characters of the line. -/
def skip (c : Cursor) (n : Nat) : Cursor :=
  ⟨c.rest.drop n, c.index + n, c.line, c.column + n⟩

/-- The characters of the line with a property, and the cursor after them. -/
def span (p : Char → Bool) (c : Cursor) : List Char × Cursor :=
  let taken := c.rest.takeWhile p
  (taken, c.skip taken.length)

/-- The cursor after the characters of the line with a property. -/
def skipWhile (p : Char → Bool) (c : Cursor) : Cursor := (c.span p).2

/-- Reads a line break, if there is one.  The break is written as a line feed, except the line
and paragraph separators, which stay as they are; a carriage return and a line feed after it
are one break. -/
def lineBreak? (c : Cursor) : Option (Char × Cursor) :=
  match c.rest with
  | '\r' :: '\n' :: rest => some ('\n', ⟨rest, c.index + 2, c.line + 1, 0⟩)
  | b :: rest =>
    if isBreak b then
      let written := if b = '\u2028' ∨ b = '\u2029' then b else '\n'
      some (written, ⟨rest, c.index + 1, c.line + 1, 0⟩)
    else none
  | [] => none

/-- The cursor stands at the beginning of a line before `---` or `...` and a gap. -/
def atDocumentMark (c : Cursor) : Bool :=
  c.column == 0 &&
    match c.rest with
    | '-' :: '-' :: '-' :: rest => atGap rest
    | '.' :: '.' :: '.' :: rest => atGap rest
    | _ => false

end Cursor

end BackupControl.Yaml
