/-
# YAML scalars

The three ways to write a scalar: plain, between quotes, and as an indented block.  In a plain
or quoted scalar a line break between words is folded into one space and further breaks are
kept; a block is taken line by line, folded or not.
-/
import BackupControl.Yaml.Cursor

namespace BackupControl.Yaml

/-- How a scalar is written. -/
inductive ScalarStyle where
  | plain
  | quoted
  | literal
  | folded
  deriving DecidableEq, Repr

/-! ## Gaps between words -/

/-- The white space and line breaks between two words of a scalar: the white space before the
first break, whether there was a break at all, the first break unless it is escaped, and the
breaks after it, last first. -/
structure Gap where
  spaces : List Char := []
  broken : Bool := false
  first : Option Char := none
  later : List Char := []
  deriving Repr

namespace Gap

/-- What a gap stands for.  A first break is folded into a space, or into nothing when more
breaks follow; separators of lines and paragraphs are kept. -/
def folded (g : Gap) : List Char :=
  if g.broken then
    match g.first with
    | none => g.later.reverse
    | some b =>
      if b = '\n' then (if g.later.isEmpty then [' '] else g.later.reverse)
      else b :: g.later.reverse
  else g.spaces.reverse

/-- Reads a gap.  Past a break, a tab to the left of column `tabLimit` is refused. -/
def read (tabLimit : Nat) : Nat → Gap → Cursor → Except Refusal (Gap × Cursor)
  | 0, g, c => .ok (g, c)
  | fuel + 1, g, c =>
    match c.peek with
    | none => .ok (g, c)
    | some x =>
      if isWhite x then
        if g.broken then
          if x = '\t' ∧ c.column < tabLimit then .error .malformed
          else read tabLimit fuel g (c.skip 1)
        else read tabLimit fuel { g with spaces := x :: g.spaces } (c.skip 1)
      else match c.lineBreak? with
        | none => .ok (g, c)
        | some (b, next) =>
          if g.broken then read tabLimit fuel { g with later := b :: g.later } next
          else read tabLimit fuel { broken := true, first := some b } next

end Gap

/-! ## Plain scalars -/

/-- Characters that end a plain scalar inside brackets. -/
def isFlowMark (c : Char) : Bool := c == ',' || c == '[' || c == ']' || c == '\x7b' || c == '\x7d'

/-- The characters of one word of a plain scalar.  A colon before a gap ends it, and inside
brackets a bracket or comma does; there a colon right before a mark is refused. -/
def plainWord (flow : Bool) : List Char → Except Refusal (List Char)
  | [] => .ok []
  | c :: rest =>
    if isGap c then .ok []
    else if flow && c == ':' && (rest.head?.any fun d => isFlowMark d || d == '?') then
      .error .malformed
    else if c == ':' && atGap rest then .ok []
    else if flow && isFlowMark c then .ok []
    else (plainWord flow rest).map (c :: ·)

/-- Reads a plain scalar after the words `text`, last character first, and a gap.  Gives the
text, the cursor and whether the scalar was followed by a line break. -/
def readPlain (flow : Bool) (indent : Int) :
    Nat → List Char → Gap → Cursor → Except Refusal (List Char × Cursor × Bool)
  | 0, text, gap, c => .ok (text.reverse, c, gap.broken)
  | fuel + 1, text, gap, c => do
    if c.atDocumentMark || c.peek == some '#' then return (text.reverse, c, gap.broken)
    let word ← plainWord flow c.rest
    let text' := if word.isEmpty then text else word.reverse ++ gap.folded.reverse ++ text
    let gap' : Gap := if word.isEmpty then gap else {}
    let c' := c.skip word.length
    match c'.peek with
    | some x =>
      if isGap x then
        let limit := (indent + 1).toNat
        let (gap'', next) ← gap'.read limit (c'.rest.length + 1) c'
        if !flow && next.column < limit then return (text'.reverse, next, gap''.broken)
        readPlain flow indent fuel text' gap'' next
      else return (text'.reverse, c', gap'.broken)
    | none => return (text'.reverse, c', gap'.broken)

/-! ## Quoted scalars -/

/-- The number of hexadecimal digits after an escape letter. -/
def escapeWidth? : Char → Option Nat
  | 'x' => some 2
  | 'u' => some 4
  | 'U' => some 8
  | _ => none

/-- The character of an escape letter. -/
def escapedChar? : Char → Option Char
  | '0' => some '\x00'
  | 'a' => some '\x07'
  | 'b' => some '\x08'
  | 't' => some '\t'
  | '\t' => some '\t'
  | 'n' => some '\n'
  | 'v' => some '\x0b'
  | 'f' => some '\x0c'
  | 'r' => some '\r'
  | 'e' => some '\x1b'
  | ' ' => some ' '
  | '"' => some '"'
  | '/' => some '/'
  | '\\' => some '\\'
  | 'N' => some '\u0085'
  | '_' => some '\u00a0'
  | 'L' => some '\u2028'
  | 'P' => some '\u2029'
  | _ => none

/-- The value of a hexadecimal digit. -/
def hexValue? (c : Char) : Option Nat :=
  if '0' ≤ c ∧ c ≤ '9' then some (c.toNat - '0'.toNat)
  else if 'a' ≤ c ∧ c ≤ 'f' then some (c.toNat - 'a'.toNat + 10)
  else if 'A' ≤ c ∧ c ≤ 'F' then some (c.toNat - 'A'.toNat + 10)
  else none

/-- The value of exactly `width` hexadecimal digits. -/
def hexNumber? (width : Nat) (cs : List Char) : Option Nat :=
  if cs.length < width then none
  else (cs.take width).foldlM (fun acc c => (hexValue? c).map (16 * acc + ·)) 0

/-- A code point that is a character. -/
def charOfCode? (n : Nat) : Option Char :=
  if n.isValidChar then some (Char.ofNat n) else none

/-- Reads inside quotes up to a gap or the closing quote, after characters that have been read,
last first.  The flag tells of an escaped line break, which ends the word too. -/
def quotedWord (single : Bool) :
    Nat → List Char → Cursor → Except Refusal (List Char × Cursor × Bool)
  | 0, text, c => .ok (text, c, false)
  | fuel + 1, text, c =>
    match c.rest with
    | [] => .ok (text, c, false)
    | x :: rest =>
      if isGap x then .ok (text, c, false)
      else if single then
        match x, rest with
        | '\'', '\'' :: _ => quotedWord single fuel ('\'' :: text) (c.skip 2)
        | '\'', _ => .ok (text, c, false)
        | _, _ => quotedWord single fuel (x :: text) (c.skip 1)
      else if x = '"' then .ok (text, c, false)
      else if x = '\\' then
        match (c.skip 1).lineBreak?, rest with
        | some (_, next), _ => .ok (text, next, true)
        | none, [] => .error .malformed
        | none, e :: digits =>
          match escapeWidth? e with
          | some width =>
            match (hexNumber? width digits).bind charOfCode? with
            | some d => quotedWord single fuel (d :: text) (c.skip (2 + width))
            | none => .error .malformed
          | none =>
            match escapedChar? e with
            | some d => quotedWord single fuel (d :: text) (c.skip 2)
            | none => .error .malformed
      else quotedWord single fuel (x :: text) (c.skip 1)

/-- Reads a quoted scalar after its opening quote and the words `text`, last character first,
to after its closing quote. -/
def readQuoted (single : Bool) :
    Nat → List Char → Cursor → Except Refusal (List Char × Cursor)
  | 0, _, _ => .error .malformed
  | fuel + 1, text, c => do
    if c.atDocumentMark || c.atEnd then throw .malformed
    let (text', c', escaped) ← quotedWord single (c.rest.length + 1) text c
    if c'.peek == some (if single then '\'' else '"') then
      return (text'.reverse, c'.skip 1)
    let (gap, next) ← Gap.read 0 (c'.rest.length + 1) { broken := escaped } c'
    readQuoted single fuel (gap.folded.reverse ++ text') next

/-! ## Block scalars -/

/-- What happens to the line breaks at the end of a block: cut off, the last one kept, or all
kept. -/
inductive Chomping where
  | strip
  | clip
  | keep
  deriving DecidableEq, Repr

/-- The indicators after the mark of a block, in either order: the chomping and the indentation
relative to the parent, which is a digit from one to nine. -/
def readBlockIndicators (c : Cursor) : Except Refusal (Chomping × Option Nat × Cursor) :=
  let chomping? : Option Char → Option Chomping
    | some '+' => some .keep
    | some '-' => some .strip
    | _ => none
  let digit? : Option Char → Option Nat
    | some d => if d.isDigit then some (d.toNat - '0'.toNat) else none
    | none => none
  let checked (r : Chomping × Option Nat × Cursor) :
      Except Refusal (Chomping × Option Nat × Cursor) :=
    if r.2.1 = some 0 then .error .malformed else .ok r
  match chomping? c.peek with
  | some chomping =>
    let c' := c.skip 1
    match digit? c'.peek with
    | some d => checked (chomping, some d, c'.skip 1)
    | none => .ok (chomping, none, c')
  | none =>
    match digit? c.peek with
    | none => .ok (.clip, none, c)
    | some d =>
      let c' := c.skip 1
      match chomping? c'.peek with
      | some chomping => checked (chomping, some d, c'.skip 1)
      | none => checked (.clip, some d, c')

/-- The rest of a line that may only hold white space and a comment, and its break. -/
def finishLine (c : Cursor) : Except Refusal Cursor :=
  let c := c.skipWhile isWhite
  let c := if c.peek == some '#' then c.skipWhile (fun x => !isBreak x) else c
  match c.lineBreak? with
  | some (_, next) => .ok next
  | none => if c.atEnd then .ok c else .error .malformed

/-- Reads the empty lines before the next line of a block, last break first.  While the
indentation is unknown, all leading spaces are skipped and the widest indentation is noted. -/
def blockBreaks (indent : Option Nat) :
    Nat → Nat → List Char → Cursor → Except Refusal (Nat × List Char × Cursor)
  | 0, widest, breaks, c => .ok (widest, breaks, c)
  | fuel + 1, widest, breaks, c =>
    let spaces := (c.rest.takeWhile (· == ' ')).length
    let room := match indent with
      | some n => n - c.column
      | none => spaces
    let c := c.skip (min spaces room)
    let widest := max widest c.column
    let inside := match indent with
      | some n => n ≤ c.column
      | none => false
    if c.peek == some '\t' && !inside then .error .malformed
    else match c.lineBreak? with
      | some (b, next) => blockBreaks indent fuel widest (b :: breaks) next
      | none => .ok (widest, breaks, c)

/-- Reads the lines of a block.  `lead` is the break of the line before, `breaks` are those of
the empty lines after it, last first, and `blank` tells that the line before began with white
space.  Folding turns a single break between two lines into a space, unless one of them begins
with white space. -/
def blockLines (fold : Bool) (indent : Nat) : Nat → List Char → List Char → List Char → Bool →
    Cursor → Except Refusal (List Char × List Char × List Char × Cursor)
  | 0, text, lead, breaks, _, c => .ok (text, lead, breaks, c)
  | fuel + 1, text, lead, breaks, blank, c => do
    if c.column ≠ indent || c.atEnd then return (text, lead, breaks, c)
    let indented := c.peek.any isWhite
    let joined :=
      if fold && lead == ['\n'] && !blank && !indented then
        if breaks.isEmpty then [' '] else []
      else lead
    let (line, c') := c.span (fun x => !isBreak x)
    let text' := line.reverse ++ breaks ++ joined ++ text
    let (lead', next) := match c'.lineBreak? with
      | some (b, next) => ([b], next)
      | none => ([], c')
    let (_, breaks', next') ← blockBreaks (some indent) (next.rest.length + 1) 0 [] next
    blockLines fold indent fuel text' lead' breaks' indented next'

/-- Reads a block scalar after its mark, inside a parent indented by `parent`. -/
def readBlock (fold : Bool) (parent : Int) (c : Cursor) : Except Refusal (List Char × Cursor) := do
  let (chomping, increment, c) ← readBlockIndicators c
  let c ← finishLine c
  let fuel := c.rest.length + 1
  let given : Option Nat := increment.map fun n => (max parent 0 + n).toNat
  let (widest, breaks, c) ← blockBreaks given fuel 0 [] c
  let indent := given.getD (max (max widest (parent + 1).toNat) 1)
  let (text, lead, breaks, c) ← blockLines fold indent fuel [] [] breaks false c
  let tail := match chomping with
    | .strip => text
    | .clip => lead ++ text
    | .keep => breaks ++ lead ++ text
  return (tail.reverse, c)

end BackupControl.Yaml
