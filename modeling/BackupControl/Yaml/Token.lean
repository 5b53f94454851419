/-
# YAML tokens

A text as a list of tokens.  Indentation becomes explicit: a block opens with a start token and
closes with an end token.  Whether a scalar is the key of a mapping is known only at the colon
after it, so the place of every possible key is remembered, and the key token and the start of
its mapping are put there once the colon is seen.
-/
import BackupControl.Yaml.Property

namespace BackupControl.Yaml

/-- A token of a YAML text. -/
inductive Token where
  | directive (d : Directive)
  | documentStart
  | documentEnd
  | blockSequenceStart
  | blockMappingStart
  | blockEnd
  | flowSequenceStart
  | flowSequenceEnd
  | flowMappingStart
  | flowMappingEnd
  | blockEntry
  | flowEntry
  | key
  | value
  | alias (name : String)
  | anchor (name : String)
  | tag (handle suffix : String)
  | scalar (style : ScalarStyle) (text : String)
  deriving DecidableEq, Repr

/-- A place where a key may have begun: how many tokens lie before it, its position, and
whether nothing but a key can stand there. -/
structure PossibleKey where
  tokensBefore : Nat
  index : Nat
  line : Nat
  column : Nat
  required : Bool
  deriving DecidableEq, Repr

/-- What has been read of a text: the cursor, the tokens, last first, and their number; the
possible key of each level of brackets, innermost first; the indentation of the open blocks,
innermost first, where `-1` is outside of all; and whether a key may begin here. -/
structure TokenReader where
  cursor : Cursor
  tokens : List Token := []
  count : Nat := 0
  keys : List (Option PossibleKey) := [none]
  indents : List Int := []
  keyAllowed : Bool := true
  deriving Repr

namespace TokenReader

/-- The cursor stands inside brackets. -/
def inFlow (r : TokenReader) : Bool := 1 < r.keys.length

/-- The indentation of the innermost open block. -/
def indent (r : TokenReader) : Int := r.indents.headD (-1)

/-- One more token. -/
def push (t : Token) (r : TokenReader) : TokenReader :=
  { r with tokens := t :: r.tokens, count := r.count + 1 }

/-- A token put behind the first `n` tokens. -/
def insertAfter (n : Nat) (t : Token) (r : TokenReader) : TokenReader :=
  let later := r.tokens.take (r.count - n)
  let earlier := r.tokens.drop (r.count - n)
  { r with tokens := later ++ t :: earlier, count := r.count + 1 }

/-- The cursor moved on by `n` characters. -/
def advance (n : Nat) (r : TokenReader) : TokenReader := { r with cursor := r.cursor.skip n }

/-- The setting of whether a key may begin. -/
def allowKey (allowed : Bool) (r : TokenReader) : TokenReader := { r with keyAllowed := allowed }

/-! ## Possible keys -/

/-- Forgets the possible key of the innermost level; one that was required is missed. -/
def dropKey (r : TokenReader) : Except Refusal TokenReader :=
  match r.keys with
  | some k :: rest => if k.required then .error .malformed else .ok { r with keys := none :: rest }
  | _ => .ok r

/-- Notes that a key may begin here. -/
def noteKey (r : TokenReader) : Except Refusal TokenReader := do
  if !r.keyAllowed then return r
  let r ← r.dropKey
  let c := r.cursor
  let required := !r.inFlow && r.indent == (c.column : Int)
  return { r with keys := some ⟨r.count, c.index, c.line, c.column, required⟩ :: r.keys.drop 1 }

/-- Forgets the possible keys that are too far back: a key ends on its line and within 1024
characters. -/
def expireKeys (r : TokenReader) : Except Refusal TokenReader := do
  let keys ← r.keys.mapM fun key => do
    match key with
    | none => return none
    | some k =>
      if k.line < r.cursor.line || k.index + 1024 < r.cursor.index then
        if k.required then throw .malformed
        return none
      else return some k
  return { r with keys }

/-! ## Blocks -/

/-- Opens a block at a column unless an open one is indented as much; `at_` is the number of
tokens that stay before its start, or `none` for all. -/
def openBlock (column : Nat) (start : Token) (place : Option Nat) (r : TokenReader) :
    TokenReader :=
  if r.inFlow || (column : Int) ≤ r.indent then r
  else
    let r := { r with indents := (column : Int) :: r.indents }
    match place with
    | none => r.push start
    | some n => r.insertAfter n start

/-- Closes the blocks that are indented by more than `column`. -/
def closeBlocks (column : Int) (r : TokenReader) : TokenReader :=
  if r.inFlow then r
  else
    let closed := (r.indents.takeWhile (column < ·)).length
    { r with
      indents := r.indents.drop closed
      tokens := List.replicate closed Token.blockEnd ++ r.tokens
      count := r.count + closed }

/-! ## White space and comments -/

/-- Skips white space, comments and line breaks.  A tab is white space only where no key may
begin, and a line break outside brackets lets a key begin. -/
def skipToToken : Nat → TokenReader → TokenReader
  | 0, r => r
  | fuel + 1, r =>
    let c := r.cursor
    let c := if c.column == 0 && c.peek == some '\ufeff' then c.skip 1 else c
    let c := c.skipWhile fun x => x == ' ' || (x == '\t' && (r.inFlow || !r.keyAllowed))
    let c := if c.peek == some '#' then c.skipWhile (fun x => !isBreak x) else c
    match c.lineBreak? with
    | some (_, next) =>
      skipToToken fuel { r with cursor := next, keyAllowed := r.keyAllowed || !r.inFlow }
    | none => { r with cursor := c }

/-! ## Tokens one by one -/

/-- A directive, which stands outside of all blocks. -/
def readDirectiveToken (r : TokenReader) : Except Refusal TokenReader := do
  let r ← (r.closeBlocks (-1)).dropKey
  let (d, c) ← readDirective (r.cursor.skip 1)
  return ({ r with cursor := c }.push (.directive d)).allowKey false

/-- The mark that begins or ends a document. -/
def readDocumentMark (t : Token) (r : TokenReader) : Except Refusal TokenReader := do
  let r ← (r.closeBlocks (-1)).dropKey
  return ((r.advance 3).push t).allowKey false

/-- An opening bracket. -/
def openFlow (t : Token) (r : TokenReader) : Except Refusal TokenReader := do
  let r ← r.noteKey
  return (({ r with keys := none :: r.keys }.advance 1).push t).allowKey true

/-- A closing bracket. -/
def closeFlow (t : Token) (r : TokenReader) : Except Refusal TokenReader := do
  let r ← r.dropKey
  let keys := if r.inFlow then r.keys.drop 1 else r.keys
  return (({ r with keys }.advance 1).push t).allowKey false

/-- A comma between brackets. -/
def readFlowEntry (r : TokenReader) : Except Refusal TokenReader := do
  let r ← r.dropKey
  return ((r.advance 1).push .flowEntry).allowKey true

/-- The hyphen of a block sequence. -/
def readBlockEntry (r : TokenReader) : Except Refusal TokenReader := do
  if !r.inFlow && !r.keyAllowed then throw .malformed
  let r ← (r.openBlock r.cursor.column .blockSequenceStart none).dropKey
  return ((r.advance 1).push .blockEntry).allowKey true

/-- The question mark before a key. -/
def readKeyMark (r : TokenReader) : Except Refusal TokenReader := do
  if !r.inFlow && !r.keyAllowed then throw .malformed
  let r ← (r.openBlock r.cursor.column .blockMappingStart none).dropKey
  return ((r.advance 1).push .key).allowKey (!r.inFlow)

/-- The colon before a value.  If a key may have begun before it, that is where the key and its
mapping are put. -/
def readValueMark (r : TokenReader) : Except Refusal TokenReader := do
  match r.keys with
  | some k :: rest =>
    let r := r.insertAfter k.tokensBefore .key
    let r := r.openBlock k.column .blockMappingStart (some k.tokensBefore)
    return (({ r with keys := none :: rest }.advance 1).push .value).allowKey false
  | _ =>
    if !r.inFlow && !r.keyAllowed then throw .malformed
    let r := r.openBlock r.cursor.column .blockMappingStart none
    return ((r.advance 1).push .value).allowKey (!r.inFlow)

/-- An anchor or an alias. -/
def readAnchorToken (make : String → Token) (r : TokenReader) : Except Refusal TokenReader := do
  let r ← r.noteKey
  let (name, c) ← readAnchorName (r.cursor.skip 1)
  return ({ r with cursor := c }.push (make name)).allowKey false

/-- A tag. -/
def readTagToken (r : TokenReader) : Except Refusal TokenReader := do
  let r ← r.noteKey
  let ((handle, suffix), c) ← readTag r.inFlow r.cursor
  return ({ r with cursor := c }.push (.tag handle suffix)).allowKey false

/-- A block scalar. -/
def readBlockToken (fold : Bool) (r : TokenReader) : Except Refusal TokenReader := do
  let r ← r.dropKey
  let (text, c) ← readBlock fold r.indent (r.cursor.skip 1)
  let style := if fold then ScalarStyle.folded else .literal
  return ({ r with cursor := c }.push (.scalar style (String.ofList text))).allowKey true

/-- A quoted scalar. -/
def readQuotedToken (single : Bool) (r : TokenReader) : Except Refusal TokenReader := do
  let r ← r.noteKey
  let (text, c) ← readQuoted single (r.cursor.rest.length + 1) [] (r.cursor.skip 1)
  return ({ r with cursor := c }.push (.scalar .quoted (String.ofList text))).allowKey false

/-- A plain scalar; one that is followed by a line break lets a key begin. -/
def readPlainToken (r : TokenReader) : Except Refusal TokenReader := do
  let r ← r.noteKey
  let (text, c, broken) ←
    readPlain r.inFlow r.indent (r.cursor.rest.length + 1) [] {} r.cursor
  return ({ r with cursor := c }.push (.scalar .plain (String.ofList text))).allowKey broken

/-- A plain scalar may begin with this character before `rest`. -/
def startsPlain (inFlow : Bool) (c : Char) (rest : List Char) : Bool :=
  let blank := rest.head?.any isWhite
  if c == '-' then !blank
  else if c == '?' || c == ':' then !inFlow && !atGap rest
  else !isGap c && !",[]\x7b\x7d#&*!|>'\"%@`".toList.contains c

/-- Reads one token, and whatever it opens or closes; `none` at the end of the text. -/
def step (r : TokenReader) : Except Refusal (Option TokenReader) := do
  let r ← (skipToToken (r.cursor.rest.length + 1) r).expireKeys
  let r := r.closeBlocks r.cursor.column
  match r.cursor.rest with
  | [] => return none
  | c :: rest =>
    if r.cursor.column == 0 && c == '%' then some <$> r.readDirectiveToken
    else if r.cursor.atDocumentMark then
      some <$> r.readDocumentMark (if c = '-' then .documentStart else .documentEnd)
    else if c = '[' then some <$> r.openFlow .flowSequenceStart
    else if c = '\x7b' then some <$> r.openFlow .flowMappingStart
    else if c = ']' then some <$> r.closeFlow .flowSequenceEnd
    else if c = '\x7d' then some <$> r.closeFlow .flowMappingEnd
    else if c = ',' then some <$> r.readFlowEntry
    else if c = '-' ∧ atGap rest then some <$> r.readBlockEntry
    else if c = '?' ∧ (r.inFlow ∨ atGap rest) then some <$> r.readKeyMark
    else if c = ':' ∧ (r.inFlow ∨ atGap rest) then some <$> r.readValueMark
    else if c = '*' then some <$> r.readAnchorToken .alias
    else if c = '&' then some <$> r.readAnchorToken .anchor
    else if c = '!' then some <$> r.readTagToken
    else if c = '|' ∧ !r.inFlow then some <$> r.readBlockToken false
    else if c = '>' ∧ !r.inFlow then some <$> r.readBlockToken true
    else if c = '\'' then some <$> r.readQuotedToken true
    else if c = '"' then some <$> r.readQuotedToken false
    else if startsPlain r.inFlow c rest then some <$> r.readPlainToken
    else throw .malformed

/-- Reads token after token to the end of the text, where all blocks are closed. -/
def run : Nat → TokenReader → Except Refusal (List Token)
  | 0, _ => .error .malformed
  | fuel + 1, r => do
    match ← r.step with
    | some next => run fuel next
    | none =>
      let r ← (skipToToken (r.cursor.rest.length + 1) r).expireKeys
      let r ← (r.closeBlocks (-1)).dropKey
      return r.tokens.reverse

end TokenReader

/-- The tokens of a text.  Every step but the last takes at least one character. -/
def Token.ofText (text : String) : Except Refusal (List Token) :=
  let cs := text.toList
  if cs.all isAllowed then TokenReader.run (cs.length + 2) { cursor := .start cs }
  else .error .malformed

end BackupControl.Yaml
