/-
# Anchors, tags and directives

The marks that stand in front of a node or a document: the name of an anchor or alias, the
handle and suffix of a tag, and the directives for the version and for tag handles.
-/
import BackupControl.Yaml.Scalar

namespace BackupControl.Yaml

/-! ## Anchors -/

/-- Reads the name after an anchor or alias mark.  It must be followed by a gap or by one of a
few marks. -/
def readAnchorName (c : Cursor) : Except Refusal (String × Cursor) :=
  let (name, next) := c.span isWordChar
  let closed := atGap next.rest || next.peek.any "?:,]\x7d%@`".toList.contains
  if name.isEmpty || !closed then .error .malformed
  else .ok (String.ofList name, next)

/-! ## Tags -/

/-- A character of a tag's address.  Commas and brackets are allowed between angle brackets
only. -/
def isTagChar (verbatim : Bool) (c : Char) : Bool :=
  isWordChar c || ";/?:@&=+$.%!~*'()".toList.contains c ||
    (verbatim && (c == ',' || c == '[' || c == ']'))

/-- The number of further octets after the first octet of a character, by the leading bits. -/
def furtherOctets? (octet : Nat) : Option Nat :=
  if octet < 0x80 then some 0
  else if octet / 0x20 = 6 then some 1
  else if octet / 0x10 = 14 then some 2
  else if octet / 0x08 = 30 then some 3
  else none

/-- The octets of percent escapes, exactly `n` of them. -/
def readEscapedOctets : Nat → List Char → Option (List UInt8 × List Char)
  | 0, cs => some ([], cs)
  | n + 1, '%' :: cs => do
    let octet ← hexNumber? 2 cs
    let (more, rest) ← readEscapedOctets n (cs.drop 2)
    return (UInt8.ofNat octet :: more, rest)
  | _ + 1, _ => none

/-- The text of a tag's address in which the percent escapes of one character stand together. -/
def readTagText (verbatim : Bool) : Nat → List Char → Except Refusal (List Char × List Char)
  | 0, cs => .ok ([], cs)
  | _ + 1, [] => .ok ([], [])
  | fuel + 1, c :: rest =>
    if c = '%' then
      match (hexNumber? 2 rest).bind furtherOctets? with
      | none => .error .malformed
      | some n =>
        match readEscapedOctets (n + 1) (c :: rest) with
        | none => .error .malformed
        | some (octets, rest') =>
          match String.fromUTF8? ⟨octets.toArray⟩ with
          | none => .error .malformed
          | some s => do
            let (more, left) ← readTagText verbatim fuel rest'
            return (s.toList ++ more, left)
    else if isTagChar verbatim c then do
      let (more, left) ← readTagText verbatim fuel rest
      return (c :: more, left)
    else .ok ([], c :: rest)

/-- Reads a tag's address at the cursor. -/
def readTagAddress (verbatim : Bool) (c : Cursor) : Except Refusal (List Char × Cursor) := do
  let (text, left) ← readTagText verbatim (c.rest.length + 1) c.rest
  return (text, c.skip (c.rest.length - left.length))

/-- Reads a tag handle: an exclamation mark, word characters, and a second mark if there is
one. -/
def readTagHandle (c : Cursor) : List Char × Cursor :=
  let (word, next) := (c.skip 1).span isWordChar
  if next.peek == some '!' then ('!' :: word ++ ['!'], next.skip 1) else ('!' :: word, next)

/-- Reads a tag as a handle and a suffix.  A tag between angle brackets has no handle; neither
has the lone exclamation mark, which is its own suffix. -/
def readTag (inFlow : Bool) (c : Cursor) : Except Refusal ((String × String) × Cursor) := do
  let (tag, next) ←
    if (c.skip 1).peek == some '<' then do
      let (suffix, next) ← readTagAddress true (c.skip 2)
      if suffix.isEmpty || next.peek != some '>' then throw .malformed
      pure (("", String.ofList suffix), next.skip 1)
    else do
      let (handle, next) := readTagHandle c
      let (suffix, next') ← readTagAddress false next
      if 2 ≤ handle.length && handle.getLast? == some '!' then
        if suffix.isEmpty then throw .malformed
        pure ((String.ofList handle, String.ofList suffix), next')
      else
        let suffix := handle.drop 1 ++ suffix
        if suffix.isEmpty then pure (("", "!"), next')
        else pure (("!", String.ofList suffix), next')
  if atGap next.rest || (inFlow && next.peek == some ',') then return (tag, next)
  else throw .malformed

/-! ## Directives -/

/-- A directive: the version of the language, or what a tag handle stands for. -/
inductive Directive where
  | version (major minor : Nat)
  | tagHandle (handle front : String)
  deriving DecidableEq, Repr

/-- Reads a number of one to nine digits. -/
def readVersionNumber (c : Cursor) : Except Refusal (Nat × Cursor) :=
  let (ds, next) := c.span Char.isDigit
  if ds.isEmpty || 9 < ds.length then .error .malformed
  else .ok (ds.foldl (fun acc d => 10 * acc + (d.toNat - '0'.toNat)) 0, next)

/-- Reads a directive after its percent sign, and the rest of its line. -/
def readDirective (c : Cursor) : Except Refusal (Directive × Cursor) := do
  let (name, c) := c.span isWordChar
  if name.isEmpty || !atGap c.rest then throw .malformed
  let c := c.skipWhile isWhite
  if name = "YAML".toList then do
    let (major, c) ← readVersionNumber c
    if c.peek != some '.' then throw .malformed
    let (minor, c) ← readVersionNumber (c.skip 1)
    return (.version major minor, ← finishLine c)
  else if name = "TAG".toList then do
    if c.peek != some '!' then throw .malformed
    let (handle, c) := readTagHandle c
    if 1 < handle.length && handle.getLast? != some '!' then throw .malformed
    if !c.peek.any isWhite then throw .malformed
    let (front, c) ← readTagAddress true (c.skipWhile isWhite)
    if front.isEmpty || !atGap c.rest then throw .malformed
    return (.tagHandle (String.ofList handle) (String.ofList front), ← finishLine c)
  else throw .malformed

end BackupControl.Yaml
