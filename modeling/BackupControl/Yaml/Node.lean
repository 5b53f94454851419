/-
# YAML nodes

The tokens of one document as a tree of nodes with their anchors and tags.  An alias stands as
a leaf that names its anchor; what it refers to is settled later.  A position where a node may
be left out holds the empty plain scalar.
-/
import BackupControl.Yaml.Token

namespace BackupControl.Yaml

/-- The properties of a node: its anchor, and its tag with the handle resolved. -/
structure Properties where
  anchor : Option String := none
  tag : Option String := none
  deriving DecidableEq, Repr

/-- A node of a document, whose aliases refer by `ρ`. -/
inductive Node (ρ : Type) where
  | alias (target : ρ)
  | scalar (p : Properties) (style : ScalarStyle) (text : String)
  | sequence (p : Properties) (items : List (Node ρ))
  | mapping (p : Properties) (entries : List (Node ρ × Node ρ))
  deriving Repr

namespace Node

/-- The node that is not written out. -/
def absent {ρ : Type} (p : Properties) : Node ρ := .scalar p .plain ""

/-! ## Properties -/

/-- What tag handles stand for: the declared ones, and the two that need no declaration. -/
def handleFront? (declared : List (String × String)) (handle : String) : Option String :=
  (declared ++ [("!", "!"), ("!!", "tag:yaml.org,2002:")]).lookup handle

/-- A tag with its handle resolved; one without a handle is taken as it is. -/
def resolveTag (declared : List (String × String)) (handle suffix : String) :
    Except Refusal String :=
  if handle.isEmpty then .ok suffix
  else match handleFront? declared handle with
    | some front => .ok (front ++ suffix)
    | none => .error .malformed

/-- The anchor and the tag in front of a node, at most one of each in either order. -/
def readProperties (declared : List (String × String)) :
    List Token → Except Refusal (Properties × List Token)
  | .anchor a :: .tag h s :: rest => do
    return ({ anchor := some a, tag := some (← resolveTag declared h s) }, rest)
  | .tag h s :: .anchor a :: rest => do
    return ({ anchor := some a, tag := some (← resolveTag declared h s) }, rest)
  | .anchor a :: rest => .ok ({ anchor := some a }, rest)
  | .tag h s :: rest => do return ({ tag := some (← resolveTag declared h s) }, rest)
  | rest => .ok ({}, rest)

/-- The properties of a scalar, for which the tag of a lone exclamation mark says nothing. -/
def scalarProperties (p : Properties) : Properties :=
  if p.tag = some "!" then { p with tag := none } else p

/-! ## Nodes -/

/-- The token ends the place of a node that may be left out. -/
def endsPlace (ends : List Token) : List Token → Bool
  | [] => true
  | t :: _ => ends.contains t

mutual

/-- Reads a node.  Blocks may begin only where `block` holds, and a sequence whose hyphens are
not indented only where `hanging` holds. -/
def readNode (declared : List (String × String)) (block hanging : Bool) :
    Nat → List Token → Except Refusal (Node String × List Token)
  | 0, _ => .error .malformed
  | fuel + 1, tokens => do
    if let .alias name :: rest := tokens then return (.alias name, rest)
    let (p, rest) ← readProperties declared tokens
    match rest with
    | .blockEntry :: _ =>
      if hanging then
        let (items, rest) ← readHangingItems declared fuel rest
        return (.sequence p items, rest)
      else if p = {} then throw .malformed
      else return (.absent p, rest)
    | .scalar style text :: rest => return (.scalar (scalarProperties p) style text, rest)
    | .flowSequenceStart :: rest =>
      let (items, rest) ← readFlowItems declared true fuel rest
      return (.sequence p items, rest)
    | .flowMappingStart :: rest =>
      let (entries, rest) ← readFlowEntries declared true fuel rest
      return (.mapping p entries, rest)
    | .blockSequenceStart :: rest =>
      if block then
        let (items, rest) ← readBlockItems declared fuel rest
        return (.sequence p items, rest)
      else if p = {} then throw .malformed
      else return (.absent p, .blockSequenceStart :: rest)
    | .blockMappingStart :: rest =>
      if block then
        let (entries, rest) ← readBlockEntries declared fuel rest
        return (.mapping p entries, rest)
      else if p = {} then throw .malformed
      else return (.absent p, .blockMappingStart :: rest)
    | rest => if p = {} then throw .malformed else return (.absent p, rest)

/-- Reads a node unless one of the tokens `ends` stands in its place. -/
def readOptional (declared : List (String × String)) (block hanging : Bool)
    (ends : List Token) : Nat → List Token → Except Refusal (Node String × List Token)
  | 0, _ => .error .malformed
  | fuel + 1, tokens =>
    if endsPlace ends tokens then .ok (.absent {}, tokens)
    else readNode declared block hanging fuel tokens

/-- Reads the items of a block sequence and its end. -/
def readBlockItems (declared : List (String × String)) :
    Nat → List Token → Except Refusal (List (Node String) × List Token)
  | 0, _ => .error .malformed
  | fuel + 1, tokens =>
    match tokens with
    | .blockEntry :: rest => do
      let (item, rest) ← readOptional declared true false [.blockEntry, .blockEnd] fuel rest
      let (items, rest) ← readBlockItems declared fuel rest
      return (item :: items, rest)
    | .blockEnd :: rest => .ok ([], rest)
    | _ => .error .malformed

/-- Reads the items of a sequence whose hyphens are not indented; its end has no token. -/
def readHangingItems (declared : List (String × String)) :
    Nat → List Token → Except Refusal (List (Node String) × List Token)
  | 0, _ => .error .malformed
  | fuel + 1, tokens =>
    match tokens with
    | .blockEntry :: rest => do
      let (item, rest) ←
        readOptional declared true false [.blockEntry, .key, .value, .blockEnd] fuel rest
      let (items, rest) ← readHangingItems declared fuel rest
      return (item :: items, rest)
    | rest => .ok ([], rest)

/-- Reads the entries of a block mapping and its end. -/
def readBlockEntries (declared : List (String × String)) :
    Nat → List Token → Except Refusal (List (Node String × Node String) × List Token)
  | 0, _ => .error .malformed
  | fuel + 1, tokens =>
    match tokens with
    | .key :: rest => do
      let (k, rest) ← readOptional declared true true [.key, .value, .blockEnd] fuel rest
      let (v, rest) ← readBlockValue declared fuel rest
      let (entries, rest) ← readBlockEntries declared fuel rest
      return ((k, v) :: entries, rest)
    | .blockEnd :: rest => .ok ([], rest)
    | _ => .error .malformed

/-- Reads the value of a block mapping's entry, which may be left out with its colon. -/
def readBlockValue (declared : List (String × String)) :
    Nat → List Token → Except Refusal (Node String × List Token)
  | 0, _ => .error .malformed
  | fuel + 1, tokens =>
    match tokens with
    | .value :: rest => readOptional declared true true [.key, .value, .blockEnd] fuel rest
    | rest => .ok (.absent {}, rest)

/-- Reads the items of a bracketed sequence and its end.  A key among them makes a mapping of
one entry.  A comma may stand after the last item. -/
def readFlowItems (declared : List (String × String)) (first : Bool) :
    Nat → List Token → Except Refusal (List (Node String) × List Token)
  | 0, _ => .error .malformed
  | fuel + 1, tokens => do
    if let .flowSequenceEnd :: rest := tokens then return ([], rest)
    let rest ← match first, tokens with
      | true, rest => pure rest
      | false, .flowEntry :: rest => pure rest
      | false, _ => throw .malformed
    match rest with
    | .flowSequenceEnd :: rest => return ([], rest)
    | .key :: rest =>
      let (item, rest) ← readFlowPair declared fuel rest
      let (items, rest) ← readFlowItems declared false fuel rest
      return (item :: items, rest)
    | rest =>
      let (item, rest) ← readNode declared false false fuel rest
      let (items, rest) ← readFlowItems declared false fuel rest
      return (item :: items, rest)

/-- Reads the single entry of a mapping inside a bracketed sequence, after its key token.
Where the key is left out, the token in its place is taken as part of it. -/
def readFlowPair (declared : List (String × String)) :
    Nat → List Token → Except Refusal (Node String × List Token)
  | 0, _ => .error .malformed
  | fuel + 1, tokens => do
    let (k, rest) ←
      if endsPlace [.value, .flowEntry, .flowSequenceEnd] tokens then
        pure (.absent {}, tokens.drop 1)
      else readNode declared false false fuel tokens
    let (v, rest) ← match rest with
      | .value :: rest =>
        readOptional declared false false [.flowEntry, .flowSequenceEnd] fuel rest
      | rest => pure (.absent {}, rest)
    return (.mapping {} [(k, v)], rest)

/-- Reads the entries of a bracketed mapping and its end.  An entry without a key token is a
key alone. -/
def readFlowEntries (declared : List (String × String)) (first : Bool) :
    Nat → List Token → Except Refusal (List (Node String × Node String) × List Token)
  | 0, _ => .error .malformed
  | fuel + 1, tokens => do
    if let .flowMappingEnd :: rest := tokens then return ([], rest)
    let rest ← match first, tokens with
      | true, rest => pure rest
      | false, .flowEntry :: rest => pure rest
      | false, _ => throw .malformed
    match rest with
    | .flowMappingEnd :: rest => return ([], rest)
    | .key :: rest =>
      let (k, rest) ←
        readOptional declared false false [.value, .flowEntry, .flowMappingEnd] fuel rest
      let (v, rest) ← match rest with
        | .value :: rest =>
          readOptional declared false false [.flowEntry, .flowMappingEnd] fuel rest
        | rest => pure (.absent {}, rest)
      let (entries, rest) ← readFlowEntries declared false fuel rest
      return ((k, v) :: entries, rest)
    | rest =>
      let (k, rest) ← readNode declared false false fuel rest
      let (entries, rest) ← readFlowEntries declared false fuel rest
      return ((k, .absent {}) :: entries, rest)

end

/-! ## Documents -/

/-- The directives of a document: at most one version, which is 1.1 or 1.2, and at most one
declaration for each tag handle. -/
def readDirectives : Bool → List (String × String) → List Token →
    Except Refusal (List (String × String) × List Token)
  | versioned, declared, .directive (.version major minor) :: rest =>
    if versioned || major != 1 || (minor != 1 && minor != 2) then .error .malformed
    else readDirectives true declared rest
  | versioned, declared, .directive (.tagHandle handle front) :: rest =>
    if (declared.lookup handle).isSome then .error .malformed
    else readDirectives versioned (declared ++ [(handle, front)]) rest
  | _, declared, rest => .ok (declared, rest)

/-- What may follow the content of the only document: marks of its end. -/
def finishDocument (rest : List Token) : Except Refusal Unit :=
  if rest.all (· == .documentEnd) then .ok () else .error .malformed

/-- The root of the only document of a list of tokens; `none` if there is no document. -/
def ofTokens (tokens : List Token) : Except Refusal (Option (Node String)) := do
  let fuel := 3 * tokens.length + 10
  if tokens.isEmpty then return none
  let (declared, rest) ← readDirectives false [] tokens
  let (root, rest) ← match rest with
    | .documentStart :: rest =>
      let bare : Bool := match rest with
        | [] => true
        | .directive _ :: _ => true
        | t :: _ => t == .documentStart || t == .documentEnd
      if bare then pure (.absent {}, rest) else readNode declared true false fuel rest
    | rest =>
      if rest.length < tokens.length then throw .malformed
      readNode declared true false fuel rest
  finishDocument rest
  return some root

end Node

end BackupControl.Yaml
