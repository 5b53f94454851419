/-
# Documents of YAML texts

Reads a YAML text as a document.  Aliases are replaced by what they refer to, within bounds on
nesting and on the number of replacements; scalars must fit their tags; and no mapping may
have two equal keys, where equality is that of values and not of texts.
-/
import BackupControl.Document.Typing
import BackupControl.Yaml.Node

namespace BackupControl

open Yaml (Node Properties Refusal)

/-! ## Anchors -/

/-- The anchors met so far: the number of each name, and for each number the node that carries
it together with the place of that node. -/
structure Anchors where
  numbers : List (String × Nat) := []
  nodes : List (Nat × Nat × Node Nat) := []
  places : Nat := 0

namespace Anchors

/-- Gives an anchor the number of names known so far. -/
def number (name : String) (a : Anchors) : Nat × Anchors :=
  let n := a.numbers.length
  (n, { a with numbers := (name, n) :: a.numbers.filter (·.1 != name) })

/-- The node of a number: of several, the one that begins last. -/
def node? (nodes : List (Nat × Nat × Node Nat)) (n : Nat) : Option (Node Nat) :=
  let ofNumber := nodes.filter (·.1 == n)
  let last := ofNumber.foldl (fun acc e => max acc e.2.1) 0
  (ofNumber.find? (·.2.1 == last)).map (·.2.2)

/-- Reads a node that may carry an anchor: the number is given before its content is read, the
node is noted after. -/
def noting (p : Properties) (a : Anchors)
    (content : Anchors → Except Refusal (Node Nat × Anchors)) :
    Except Refusal (Node Nat × Anchors) := do
  let place := a.places
  let a := { a with places := place + 1 }
  match p.anchor with
  | none => content a
  | some name =>
    let (n, a) := a.number name
    let (t, a) ← content a
    return (t, { a with nodes := (n, place, t) :: a.nodes })

mutual

/-- Replaces the names of aliases by numbers. -/
def link (a : Anchors) : Node String → Except Refusal (Node Nat × Anchors)
  | .alias name =>
    match a.numbers.lookup name with
    | some n => .ok (.alias n, a)
    | none => .error .malformed
  | .scalar p style text => noting p a fun a => .ok (.scalar p style text, a)
  | .sequence p items =>
    noting p a fun a => do
      let (items, a) ← linkItems a items
      return (.sequence p items, a)
  | .mapping p entries =>
    noting p a fun a => do
      let (entries, a) ← linkEntries a entries
      return (.mapping p entries, a)

/-- Replaces the names of aliases in the items of a sequence. -/
def linkItems (a : Anchors) : List (Node String) → Except Refusal (List (Node Nat) × Anchors)
  | [] => .ok ([], a)
  | t :: ts => do
    let (t, a) ← link a t
    let (ts, a) ← linkItems a ts
    return (t :: ts, a)

/-- Replaces the names of aliases in the entries of a mapping. -/
def linkEntries (a : Anchors) :
    List (Node String × Node String) → Except Refusal (List (Node Nat × Node Nat) × Anchors)
  | [] => .ok ([], a)
  | (k, v) :: es => do
    let (k, a) ← link a k
    let (v, a) ← link a v
    let (es, a) ← linkEntries a es
    return ((k, v) :: es, a)

end

end Anchors

/-! ## Aliases -/

/-- The deepest nesting of sequences and mappings, aliases included. -/
def maxNesting : Nat := 128

mutual

/-- How many events a node consists of: a collection has a beginning and an end. -/
def eventCount {ρ : Type} : Node ρ → Nat
  | .alias _ => 1
  | .scalar _ _ _ => 1
  | .sequence _ items => 2 + eventCountItems items
  | .mapping _ entries => 2 + eventCountEntries entries

/-- How many events the items of a sequence consist of. -/
def eventCountItems {ρ : Type} : List (Node ρ) → Nat
  | [] => 0
  | t :: ts => eventCount t + eventCountItems ts

/-- How many events the entries of a mapping consist of. -/
def eventCountEntries {ρ : Type} : List (Node ρ × Node ρ) → Nat
  | [] => 0
  | (k, v) :: es => eventCount k + eventCount v + eventCountEntries es

end

/-- An expansion in progress: the state is how many aliases may still be replaced. -/
abbrev Expansion := StateT Nat (Except Refusal)

namespace Expansion

/-- The content of a node that is no alias, given how to expand the nodes inside it; `none`
where nesting has reached its bound. -/
def content (inner : Option (Node Nat → Expansion Document)) : Node Nat → Expansion Document
  | .alias _ => throw .malformed
  | .scalar p style text => return .written p.tag style text
  | .sequence p items =>
    match inner with
    | none => throw .malformed
    | some expand => return .sequence p.tag (← items.mapM expand)
  | .mapping p entries =>
    match inner with
    | none => throw .malformed
    | some expand =>
      return .mapping p.tag (← entries.mapM fun (k, v) => return (← expand k, ← expand v))

/-- A node, or what it is an alias of. -/
def follow (nodes : List (Nat × Nat × Node Nat)) (inner : Option (Node Nat → Expansion Document)) :
    Node Nat → Expansion Document
  | .alias n => do
    let left ← get
    if left = 0 then throw .malformed
    set (left - 1)
    match Anchors.node? nodes n with
    | some target => return .alias (← content inner target)
    | none => throw .malformed
  | t => content inner t

/-- The document of a node that may hold `depth` levels of collections. -/
def expand (nodes : List (Nat × Nat × Node Nat)) : Nat → Node Nat → Expansion Document
  | 0 => follow nodes none
  | depth + 1 => follow nodes (some (expand nodes depth))

end Expansion

/-! ## Equal keys -/

mutual

/-- The two documents have one value. -/
def sameValue : Document → Document → Bool
  | .alias d, e => sameValue d e
  | .written tag style s, e =>
    match e.resolved with
    | .written tag' style' s' =>
      sameTag tag tag' && sameScalar (scalarType? tag style s) (scalarType? tag' style' s')
    | _ => false
  | .fixed v, e =>
    match e.resolved with
    | .fixed w => sameScalar (some v) (some w)
    | _ => false
  | .sequence tag items, e =>
    match e.resolved with
    | .sequence tag' items' => sameTag tag tag' && sameItems items items'
    | _ => false
  | .mapping tag entries, e =>
    match e.resolved with
    | .mapping tag' entries' =>
      sameTag tag tag' && entries.length == entries'.length && sameEntries entries entries'
    | _ => false
where
  /-- The tags agree as far as they are the writer's own. -/
  sameTag (t u : Option String) : Bool := t.filter isLocalTag == u.filter isLocalTag
  /-- The scalars have one type and one value; all NaNs are one value. -/
  sameScalar : Option Scalar → Option Scalar → Bool
    | some (.real x), some (.real y) => x.sameKey y
    | v, w => v == w

/-- The items have the same values in the same order. -/
def sameItems : List Document → List Document → Bool
  | [], [] => true
  | d :: ds, e :: es => sameValue d e && sameItems ds es
  | _, _ => false

/-- Every entry has one of the same value among others. -/
def sameEntries : List (Document × Document) → List (Document × Document) → Bool
  | [], _ => true
  | (k, v) :: es, others =>
    (others.any fun (k', v') => sameValue k k' && sameValue v v') && sameEntries es others

end

/-- No two of the keys have one value. -/
def distinctKeys : List Document → Bool
  | [] => true
  | k :: ks => !(ks.any (sameValue k)) && distinctKeys ks

mutual

/-- Every scalar fits its tag and no mapping has two equal keys. -/
def isSound : Document → Bool
  | .written tag style s => (scalarType? tag style s).isSome
  | .fixed _ => true
  | .sequence _ items => areSound items
  | .mapping _ entries => distinctKeys (entries.map (·.1)) && areSoundEntries entries
  | .alias d => isSound d

/-- Every document of a list is sound. -/
def areSound : List Document → Bool
  | [] => true
  | d :: ds => isSound d && areSound ds

/-- Every key and value of a list of entries is sound. -/
def areSoundEntries : List (Document × Document) → Bool
  | [] => true
  | (k, v) :: es => isSound k && isSound v && areSoundEntries es

end

/-! ## Reading -/

/-- The document that a YAML text holds; a text without any document holds an empty mapping.
A replacement of aliases is given up after a hundred times as many as the text has events. -/
def Document.ofYaml (text : String) : Except Refusal Document := do
  match ← Node.ofTokens (← Yaml.Token.ofText text) with
  | none => return .mapping none []
  | some root =>
    let (linked, anchors) ← Anchors.link {} root
    let document ← (Expansion.expand anchors.nodes maxNesting linked).run' (eventCount root * 100)
    if isSound document then return document else throw .malformed

end BackupControl
