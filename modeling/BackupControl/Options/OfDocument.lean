/-
# Options of a document

Reads a layer from a document.  The document is a mapping of sections, each of which is a
mapping of options; every key must be one that is known at its place, and may be written only
once.  A value that is null leaves its option, or its section, unset.

A scalar without quotes is read by the kind of its option: a text option takes it as it is
written, a counting option as a number.  Scalars whose type is fixed must have the type that
the kind asks for, except that a whole number is also a binary fraction.
-/
import BackupControl.Document.Mismatch
import BackupControl.Document.Typing
import BackupControl.Options.Layer
import BackupControl.Text.Commas

namespace BackupControl

/-! ## Values -/

/-- A reading that either gives a value or says what is wrong. -/
abbrev Reading (α : Type) : Type := Except Problem α

/-- The reading of a part of a document, with the place of that part. -/
def Reading.placed {α : Type} (place : List Step) (r : Reading α) : Except Mismatch α :=
  r.mapError fun problem => ⟨place, problem⟩

/-- A whole number as a binary fraction, rounded to the nearest. -/
def Binary64.ofInt (n : Int) : Binary64 :=
  Binary64.ofDecimal (n < 0) n.natAbs n.natAbs.repr.length 0

/-- A whole number as a value of a counting kind; one that does not fit is out of range. -/
def Kind.ofCount (k : Kind) (n : Int) : Reading k.Value :=
  match k.ofInt? n with
  | some v => .ok v
  | none => .error (.outOfRange n k.expected)

/-- The scalar is read as an unquoted one where a type is asked for: it is plain, or it is a
literal block under the tag of that type. -/
def isUnquoted (type : String) (tag : Option String) (style : Yaml.ScalarStyle) : Bool :=
  match style with
  | .plain => true
  | .literal => tag == some (coreTag type)
  | _ => false

/-- The whole number that a scalar stands for where one is asked for: sixty-four bits without a
sign for the unsigned kinds, with a sign for the others. -/
def Kind.countOf? (k : Kind) (s : String) : Option Int :=
  match k with
  | .word16 | .word32 | .word64 | .size =>
    (naturalNumber? s.toList).bind fun n => if n < twoTo 64 then some (n : Int) else none
  | .int32 | .int64 =>
    (wholeNumber? s.toList).bind fun n =>
      if -(twoTo 63 : Int) ≤ n ∧ n < twoTo 63 then some n else none
  | .text | .list | .switch | .real => none

/-- A value that a counting option is given. -/
def readCount (k : Kind) (d : Document) : Reading k.Value :=
  let refused : Reading k.Value := .error (.wrongType d.found k.expected)
  match d.resolved with
  | .written tag style s =>
    if isUnquoted "int" tag style then
      match k.countOf? s with
      | some n => k.ofCount n
      | none => refused
    else refused
  | .fixed (.int n) => k.ofCount n
  | _ => refused

/-- A value that a text option is given: any scalar that is written, as it is written. -/
def readText (d : Document) : Reading String :=
  match d.resolved with
  | .written _ _ s => .ok s
  | .fixed (.text s) => .ok s
  | _ => .error (.wrongType d.found (Kind.text.expected))

/-- A value that a switch is given. -/
def readSwitch (d : Document) : Reading Bool :=
  let refused : Reading Bool := .error (.wrongType d.found (Kind.switch.expected))
  match d.resolved with
  | .written tag style s =>
    if isUnquoted "bool" tag style then
      match boolWord? s with
      | some b => .ok b
      | none => refused
    else refused
  | .fixed (.bool b) => .ok b
  | _ => refused

/-- A value that an option with a binary fraction is given. -/
def readReal (d : Document) : Reading Binary64 :=
  let refused : Reading Binary64 := .error (.wrongType d.found (Kind.real.expected))
  match d.resolved with
  | .written tag style s =>
    if isUnquoted "float" tag style then
      match fraction? s with
      | some x => .ok x
      | none => refused
    else refused
  | .fixed (.real x) => .ok x
  | .fixed (.int n) => .ok (Binary64.ofInt n)
  | _ => refused

/-! ## Comma lists -/

/-- The text of one item of a comma list: a text, or a whole number of sixty-four bits with a
sign in decimal. -/
def listItem? (d : Document) : Option String :=
  match d.found with
  | .scalar (.text s) => some s
  | .scalar (.int n) => if -(twoTo 63 : Int) ≤ n ∧ n < twoTo 63 then some n.repr else none
  | _ => none

/-- The stored text of a comma list: that of a single item, or the items of a sequence with
commas between. -/
def listText? (d : Document) : Option String :=
  match d.resolved with
  | .sequence _ items => (items.mapM listItem?).map joinCommas
  | _ => listItem? d

/-- The tag is one that the writer of the document chose. -/
def hasLocalTag (tag : Option String) : Bool := (tag.map isLocalTag).getD false

/-- The step to the value of a key. -/
def stepOfKey : Document → Step
  | .written _ _ s => .key s
  | .fixed (.text s) => .key s
  | _ => .hidden

mutual

/-- The place of the first part of a document with a tag that the writer chose. -/
def localTagIn? : Document → Option (List Step)
  | .written tag _ _ => if hasLocalTag tag then some [] else none
  | .fixed _ => none
  | .sequence tag items => if hasLocalTag tag then some [] else localTagInItems? 0 items
  | .mapping tag entries => if hasLocalTag tag then some [] else localTagInEntries? entries
  | .alias d => localTagIn? d

/-- The place of the first such part among items. -/
def localTagInItems? (index : Nat) : List Document → Option (List Step)
  | [] => none
  | d :: ds =>
    match localTagIn? d with
    | some place => some (.item index :: place)
    | none => localTagInItems? (index + 1) ds

/-- The place of the first such part among entries. -/
def localTagInEntries? : List (Document × Document) → Option (List Step)
  | [] => none
  | (k, v) :: es =>
    match localTagIn? k with
    | some place => some place
    | none =>
      match localTagIn? v with
      | some place => some (stepOfKey k :: place)
      | none => localTagInEntries? es

end

/-! ## Records -/

/-- A key of a mapping and what its value adds to the record that is being read. -/
structure Entry (α : Type) where
  key : String
  read : List Step → Document → Except Mismatch (α → α)

/-- Reads the entries of a mapping from the first to the last. -/
def readEntries {α : Type} (known : List (Entry α)) (place : List Step) :
    List String → List (Document × Document) → α → Except Mismatch α
  | _, [], record => .ok record
  | seen, (k, v) :: rest, record =>
    match readText k with
    | .error _ => .error ⟨place, .wrongType k.found "field identifier"⟩
    | .ok name =>
      match known.find? (·.key == name) with
      | none => .error ⟨place, .unknownKey name (known.map (·.key))⟩
      | some entry =>
        if seen.contains name then .error ⟨place, .repeatedKey name⟩
        else
          match entry.read (place ++ [stepOfKey k]) v with
          | .error e => .error e
          | .ok add => readEntries known place (name :: seen) rest (add record)

/-- Reads a mapping; an empty scalar stands for the empty mapping. -/
def readRecord {α : Type} (title : String) (known : List (Entry α)) (start : α)
    (place : List Step) (d : Document) : Except Mismatch α :=
  match d.resolved with
  | .mapping _ entries => readEntries known place [] entries start
  | .written _ .plain "" => .ok start
  | _ => .error ⟨place, .wrongType d.found ("struct " ++ title)⟩

/-- The entry of a section that may be left out. -/
def Entry.section {α β : Type} (key : String)
    (read : List Step → Document → Except Mismatch β) (put : Option β → α → α) : Entry α where
  key := key
  read place d := if d.isUnset then .ok (put none) else (read place d).map fun b => put (some b)

/-! ## Groups -/

/-- A value of a kind.  A problem with a comma list is one of the section that holds it, except
for a tag, which has its own place. -/
def readValue (k : Kind) (place : List Step) (d : Document) : Except Mismatch k.Value :=
  match k with
  | .text => Reading.placed place (readText d)
  | .switch => Reading.placed place (readSwitch d)
  | .real => Reading.placed place (readReal d)
  | .list =>
    match localTagIn? d with
    | some inner => .error ⟨place ++ inner, .taggedList⟩
    | none =>
      match listText? d with
      | some s => .ok s
      | none => .error ⟨place.dropLast, .notAList⟩
  | .word16 => Reading.placed place (readCount .word16 d)
  | .word32 => Reading.placed place (readCount .word32 d)
  | .word64 => Reading.placed place (readCount .word64 d)
  | .size => Reading.placed place (readCount .size d)
  | .int32 => Reading.placed place (readCount .int32 d)
  | .int64 => Reading.placed place (readCount .int64 d)

/-- The entry of an option. -/
def Setting.entry {G : (Type → Type) → Type} (s : Setting G) : Entry (G Given) :=
  Entry.section s.key (readValue s.kind) fun v g => s.put v g

/-- The group that a section sets. -/
def readGroup (G : (Type → Type) → Type) [OptionGroup G] (title : String) :
    List Step → Document → Except Mismatch (G Given) :=
  readRecord title ((OptionGroup.settings (G := G)).map Setting.entry) OptionGroup.unset

/-- The section of a cloud vendor, with the section of its store under one key. -/
def readVendor (G : (Type → Type) → Type) [OptionGroup G] (title key storeTitle : String) :
    List Step → Document → Except Mismatch (Vendor G) :=
  readRecord title [Entry.section key (readGroup G storeTitle) fun v _ => ⟨v⟩] ⟨none⟩

/-! ## Layers -/

namespace Layer

/-- The sections of a layer, in the order in which a refusal lists them. -/
def sections : List (Entry Layer) := [
  .section "app" (readGroup App "PartialApp") fun v l => { l with app := v },
  .section "cluster" (readGroup Cluster "PartialCluster") fun v l => { l with cluster := v },
  .section "backup" (readGroup Scan "PartialBackup") fun v l => { l with scan := v },
  .section "xdr" (readGroup ChangeFeed "PartialXdr") fun v l => { l with changeFeed := v },
  .section "restore" (readGroup Restore "PartialRestore") fun v l => { l with restore := v },
  .section "compression" (readGroup Compression "PartialCompression")
    fun v l => { l with compression := v },
  .section "encryption" (readGroup Encryption "PartialEncryption")
    fun v l => { l with encryption := v },
  .section "secret-agent" (readGroup SecretAgent "PartialSecretAgent")
    fun v l => { l with secretAgent := v },
  .section "aws" (readVendor AwsS3 "AwsSection" "s3" "PartialAwsS3") fun v l => { l with aws := v },
  .section "gcp" (readVendor GcpStorage "GcpSection" "storage" "PartialGcpStorage")
    fun v l => { l with gcp := v },
  .section "azure" (readVendor AzureBlob "AzureSection" "blob" "PartialAzureBlob")
    fun v l => { l with azure := v },
  .section "local" (readGroup LocalFiles "PartialLocal") fun v l => { l with localFiles := v }]

/-- The layer that a document sets. -/
def ofDocument (d : Document) : Except Mismatch Layer :=
  readRecord "PartialConfig" sections empty [] d

end Layer

end BackupControl
