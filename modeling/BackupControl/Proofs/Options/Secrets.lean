/-
# Options that may hold a secret

The texts of five sections may hold references to secrets: those of the cluster but for the
authentication mode, the key file and the key variable of encryption, and all texts of the cloud
stores.  A function of texts acts on these options alone, and settling a layer commutes with it
as long as it keeps the built-in values.
-/
import BackupControl.Proofs.Options.Change
import BackupControl.Proofs.Options.Section
import BackupControl.Service.Secrets
import Mathlib.Data.List.Basic

namespace BackupControl

/-! ## Texts -/

namespace Kind

/-- A function of texts on the values of a kind; only a value of the kind of texts is changed. -/
def mapText (f : String → String) : (k : Kind) → k.Value → k.Value
  | .text => f
  | .list | .switch | .word16 | .word32 | .word64 | .size | .int32 | .int64 | .real => id

/-- The text that a value is, if it is of the kind of texts. -/
def text? : (k : Kind) → k.Value → Option String
  | .text => some
  | .list | .switch | .word16 | .word32 | .word64 | .size | .int32 | .int64 | .real => fun _ => none

/-- A function that keeps the text of a value keeps the value. -/
theorem mapText_eq_self {f : String → String} {k : Kind} {v : k.Value}
    (h : ∀ text, k.text? v = some text → f text = text) : k.mapText f v = v := by
  cases k with
  | text => exact h v rfl
  | list | switch | word16 | word32 | word64 | size | int32 | int64 | real => rfl

/-- The text of a value that was changed is the text changed. -/
theorem text?_mapText (f : String → String) (k : Kind) (v : k.Value) :
    k.text? (k.mapText f v) = (k.text? v).map f := by
  cases k <;> rfl

end Kind

/-! ## Options -/

namespace Section

/-- The option may hold a reference to a secret. -/
def mayHoldSecret (n : Section) (s : Setting n.Group) : Bool :=
  s.kind == .text &&
    match n with
    | .cluster => s.key != "auth"
    | .encryption => s.key == "key-file" || s.key == "key-env"
    | .awsS3 | .gcpStorage | .azureBlob => true
    | .app | .scan | .changeFeed | .restore | .compression | .secretAgent | .localFiles => false

/-- The options of a section that may hold a secret. -/
def secretOptions (n : Section) : List (Setting n.Group) := n.settings.filter n.mayHoldSecret

/-- The sections with such options, in the order in which references are replaced. -/
def withSecrets : List Section := [.cluster, .encryption, .awsS3, .gcpStorage, .azureBlob]

/-- There are thirty such options. -/
example : (withSecrets.flatMap fun n => n.secretOptions.map (·.key)).length = 30 := by
  decide +kernel

variable {n : Section}

/-- A function of texts on the options of a source that may hold a secret. -/
def mapGiven (f : String → String) (g : n.Group Given) : n.Group Given :=
  OptionGroup.change n.mayHoldSecret (fun k v => Option.map (k.mapText f) v) g

/-- A function of texts on the settled options that may hold a secret. -/
def mapSettled (f : String → String) (g : n.Group Settled) : n.Group Settled :=
  OptionGroup.change n.mayHoldSecret (fun k v => k.mapText f v) g

/-- The settled texts that may be references. -/
def secretTexts (g : n.Group Settled) : List String :=
  n.secretOptions.filterMap fun s => s.kind.text? (s.get g)

/-- The texts that a source sets and that may be references. -/
def givenTexts (g : n.Group Given) : List String :=
  n.secretOptions.filterMap fun s => (s.get g).bind s.kind.text?

/-! ## Settling -/

variable {f : String → String} {s : Setting n.Group}

/-- Of the options that a source sets, those that may hold a secret are changed. -/
theorem get_mapGiven (hs : s ∈ n.settings) (g : n.Group Given) :
    s.get (mapGiven f g) =
      if n.mayHoldSecret s then (s.get g).map (s.kind.mapText f) else s.get g :=
  OptionGroup.get_change hs g

/-- Of the settled options, those that may hold a secret are changed. -/
theorem get_mapSettled (hs : s ∈ n.settings) (g : n.Group Settled) :
    s.get (mapSettled f g) = if n.mayHoldSecret s then s.kind.mapText f (s.get g) else s.get g :=
  OptionGroup.get_change hs g

/-- The text of an option that may hold a secret is among those of the section. -/
theorem mem_secretTexts (hs : s ∈ n.settings) (hsecret : n.mayHoldSecret s = true)
    {g : n.Group Settled} {text : String} (htext : s.kind.text? (s.get g) = some text) :
    text ∈ secretTexts g :=
  List.mem_filterMap.2 ⟨s, List.mem_filter.2 ⟨hs, hsecret⟩, htext⟩

/-- Settling a section commutes with a function that keeps the texts of the values below. -/
theorem settleSection_mapGiven {values : n.Group Settled}
    (hkeep : ∀ text ∈ secretTexts values, f text = text) (given : Option (n.Group Given)) :
    settleSection (given.map (mapGiven f)) values = mapSettled f (settleSection given values) := by
  apply LawfulOptionGroup.ext
  intro s hs
  have hgiven : (given.map (mapGiven f)).bind s.get =
      if n.mayHoldSecret s then (given.bind s.get).map (s.kind.mapText f)
      else given.bind s.get := by
    cases given with
    | none => split <;> rfl
    | some g => exact get_mapGiven hs g
  rw [get_settleSection hs, get_mapSettled hs, get_settleSection hs, hgiven]
  split
  · rename_i hsecret
    have hvalue : s.kind.mapText f (s.get values) = s.get values :=
      Kind.mapText_eq_self fun text htext => hkeep text (mem_secretTexts hs hsecret htext)
    cases given.bind s.get with
    | none => exact hvalue.symm
    | some v => rfl
  · rfl

/-- A function of the texts of a section changes its list of texts. -/
theorem secretTexts_mapSettled (g : n.Group Settled) :
    secretTexts (mapSettled f g) = (secretTexts g).map f := by
  rw [secretTexts, secretTexts, List.map_filterMap]
  refine List.filterMap_congr fun s hs => ?_
  obtain ⟨hs, hsecret⟩ := List.mem_filter.1 hs
  rw [get_mapSettled hs, if_pos hsecret, Kind.text?_mapText]

/-- Over values without references, the references of a section are those that its source
sets. -/
theorem filter_secretTexts_settleSection {values : n.Group Settled}
    (hplain : ∀ text ∈ secretTexts values, isSecretReference text = false)
    (given : Option (n.Group Given)) :
    (secretTexts (settleSection given values)).filter isSecretReference =
      (given.toList.flatMap givenTexts).filter isSecretReference := by
  cases given with
  | none =>
    rw [settleSection_none]
    exact List.filter_eq_nil_iff.2 fun text htext => Bool.eq_false_iff.1 (hplain text htext)
  | some g =>
    rw [Option.toList_some, List.flatMap_singleton, secretTexts, givenTexts, List.filter_filterMap,
      List.filter_filterMap]
    refine List.filterMap_congr fun s hs => ?_
    obtain ⟨hs, hsecret⟩ := List.mem_filter.1 hs
    rw [get_settleSection hs, Option.bind_some]
    cases hvalue : s.get g with
    | some v => rfl
    | none =>
      -- what the source leaves open is no reference
      rw [Option.getD_none, Option.bind_none, Option.filter_none, Option.filter_eq_none_iff]
      intro text htext
      exact Bool.eq_false_iff.1 (hplain text (mem_secretTexts hs hsecret htext))

/-- A function that keeps the texts that may be references keeps the section. -/
theorem mapSettled_eq_self {g : n.Group Settled} (h : ∀ text ∈ secretTexts g, f text = text) :
    mapSettled f g = g :=
  OptionGroup.change_eq_self fun _ hs hsecret =>
    Kind.mapText_eq_self fun text htext => h text (mem_secretTexts hs hsecret htext)

/-- The settled options of a section where none may hold a secret are not changed. -/
theorem mapSettled_of_none (h : ∀ s, n.mayHoldSecret s = false) (g : n.Group Settled) :
    mapSettled f g = g :=
  OptionGroup.change_eq_self fun s _ hsecret => absurd hsecret (Bool.eq_false_iff.1 (h s))

/-- Nor is a source of such a section. -/
theorem mapGiven_of_none (h : ∀ s, n.mayHoldSecret s = false) (g : n.Group Given) :
    mapGiven f g = g :=
  OptionGroup.change_eq_self fun s _ hsecret => absurd hsecret (Bool.eq_false_iff.1 (h s))

end Section

/-! ## Layers -/

/-- The section of a vendor with its store changed. -/
def Vendor.map {G : (Type → Type) → Type} (f : G Given → G Given) (v : Vendor G) : Vendor G :=
  ⟨v.store.map f⟩

/-- The store of a vendor section that was changed is the store changed. -/
theorem Vendor.store_map {G : (Type → Type) → Type} (vendor : Option (Vendor G))
    (f : G Given → G Given) :
    (vendor.map (Vendor.map f)).bind (·.store) = (vendor.bind (·.store)).map f := by
  cases vendor <;> rfl

namespace Layer

/-- The layer with a function applied to the texts that may be references. -/
def mapSecrets (f : String → String) (l : Layer) : Layer :=
  { l with
    cluster := l.cluster.map (Section.mapGiven (n := .cluster) f)
    encryption := l.encryption.map (Section.mapGiven (n := .encryption) f)
    aws := l.aws.map (Vendor.map (Section.mapGiven (n := .awsS3) f))
    gcp := l.gcp.map (Vendor.map (Section.mapGiven (n := .gcpStorage) f))
    azure := l.azure.map (Vendor.map (Section.mapGiven (n := .azureBlob) f)) }

/-- The references that a layer sets, in the order in which they are replaced. -/
def secretReferences (l : Layer) : List String :=
  (Section.withSecrets.flatMap fun n => (l.get n).toList.flatMap Section.givenTexts).filter
    isSecretReference

/-- Every section of the layer is changed where it may hold secrets. -/
theorem get_mapSecrets (f : String → String) (l : Layer) (n : Section) :
    (l.mapSecrets f).get n = (l.get n).map (Section.mapGiven f) := by
  have hnone : (∀ s, n.mayHoldSecret s = false) →
      l.get n = (l.get n).map (Section.mapGiven f) := by
    intro h
    cases l.get n with
    | none => rfl
    | some g => rw [Option.map_some, Section.mapGiven_of_none h]
  cases n with
  | cluster | encryption => rfl
  | awsS3 => exact Vendor.store_map l.aws _
  | gcpStorage => exact Vendor.store_map l.gcp _
  | azureBlob => exact Vendor.store_map l.azure _
  | app | scan | changeFeed | restore | compression | secretAgent | localFiles =>
    exact hnone fun s => Bool.and_false _

end Layer

end BackupControl
