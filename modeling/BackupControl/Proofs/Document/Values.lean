/-
# Values in a document

What one entry of a document means for the layer that is read from it.  An option has the value
that its entry gives, however deep the entry is, since no entry behind it may have the same key.
Only that value matters, so an entry may be written in any other way that gives it.
-/
import BackupControl.Proofs.Document.Format
import BackupControl.Proofs.Rules.Check

namespace BackupControl

/-! ## Values that are kept -/

namespace Part

variable {α β : Type} {parts : List (Part α)} {start : α} {p : Part α}

/-- The first entry of a mapping that is read is that of a part with a new key, which it writes
before the other entries are read. -/
theorem exists_put_of_readEntries_cons {place : List Step} {seen : List String}
    {e : Document × Document} {rest : List (Document × Document)} {record a : α}
    (hread : readEntries (parts.map entry) place seen (e :: rest) record = .ok a) :
    ∃ q ∈ parts, readText e.1 = .ok q.key ∧ q.key ∉ seen ∧ ∃ inside u,
      q.entry.read inside e.2 = .ok (q.put u) ∧
        readEntries (parts.map entry) place (q.key :: seen) rest (q.put u record) = .ok a := by
  rw [readEntries_cons] at hread
  cases hstep : readEntry (parts.map entry) place seen e with
  | error m =>
    rw [hstep] at hread
    exact absurd hread nofun
  | ok r =>
    obtain ⟨name, add⟩ := r
    rw [hstep] at hread
    obtain ⟨known, hknown, hname, rfl, hnew, hadd⟩ := exists_known_of_readEntry hstep
    obtain ⟨q, hq, rfl⟩ := List.mem_map.1 hknown
    obtain ⟨u, rfl⟩ := entry_read_eq_put hadd
    exact ⟨q, hq, hname, hnew, _, u, hadd, hread⟩

/-- A part whose key has been seen is kept to the end. -/
theorem Lawful.get_of_seen (h : Lawful parts start) (hp : p ∈ parts) {place : List Step}
    {seen : List String} {entries : List (Document × Document)} {record a : α}
    (hseen : p.key ∈ seen)
    (hread : readEntries (parts.map entry) place seen entries record = .ok a) :
    p.get a = p.get record := by
  induction entries generalizing seen record with
  | nil => rw [Except.ok.inj hread]
  | cons e entries ih =>
    obtain ⟨q, hq, -, hnew, _, u, -, hrest⟩ := exists_put_of_readEntries_cons hread
    have hne : p.key ≠ q.key := fun heq => hnew (heq ▸ hseen)
    rw [ih (List.mem_cons_of_mem _ hseen) hrest, h.get_put_of_ne q hq p hp hne]

/-- An entry of a mapping that is read gives its part, and the record has it. -/
theorem Lawful.get_of_readEntries (h : Lawful parts start) (hp : p ∈ parts) {place : List Step}
    {k v : Document} (hk : readText k = .ok p.key) (hv : v.isUnset = false)
    {entries : List (Document × Document)} (hmem : (k, v) ∈ entries) {seen : List String}
    {record a : α} (hread : readEntries (parts.map entry) place seen entries record = .ok a) :
    ∃ inside b, p.read inside v = .ok b ∧ p.get a = some b := by
  induction entries generalizing seen record with
  | nil => exact absurd hmem List.not_mem_nil
  | cons e entries ih =>
    obtain ⟨q, hq, hname, -, inside, u, hput, hrest⟩ := exists_put_of_readEntries_cons hread
    rcases List.mem_cons.1 hmem with rfl | hmem
    · obtain rfl := h.eq_of_key hp hq (Except.ok.inj (hname.symm.trans hk))
      have hkept := h.get_of_seen hp List.mem_cons_self hrest
      rw [h.get_put q hp] at hkept
      rw [entry_read_of_set hv] at hput
      obtain ⟨b, hb, hsame⟩ := map_eq_ok_iff.1 hput
      refine ⟨inside, b, hb, ?_⟩
      -- what is written is seen in any record
      rw [hkept, ← h.get_put q hp u start, ← hsame, h.get_put q hp]
    · exact ih hmem hrest

/-- A reading comes to a record of these parts along a path of keys, and its result holds that
record in a place of its own. -/
inductive ReachesIn (parts : List (Part α)) : List String → {β : Type} →
    (List Step → Document → Except Mismatch β) → (β → Option α) → Prop
  | here {title : String} {start : α} {get : α → Option α} (lawful : Lawful parts start)
      (hget : ∀ a, get a = some a) :
      ReachesIn parts [] (readRecord title (parts.map entry) start) get
  | into {β : Type} {outer : List (Part β)} {start : β} {title : String} {p : Part β}
      {path : List String} {inner : p.Value → Option α} {get : β → Option α}
      (lawful : Lawful outer start) (hp : p ∈ outer) (hget : ∀ b, get b = (p.get b).bind inner)
      (h : ReachesIn parts path p.read inner) :
      ReachesIn parts (p.key :: path) (readRecord title (outer.map entry) start) get

/-- An entry of a document that is read gives its part, and the result has it, however deep the
mapping is. -/
theorem ReachesIn.get_of_hasEntry {path : List String}
    {read : List Step → Document → Except Mismatch β} {get : β → Option α}
    (h : ReachesIn parts path read get) (hp : p ∈ parts) {k v d : Document}
    (hentry : Document.HasEntry k v path d) (hk : readText k = .ok p.key)
    (hv : v.isUnset = false) {place : List Step} {b : β} (hread : read place d = .ok b) :
    ∃ inside c, p.read inside v = .ok c ∧ (get b).bind p.get = some c := by
  induction h generalizing d place with
  | here lawful hget =>
    cases hentry with
    | here hd hmem =>
      rw [readRecord_of_mapping hd] at hread
      rw [hget, Option.bind_some]
      exact lawful.get_of_readEntries hp hk hv hmem hread
  | into lawful hq hget _ ih =>
    cases hentry with
    | into hd hmem hkey hentry =>
      rw [readRecord_of_mapping hd] at hread
      obtain ⟨inside, c, hc, hsome⟩ :=
        lawful.get_of_readEntries hq hkey hentry.isUnset hmem hread
      rw [hget, hsome, Option.bind_some]
      exact ih hentry hc

end Part

/-! ## Options of a layer -/

section Reaches

variable {α : Type} {parts : List (Part α)} {path : List String}

/-- The options of a group are those that the group holds. -/
theorem reachesIn_readGroup {G : (Type → Type) → Type} [OptionGroup G] [LawfulOptionGroup G]
    [KeyedGroup G] (title : String) :
    Part.ReachesIn ((OptionGroup.settings (G := G)).map Setting.part) [] (readGroup G title)
      some := by
  rw [readGroup_eq]
  exact .here lawful_settings fun _ => rfl

/-- The options of a store are those of the store that its vendor holds. -/
theorem reachesIn_readVendor {G : (Type → Type) → Type} [OptionGroup G] [LawfulOptionGroup G]
    [KeyedGroup G] (title key storeTitle : String) :
    Part.ReachesIn ((OptionGroup.settings (G := G)).map Setting.part) [key]
      (readVendor G title key storeTitle) Vendor.store :=
  .into (Vendor.lawful_part (G := G) key storeTitle) (List.mem_singleton_self _)
    (fun _ => (Option.bind_fun_some _).symm) (reachesIn_readGroup storeTitle)

/-- What a section holds is held by the layer. -/
theorem Layer.reachesIn_of_find? {p : Part Layer} {key : String}
    (hp : Layer.parts.find? (·.key == key) = some p) {inner : p.Value → Option α}
    (h : Part.ReachesIn parts path p.read inner) {get : Layer → Option α}
    (hget : ∀ l, get l = (p.get l).bind inner) :
    Part.ReachesIn parts (key :: path) (readRecord "PartialConfig" sections empty) get := by
  have hkey : p.key = key := by simpa using List.find?_some hp
  rw [← hkey, Layer.sections_eq]
  exact .into lawful_parts (List.mem_of_find?_eq_some hp) hget h

/-- The options of every section are held by that section of the layer. -/
theorem Layer.reachesIn_options (n : Section) :
    Part.ReachesIn (n.settings.map Setting.part) (Mapping.options n).path
      (readRecord "PartialConfig" sections empty) (·.get n) := by
  cases n with
  | awsS3 | gcpStorage | azureBlob =>
    exact reachesIn_of_find? rfl (reachesIn_readVendor _ _ _) fun _ => rfl
  | app | cluster | scan | changeFeed | restore | compression | encryption | secretAgent
  | localFiles =>
    refine reachesIn_of_find? rfl (reachesIn_readGroup _) fun l => ?_
    exact (Option.bind_fun_some _).symm

end Reaches

namespace Layer

variable {n : Section} {s : Setting n.Group}

/-- An option whose entry says something has the value that is read from there. -/
theorem value?_of_hasEntry (hs : s ∈ n.settings) {k v d : Document}
    (hentry : Document.HasEntry k v (Mapping.options n).path d) (hk : readText k = .ok s.key)
    (hv : v.isUnset = false) {l : Layer} (hread : ofDocument d = .ok l) :
    ∃ place value, readValue s.kind place v = .ok value ∧ l.value? n s = some value :=
  (reachesIn_options n).get_of_hasEntry (List.mem_map_of_mem (f := Setting.part) hs) hentry hk hv
    hread

/-- An option may have any value that is read as well. -/
theorem ofDocument_revalued (hs : s ∈ n.settings) {v v' d d' : Document}
    (hv : ∀ place, s.entry.read place v = s.entry.read place v')
    (hrevalued : Document.Revalued s.key v v' (Mapping.options n).path d d') :
    ofDocument d = ofDocument d' :=
  (reaches_options n).read_revalued (List.mem_map_of_mem (f := Setting.part) hs) hv hrevalued []

end Layer

end BackupControl
