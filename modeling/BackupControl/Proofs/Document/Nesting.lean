/-
# Mappings within mappings

The mappings of a format stand inside each other, and each is reached by the keys on the way to
it.  What happens in one of them is felt outside: an entry that is null may as well be missing
from it, a value may be any other that is read alike, and an entry that it cannot read spoils the
whole document.
-/
import BackupControl.Proofs.Document.Record

namespace BackupControl

/-! ## Entries deep in a document -/

namespace Document

/-- The mapping at the end of a path of keys has the entry. -/
inductive HasEntry (k v : Document) : List String → Document → Prop
  | here {d : Document} {tag : Option String} {entries : List (Document × Document)}
      (hd : d.resolved = .mapping tag entries) (hmem : (k, v) ∈ entries) : HasEntry k v [] d
  | into {d key inner : Document} {tag : Option String} {entries : List (Document × Document)}
      {name : String} {path : List String}
      (hd : d.resolved = .mapping tag entries) (hmem : (key, inner) ∈ entries)
      (hkey : readText key = .ok name) (h : HasEntry k v path inner) :
      HasEntry k v (name :: path) d

/-- The second document is the first with one more entry, under a key that is new, in the
mapping at the end of a path of keys. -/
inductive Added (name : String) (v : Document) : List String → Document → Document → Prop
  | here {d d' k : Document} {tag : Option String} {front back : List (Document × Document)}
      (hd : d.resolved = .mapping tag (front ++ back))
      (hd' : d'.resolved = .mapping tag (front ++ (k, v) :: back))
      (hk : readText k = .ok name) (hnew : ∀ e ∈ front ++ back, readText e.1 ≠ .ok name) :
      Added name v [] d d'
  | into {d d' key inner inner' : Document} {tag : Option String}
      {front back : List (Document × Document)} {step : String} {path : List String}
      (hd : d.resolved = .mapping tag (front ++ (key, inner) :: back))
      (hd' : d'.resolved = .mapping tag (front ++ (key, inner') :: back))
      (hkey : readText key = .ok step) (h : Added name v path inner inner') :
      Added name v (step :: path) d d'

/-- The second document is the first with another value under a key, in the mapping at the end of
a path of keys. -/
inductive Revalued (name : String) (v v' : Document) :
    List String → Document → Document → Prop
  | here {d d' k : Document} {tag : Option String} {front back : List (Document × Document)}
      (hd : d.resolved = .mapping tag (front ++ (k, v) :: back))
      (hd' : d'.resolved = .mapping tag (front ++ (k, v') :: back))
      (hk : readText k = .ok name) : Revalued name v v' [] d d'
  | into {d d' key inner inner' : Document} {tag : Option String}
      {front back : List (Document × Document)} {step : String} {path : List String}
      (hd : d.resolved = .mapping tag (front ++ (key, inner) :: back))
      (hd' : d'.resolved = .mapping tag (front ++ (key, inner') :: back))
      (hkey : readText key = .ok step) (h : Revalued name v v' path inner inner') :
      Revalued name v v' (step :: path) d d'

/-- A document with an entry at the end of a path is a mapping. -/
theorem HasEntry.isUnset {k v d : Document} {path : List String} (h : HasEntry k v path d) :
    d.isUnset = false := by
  cases h with
  | here hd _ => exact isUnset_of_mapping hd
  | into hd _ _ _ => exact isUnset_of_mapping hd

/-- Documents with and without an entry at the end of a path are mappings. -/
theorem Added.isUnset {name : String} {v d d' : Document} {path : List String}
    (h : Added name v path d d') : d.isUnset = false ∧ d'.isUnset = false := by
  cases h with
  | here hd hd' _ _ => exact ⟨isUnset_of_mapping hd, isUnset_of_mapping hd'⟩
  | into hd hd' _ _ => exact ⟨isUnset_of_mapping hd, isUnset_of_mapping hd'⟩

/-- Documents with different values at the end of a path are mappings. -/
theorem Revalued.isUnset {name : String} {v v' d d' : Document} {path : List String}
    (h : Revalued name v v' path d d') : d.isUnset = false ∧ d'.isUnset = false := by
  cases h with
  | here hd hd' _ => exact ⟨isUnset_of_mapping hd, isUnset_of_mapping hd'⟩
  | into hd hd' _ _ => exact ⟨isUnset_of_mapping hd, isUnset_of_mapping hd'⟩

end Document

/-! ## Records on the way -/

namespace Part

/-- A reading comes to a record of these parts along a path of keys. -/
inductive Reaches {α : Type} (parts : List (Part α)) :
    List String → {β : Type} → (List Step → Document → Except Mismatch β) → Prop
  | here {title : String} {start : α} (lawful : Lawful parts start) :
      Reaches parts [] (readRecord title (parts.map entry) start)
  | into {β : Type} {outer : List (Part β)} {start : β} {title : String} {p : Part β}
      {path : List String} (lawful : Lawful outer start) (hp : p ∈ outer)
      (h : Reaches parts path p.read) :
      Reaches parts (p.key :: path) (readRecord title (outer.map entry) start)

variable {α β : Type} {parts : List (Part α)} {path : List String}
  {read : List Step → Document → Except Mismatch β}

/-- The entry of a lawful part is known by its key. -/
theorem Lawful.eq_entry {start : α} (h : Lawful parts start) {p : Part α} (hp : p ∈ parts)
    {known : Entry α} (hknown : known ∈ parts.map entry) (hkey : known.key = p.key) :
    known = p.entry := by
  obtain ⟨q, hq, rfl⟩ := List.mem_map.1 hknown
  exact congrArg entry (h.eq_of_key hp hq hkey)

/-- A value that a part reads alike may stand for another. -/
theorem Lawful.readRecord_congr_value {start : α} (h : Lawful parts start) {p : Part α}
    (hp : p ∈ parts) {d d' k v v' : Document} {tag : Option String}
    {front back : List (Document × Document)}
    (hd : d.resolved = .mapping tag (front ++ (k, v) :: back))
    (hd' : d'.resolved = .mapping tag (front ++ (k, v') :: back)) (hk : readText k = .ok p.key)
    (hv : ∀ place, p.entry.read place v = p.entry.read place v') (title : String)
    (place : List Step) :
    readRecord title (parts.map entry) start place d =
      readRecord title (parts.map entry) start place d' := by
  rw [readRecord_of_mapping hd, readRecord_of_mapping hd']
  refine readEntries_congr_value (fun known hknown hname inside => ?_) _ _ _ _
  obtain rfl := h.eq_entry hp hknown (Except.ok.inj (hname.symm.trans hk))
  exact hv inside

/-- A part that is null and not there already reads like one that is missing, however deep the
mapping is. -/
theorem Reaches.read_added (h : Reaches parts path read) {p : Part α} (hp : p ∈ parts)
    {v d d' : Document} (hv : v.isUnset = true) (hadd : Document.Added p.key v path d d')
    (place : List Step) : read place d' = read place d := by
  -- the records on the way see a value that reads the same, which is all that they look at
  induction h generalizing d d' place with
  | here lawful =>
    cases hadd with
    | here hd hd' hk hnew =>
      rw [readRecord_of_mapping hd, readRecord_of_mapping hd']
      exact lawful.readEntries_insert hp place hk hv hnew List.not_mem_nil (lawful.get_start p hp)
  | into lawful hq _ ih =>
    cases hadd with
    | into hd hd' hkey hadd =>
      refine lawful.readRecord_congr_value hq hd' hd hkey (fun inside => ?_) _ place
      rw [entry_read_of_set hadd.isUnset.1, entry_read_of_set hadd.isUnset.2, ih hadd]

/-- A value that a part reads alike may stand for another, however deep the mapping is. -/
theorem Reaches.read_revalued (h : Reaches parts path read) {p : Part α} (hp : p ∈ parts)
    {v v' d d' : Document} (hv : ∀ place, p.entry.read place v = p.entry.read place v')
    (hrevalued : Document.Revalued p.key v v' path d d') (place : List Step) :
    read place d = read place d' := by
  induction h generalizing d d' place with
  | here lawful =>
    cases hrevalued with
    | here hd hd' hk => exact lawful.readRecord_congr_value hp hd hd' hk hv _ place
  | into lawful hq _ ih =>
    cases hrevalued with
    | into hd hd' hkey hinner =>
      refine lawful.readRecord_congr_value hq hd hd' hkey (fun inside => ?_) _ place
      rw [entry_read_of_set hinner.isUnset.1, entry_read_of_set hinner.isUnset.2,
        ih hinner inside]

/-- An entry that no part of its mapping reads spoils the document, however deep the mapping
is. -/
theorem Reaches.read_ne_ok (h : Reaches parts path read) {k v d : Document}
    (hentry : Document.HasEntry k v path d)
    (hbad : ∀ p ∈ parts, readText k = .ok p.key →
      v.isUnset = false ∧ ∀ place b, p.read place v ≠ .ok b)
    (place : List Step) (b : β) : read place d ≠ .ok b := by
  -- a mapping that is spoilt is in turn an entry that no part of the record around it reads
  induction h generalizing d place with
  | here lawful =>
    cases hentry with
    | here hd hmem =>
      rw [readRecord_of_mapping hd]
      refine readEntries_ne_ok (fun known hknown hname inside => ?_) hmem _ _ _
      obtain ⟨p, hp, rfl⟩ := List.mem_map.1 hknown
      obtain ⟨hv, hread⟩ := hbad p hp hname
      exact entry_read_ne_ok hv (hread inside)
  | into lawful hq _ ih =>
    cases hentry with
    | into hd hmem hkey hentry =>
      rw [readRecord_of_mapping hd]
      refine readEntries_ne_ok (fun known hknown hname inside => ?_) hmem _ _ _
      obtain rfl := lawful.eq_entry hq hknown (Except.ok.inj (hname.symm.trans hkey))
      exact entry_read_ne_ok hentry.isUnset (ih hentry inside)

end Part

end BackupControl
