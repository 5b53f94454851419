/-
# Records of a document

A mapping is read as a record: each key names a part, a part may be null, and no key is unknown
or written twice.  What a mapping gives depends only on which part each of its entries gives, so
a mapping with an entry for every part that a record has is read as that record, and an entry
that is null may as well be missing.  An entry that no part can read spoils the mapping, and it
spoils every mapping around it.
-/
import BackupControl.Options.OfDocument
import Mathlib.Data.List.Nodup

namespace BackupControl

/-! ## Entries of a mapping -/

/-- A document that is a mapping says something. -/
theorem Document.isUnset_of_mapping {d : Document} {tag : Option String}
    {entries : List (Document × Document)} (h : d.resolved = .mapping tag entries) :
    d.isUnset = false := by
  simp only [Document.isUnset, h]

/-- A mapping is read entry by entry. -/
theorem readRecord_of_mapping {α : Type} {known : List (Entry α)} {d : Document}
    {tag : Option String} {entries : List (Document × Document)}
    (h : d.resolved = .mapping tag entries) (title : String) (start : α) (place : List Step) :
    readRecord title known start place d = readEntries known place [] entries start := by
  simp only [readRecord, h]

section Entries

variable {α : Type} {known : List (Entry α)} {place : List Step}

/-- What one entry adds to the record, with the name of its key. -/
def readEntry (known : List (Entry α)) (place : List Step) (seen : List String)
    (e : Document × Document) : Except Mismatch (String × (α → α)) :=
  match readText e.1 with
  | .error _ => .error ⟨place, .wrongType e.1.found "field identifier"⟩
  | .ok name =>
    match known.find? (·.key == name) with
    | none => .error ⟨place, .unknownKey name (known.map (·.key))⟩
    | some entry =>
      if seen.contains name then .error ⟨place, .repeatedKey name⟩
      else (entry.read (place ++ [stepOfKey e.1]) e.2).map fun add => (name, add)

/-- The entries are read one after the other. -/
theorem readEntries_cons (known : List (Entry α)) (place : List Step) (seen : List String)
    (e : Document × Document) (rest : List (Document × Document)) (record : α) :
    readEntries known place seen (e :: rest) record =
      match readEntry known place seen e with
      | .error m => .error m
      | .ok (name, add) => readEntries known place (name :: seen) rest (add record) := by
  rw [readEntries, readEntry]
  cases readText e.1 with
  | error _ => rfl
  | ok name =>
    dsimp only
    cases known.find? (·.key == name) with
    | none => rfl
    | some entry =>
      dsimp only
      cases seen.contains name with
      | true => rfl
      | false => cases entry.read (place ++ [stepOfKey e.1]) e.2 <;> rfl

/-- An entry adds something just if its key is known and new and reads its value. -/
theorem readEntry_eq_ok_iff {seen : List String} {e : Document × Document} {name : String}
    {add : α → α} :
    readEntry known place seen e = .ok (name, add) ↔
      readText e.1 = .ok name ∧ name ∉ seen ∧
        ∃ entry, known.find? (·.key == name) = some entry ∧
          entry.read (place ++ [stepOfKey e.1]) e.2 = .ok add := by
  constructor
  · intro h
    rw [readEntry] at h
    split at h
    · cases h
    rename_i n hname
    split at h
    · cases h
    rename_i entry hfind
    split at h
    · cases h
    rename_i hseen
    rw [List.contains_iff_mem] at hseen
    cases hread : entry.read (place ++ [stepOfKey e.1]) e.2 with
    | error m => rw [hread] at h; cases h
    | ok f => rw [hread] at h; cases h; exact ⟨hname, hseen, entry, hfind, hread⟩
  · rintro ⟨hname, hseen, entry, hfind, hread⟩
    rw [readEntry]
    simp only [hname, hfind, List.contains_iff_mem, hseen, if_false, hread]
    rfl

/-- The key that an entry is read under is that of a known entry. -/
theorem exists_known_of_readEntry {seen : List String} {e : Document × Document} {name : String}
    {add : α → α} (h : readEntry known place seen e = .ok (name, add)) :
    ∃ entry ∈ known, readText e.1 = .ok entry.key ∧ entry.key = name ∧ name ∉ seen ∧
      entry.read (place ++ [stepOfKey e.1]) e.2 = .ok add := by
  obtain ⟨hname, hseen, entry, hfind, hread⟩ := readEntry_eq_ok_iff.1 h
  have hkey : entry.key = name := by simpa using List.find?_some hfind
  exact ⟨entry, List.mem_of_find?_eq_some hfind, hkey ▸ hname, hkey, hseen, hread⟩

/-- An entry that no known key reads spoils the mapping. -/
theorem readEntries_ne_ok {k v : Document}
    (h : ∀ entry ∈ known, readText k = .ok entry.key → ∀ place add, entry.read place v ≠ .ok add)
    {entries : List (Document × Document)} (hmem : (k, v) ∈ entries) (seen : List String)
    (record a : α) : readEntries known place seen entries record ≠ .ok a := by
  induction entries generalizing seen record with
  | nil => cases hmem
  | cons e entries ih =>
    rw [readEntries_cons]
    cases hstep : readEntry known place seen e with
    | error m => simp only [ne_eq, reduceCtorEq, not_false_eq_true]
    | ok r =>
      rcases List.mem_cons.1 hmem with rfl | hmem
      · obtain ⟨entry, hentry, hkey, -, -, hread⟩ := exists_known_of_readEntry hstep
        exact absurd hread (h entry hentry hkey _ _)
      · exact ih hmem _ _

/-- Two values that every known key reads alike may stand for each other. -/
theorem readEntries_congr_value {k v v' : Document}
    (h : ∀ entry ∈ known, readText k = .ok entry.key →
      ∀ place, entry.read place v = entry.read place v')
    (front back : List (Document × Document)) (seen : List String) (record : α) :
    readEntries known place seen (front ++ (k, v) :: back) record =
      readEntries known place seen (front ++ (k, v') :: back) record := by
  induction front generalizing seen record with
  | nil =>
    have hstep : readEntry known place seen (k, v) = readEntry known place seen (k, v') := by
      rw [readEntry, readEntry]
      dsimp only
      split
      · rfl
      rename_i name hname
      split
      · rfl
      rename_i entry hfind
      have hkey : entry.key = name := by simpa using List.find?_some hfind
      rw [h entry (List.mem_of_find?_eq_some hfind) (hkey ▸ hname)]
    rw [List.nil_append, List.nil_append, readEntries_cons, readEntries_cons, hstep]
  | cons e front ih => simp only [List.cons_append, readEntries_cons, ih]

/-- Of the keys that have been seen, only those that are still to come matter. -/
theorem readEntries_congr_seen {entries : List (Document × Document)} {seen seen' : List String}
    (h : ∀ e ∈ entries, ∀ name, readText e.1 = .ok name → (name ∈ seen ↔ name ∈ seen'))
    (record : α) :
    readEntries known place seen entries record = readEntries known place seen' entries record := by
  induction entries generalizing seen seen' record with
  | nil => rfl
  | cons e entries ih =>
    obtain ⟨he, hentries⟩ := List.forall_mem_cons.1 h
    have hstep : readEntry known place seen e = readEntry known place seen' e := by
      rw [readEntry, readEntry]
      split
      · rfl
      rename_i name hname
      simp only [List.contains_iff_mem, he name hname]
    have hrest (name : String) (record : α) :
        readEntries known place (name :: seen) entries record =
          readEntries known place (name :: seen') entries record :=
      ih (fun e hmem n hn => by rw [List.mem_cons, List.mem_cons, hentries e hmem n hn]) record
    simp only [readEntries_cons, hstep, hrest]

end Entries

/-! ## Parts of a record -/

/-- A part of a record that may be missing: its key, its place in the record, and how it is
read. -/
structure Part (α : Type) where
  key : String
  Value : Type
  get : α → Option Value
  put : Option Value → α → α
  read : List Step → Document → Except Mismatch Value

namespace Part

variable {α : Type}

/-- The entry of a part. -/
def entry (p : Part α) : Entry α := Entry.section p.key p.read p.put

/-- The parts are read under different keys, determine the record, and are each written without
a change to the others; the record that the reading starts from has none of them. -/
structure Lawful (parts : List (Part α)) (start : α) : Prop where
  nodup : (parts.map Part.key).Nodup
  ext {a b : α} : (∀ p ∈ parts, p.get a = p.get b) → a = b
  get_start : ∀ p ∈ parts, p.get start = none
  get_put : ∀ p ∈ parts, ∀ u a, p.get (p.put u a) = u
  get_put_of_ne : ∀ p ∈ parts, ∀ q ∈ parts, q.key ≠ p.key → ∀ u a, q.get (p.put u a) = q.get a

/-- The entry gives the part that a record has. -/
structure Gives (p : Part α) (a : α) (e : Document × Document) : Prop where
  key : readText e.1 = .ok p.key
  set : e.2.isUnset = false
  value : ∃ b, p.get a = some b ∧ ∀ place, p.read place e.2 = .ok b

variable {parts : List (Part α)} {start : α} {p : Part α}

namespace Lawful

/-- A part is known by its key. -/
theorem eq_of_key (h : Lawful parts start) (hp : p ∈ parts) {q : Part α} (hq : q ∈ parts)
    (hkey : q.key = p.key) : q = p :=
  List.inj_on_of_nodup_map h.nodup hq hp hkey

/-- A part is found by its key. -/
theorem find?_entry (h : Lawful parts start) (hp : p ∈ parts) :
    (parts.map entry).find? (·.key == p.key) = some p.entry := by
  obtain ⟨q, hfind⟩ : ∃ q, parts.find? (·.key == p.key) = some q :=
    Option.isSome_iff_exists.1 (List.find?_isSome.2 ⟨p, hp, beq_self_eq_true _⟩)
  have hkey : q.key = p.key := by simpa using List.find?_some hfind
  obtain rfl := h.eq_of_key hp (List.mem_of_find?_eq_some hfind) hkey
  rw [List.find?_map]
  exact congrArg (Option.map entry) hfind

/-- A record without a part does not change when the part is taken away. -/
theorem put_none (h : Lawful parts start) (hp : p ∈ parts) {a : α} (ha : p.get a = none) :
    p.put none a = a := by
  apply h.ext
  intro q hq
  by_cases hkey : q.key = p.key
  · obtain rfl := h.eq_of_key hp hq hkey
    rw [h.get_put q hq, ha]
  · exact h.get_put_of_ne p hp q hq hkey _ _

end Lawful

/-- A part that is null is left out. -/
theorem entry_read_of_isUnset {v : Document} (hv : v.isUnset = true) (place : List Step) :
    p.entry.read place v = .ok (p.put none) := by
  simp only [entry, Entry.section, hv, if_true]

/-- A part that is not null is read as what it holds. -/
theorem entry_read_of_set {v : Document} (hv : v.isUnset = false) (place : List Step) :
    p.entry.read place v = (p.read place v).map fun b => p.put (some b) := by
  simp only [entry, Entry.section, hv, Bool.false_eq_true, if_false]

/-- A part that is not null and cannot be read spoils its entry. -/
theorem entry_read_ne_ok {v : Document} (hv : v.isUnset = false) {place : List Step}
    (h : ∀ b, p.read place v ≠ .ok b) (add : α → α) : p.entry.read place v ≠ .ok add := by
  rw [entry_read_of_set hv]
  cases hread : p.read place v with
  | error m => simp only [Except.map, ne_eq, reduceCtorEq, not_false_eq_true]
  | ok b => exact absurd hread (h b)

/-- Reading a part writes that part alone. -/
theorem entry_read_eq_put {v : Document} {place : List Step} {add : α → α}
    (h : p.entry.read place v = .ok add) : ∃ u, add = p.put u := by
  cases hv : v.isUnset with
  | true =>
    rw [entry_read_of_isUnset hv] at h
    exact ⟨none, (Except.ok.inj h).symm⟩
  | false =>
    rw [entry_read_of_set hv] at h
    cases hread : p.read place v with
    | error e => rw [hread] at h; cases h
    | ok b => rw [hread] at h; exact ⟨some b, (Except.ok.inj h).symm⟩

/-- The part that an entry gives is written. -/
theorem Gives.entry_read {a : α} {e : Document × Document} (h : p.Gives a e)
    (place : List Step) : p.entry.read place e.2 = .ok (p.put (p.get a)) := by
  obtain ⟨b, hget, hread⟩ := h.value
  rw [entry_read_of_set h.set, hread, hget]
  rfl

/-! ## Reading a record back -/

/-- Reading one entry of a part that has not been seen. -/
theorem Lawful.readEntries_cons (h : Lawful parts start) (hp : p ∈ parts)
    {place : List Step} {seen : List String} {k v : Document} (hk : readText k = .ok p.key)
    (hseen : p.key ∉ seen) {add : α → α} (hread : ∀ place, p.entry.read place v = .ok add)
    (rest : List (Document × Document)) (record : α) :
    readEntries (parts.map entry) place seen ((k, v) :: rest) record =
      readEntries (parts.map entry) place (p.key :: seen) rest (add record) := by
  have hstep : readEntry (parts.map entry) place seen (k, v) = .ok (p.key, add) :=
    readEntry_eq_ok_iff.2 ⟨hk, hseen, p.entry, h.find?_entry hp, hread _⟩
  rw [BackupControl.readEntries_cons, hstep]

/-- In the middle of a reading: the parts that have been seen are in the record already, the others
are not, and each part that is still missing has its entry among those that are left. -/
structure Midway (parts : List (Part α)) (a : α) (seen : List String)
    (entries : List (Document × Document)) (record : α) : Prop where
  fresh : ∀ e ∈ entries, ∀ name ∈ seen, readText e.1 ≠ .ok name
  done : ∀ p ∈ parts, p.key ∈ seen → p.get record = p.get a
  ahead : ∀ p ∈ parts, p.key ∉ seen →
    p.get record = none ∧ (p.get a = none ∨ ∃ e ∈ entries, p.Gives a e)

namespace Midway

variable {a record : α} {seen : List String} {entries : List (Document × Document)}

/-- When no entry is left the record is complete. -/
theorem eq_of_nil (h : Lawful parts start) (hmid : Midway parts a seen [] record) : record = a := by
  apply h.ext
  intro p hp
  by_cases hkey : p.key ∈ seen
  · exact hmid.done p hp hkey
  · obtain ⟨hnone, ha | ⟨e, he, -⟩⟩ := hmid.ahead p hp hkey
    · rw [hnone, ha]
    · cases he

/-- An entry that gives a part, and whose key comes no more, is one step of the reading. -/
theorem step (h : Lawful parts start) (hp : p ∈ parts) {e : Document × Document}
    (hmid : Midway parts a seen (e :: entries) record) (he : p.Gives a e)
    (hlast : ∀ e' ∈ entries, readText e'.1 ≠ .ok p.key) :
    Midway parts a (p.key :: seen) entries (p.put (p.get a) record) where
  fresh := by
    intro e' hmem name hname
    rcases List.mem_cons.1 hname with rfl | hname
    · exact hlast e' hmem
    · exact hmid.fresh e' (List.mem_cons_of_mem _ hmem) name hname
  done := by
    intro q hq hkey
    by_cases hqp : q.key = p.key
    · obtain rfl := h.eq_of_key hp hq hqp
      exact h.get_put q hq _ _
    · rw [h.get_put_of_ne p hp q hq hqp]
      exact hmid.done q hq ((List.mem_cons.1 hkey).resolve_left hqp)
  ahead := by
    intro q hq hkey
    rw [List.mem_cons, not_or] at hkey
    obtain ⟨hnone, ha⟩ := hmid.ahead q hq hkey.2
    refine ⟨by rw [h.get_put_of_ne p hp q hq hkey.1, hnone], ha.imp_right ?_⟩
    rintro ⟨e', hmem, hq'⟩
    rcases List.mem_cons.1 hmem with rfl | hmem
    · exact absurd (Except.ok.inj (hq'.key.symm.trans he.key)) hkey.1
    · exact ⟨e', hmem, hq'⟩

/-- The entries that are left complete the record. -/
theorem readEntries_eq_ok (h : Lawful parts start) (place : List Step)
    (hgives : ∀ e ∈ entries, ∃ p ∈ parts, p.Gives a e)
    (hnodup : (entries.map fun e => readText e.1).Nodup)
    (hmid : Midway parts a seen entries record) :
    readEntries (parts.map entry) place seen entries record = .ok a := by
  induction entries generalizing seen record with
  | nil => exact congrArg Except.ok (hmid.eq_of_nil h)
  | cons e entries ih =>
    obtain ⟨⟨p, hp, he⟩, hgives⟩ := List.forall_mem_cons.1 hgives
    rw [List.map_cons, List.nodup_cons, he.key] at hnodup
    have hlast : ∀ e' ∈ entries, readText e'.1 ≠ .ok p.key := fun e' hmem heq =>
      hnodup.1 (heq ▸ List.mem_map_of_mem hmem)
    have hnew : p.key ∉ seen := fun hmem => hmid.fresh e List.mem_cons_self _ hmem he.key
    rw [h.readEntries_cons hp he.key hnew he.entry_read]
    exact ih hgives hnodup.2 (hmid.step h hp he hlast)

end Midway

/-- A mapping is read as the record whose parts its entries give. -/
theorem Lawful.readRecord_eq_ok (h : Lawful parts start) {a : α} {d : Document}
    {tag : Option String} {entries : List (Document × Document)}
    (hd : d.resolved = .mapping tag entries)
    (hnodup : (entries.map fun e => readText e.1).Nodup)
    (hgives : ∀ e ∈ entries, ∃ p ∈ parts, p.Gives a e)
    (hparts : ∀ p ∈ parts, p.get a = none ∨ ∃ e ∈ entries, p.Gives a e)
    (title : String) (place : List Step) :
    readRecord title (parts.map entry) start place d = .ok a := by
  rw [readRecord_of_mapping hd]
  refine Midway.readEntries_eq_ok h place hgives hnodup ⟨?_, ?_, ?_⟩
  · exact fun _ _ _ hname => absurd hname List.not_mem_nil
  · exact fun _ _ hmem => absurd hmem List.not_mem_nil
  · exact fun p hp _ => ⟨h.get_start p hp, hparts p hp⟩

/-! ## Parts that are null -/

/-- A part that is null and nowhere else in the mapping may as well be missing. -/
theorem Lawful.readEntries_insert (h : Lawful parts start) (hp : p ∈ parts) (place : List Step)
    {k v : Document} (hk : readText k = .ok p.key) (hv : v.isUnset = true)
    {front back : List (Document × Document)}
    (hfresh : ∀ e ∈ front ++ back, readText e.1 ≠ .ok p.key)
    {seen : List String} (hseen : p.key ∉ seen) {record : α} (hnone : p.get record = none) :
    readEntries (parts.map entry) place seen (front ++ (k, v) :: back) record =
      readEntries (parts.map entry) place seen (front ++ back) record := by
  induction front generalizing seen record with
  | nil =>
    rw [List.nil_append, List.nil_append,
      h.readEntries_cons hp hk hseen (entry_read_of_isUnset hv), h.put_none hp hnone]
    refine readEntries_congr_seen (fun e he name hname => ?_) record
    have hne : name ≠ p.key := fun heq => hfresh e he (heq ▸ hname)
    rw [List.mem_cons, or_iff_right hne]
  | cons e front ih =>
    rw [List.cons_append, List.forall_mem_cons] at hfresh
    obtain ⟨hne, hfresh⟩ := hfresh
    rw [List.cons_append, List.cons_append, BackupControl.readEntries_cons,
      BackupControl.readEntries_cons]
    cases hstep : readEntry (parts.map entry) place seen e with
    | error m => rfl
    | ok r =>
      obtain ⟨name, add⟩ := r
      obtain ⟨known, hknown, hname, rfl, -, hadd⟩ := exists_known_of_readEntry hstep
      obtain ⟨q, hq, rfl⟩ := List.mem_map.1 hknown
      obtain ⟨u, hu⟩ := entry_read_eq_put hadd
      have hnew : p.key ≠ q.key := fun heq => hne (heq ▸ hname)
      refine ih hfresh ?_ ?_
      · rw [List.mem_cons, not_or]
        exact ⟨hnew, hseen⟩
      · rw [hu, h.get_put_of_ne q hq p hp hnew, hnone]

end Part

end BackupControl
