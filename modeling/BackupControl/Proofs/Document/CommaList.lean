/-
# Comma lists in a document

A list option is written as a sequence of items, or as one text with commas between them, and is
stored as that text.  The items come back from it, except that the empty text alone is stored like
no item at all, and that an item with a comma comes back in pieces.

Main statement: `list_options_survive_joining`.
-/
import BackupControl.Proofs.Document.Scalar
import BackupControl.Proofs.Document.Values
import BackupControl.Proofs.Rules.FirstBroken
import BackupControl.Proofs.Text.Commas

namespace BackupControl

/-! ## Items and lists -/

namespace Document

/-- The document is an item with this text: the text itself, or a whole number of sixty-four bits
with a sign, which stands for its decimal. -/
inductive IsItem (d : Document) : String → Prop where
  | text {s : String} (h : d.found = .scalar (.text s)) : IsItem d s
  | int {n : Int} (h : d.found = .scalar (.int n)) (hleast : -(twoTo 63 : Int) ≤ n)
      (hmost : n < twoTo 63) : IsItem d n.repr

/-- The document is a list that is stored as this text: an item, or a sequence of items, which are
joined by commas. -/
inductive IsList (d : Document) : String → Prop where
  | item {s : String} (h : d.IsItem s) : IsList d s
  | sequence {tag : Option String} {items : List Document} {texts : List String}
      (hd : d.resolved = .sequence tag items) (hitems : List.Forall₂ IsItem items texts) :
      IsList d (joinCommas texts)

variable {d : Document} {s : String}

/-- The text of an item is read just if the document is one. -/
theorem listItem?_eq_some_iff : listItem? d = some s ↔ d.IsItem s := by
  rw [listItem?]
  constructor
  · intro h
    split at h
    · rename_i t hfound
      obtain rfl := Option.some.inj h
      exact .text hfound
    · rename_i n hfound
      rw [Option.ite_none_right_eq_some] at h
      obtain ⟨⟨hleast, hmost⟩, hrepr⟩ := h
      obtain rfl := Option.some.inj hrepr
      exact .int hfound hleast hmost
    · cases h
  · rintro (hfound | ⟨hfound, hleast, hmost⟩)
    · rw [hfound]
    · rw [hfound]
      exact if_pos ⟨hleast, hmost⟩

/-- The texts of items are read just if each document is one. -/
theorem mapM_listItem?_eq_some_iff {items : List Document} {texts : List String} :
    items.mapM listItem? = some texts ↔ List.Forall₂ IsItem items texts := by
  simp only [mapM_eq_some_iff, listItem?_eq_some_iff]

/-- The text of a list is read just if the document is one. -/
theorem listText?_eq_some_iff : listText? d = some s ↔ d.IsList s := by
  rw [listText?]
  split
  · rename_i tag items hd
    rw [Option.map_eq_some_iff]
    constructor
    · rintro ⟨texts, htexts, rfl⟩
      exact .sequence hd (mapM_listItem?_eq_some_iff.1 htexts)
    · rintro (hitem | ⟨hd', hitems⟩)
      · -- a sequence is no item
        have hfound : d.found = .sequence := by rw [found, hd]
        rcases hitem with h | ⟨h, -, -⟩ <;> cases hfound.symm.trans h
      · obtain ⟨-, rfl⟩ := Document.sequence.inj (hd.symm.trans hd')
        exact ⟨_, mapM_listItem?_eq_some_iff.2 hitems, rfl⟩
  · rename_i hd
    rw [listItem?_eq_some_iff]
    constructor
    · exact .item
    · rintro (hitem | ⟨hd', -⟩)
      · exact hitem
      · exact absurd hd' (hd _ _)

/-- What says nothing is null. -/
theorem found_of_isUnset (h : d.isUnset = true) : d.found = .scalar .null := by
  have hword {s : String} (hs : (s.isEmpty || isNullWord s) = true) :
      scalarType? none .plain s = some .null := by
    simp only [scalarType?, if_true, plainScalar?, if_pos hs]
  have htagged {s : String} (hs : isNullWord s = true) :
      scalarType? (some (coreTag "null")) .plain s = some .null := by
    have hbool : coreTag "null" ≠ coreTag "bool" := by decide
    have hint : coreTag "null" ≠ coreTag "int" := by decide
    have hfloat : coreTag "null" ≠ coreTag "float" := by decide
    simp only [scalarType?, if_neg hbool, if_neg hint, if_neg hfloat, hs, if_true]
  unfold isUnset at h
  unfold found
  split at h
  · rename_i s hd
    simp only [hd, hword h, Option.getD_some]
  · rename_i t s hd
    obtain ⟨ht, hs⟩ := Bool.and_eq_true_iff.1 h
    obtain rfl := beq_iff_eq.1 ht
    simp only [hd, htagged hs, Option.getD_some]
  · rename_i hd
    simp only [hd]
  · cases h

/-- A list says something. -/
theorem IsList.isUnset (h : d.IsList s) : d.isUnset = false := by
  rw [← Bool.not_eq_true]
  intro hunset
  have hnull := found_of_isUnset hunset
  cases h with
  | item hitem => rcases hitem with h | ⟨h, -, -⟩ <;> cases hnull.symm.trans h
  | sequence hd =>
    rw [found, hd] at hnull
    cases hnull

/-- A list is stored as one text. -/
theorem IsList.unique {s' : String} (h : d.IsList s) (h' : d.IsList s') : s = s' :=
  Option.some.inj ((listText?_eq_some_iff.2 h).symm.trans (listText?_eq_some_iff.2 h'))

/-- A spelling of a text is a list that is stored as the text. -/
theorem Spells.isList (h : d.Spells (.text s)) : localTagIn? d = none ∧ d.IsList s :=
  h.listText?.imp_right listText?_eq_some_iff.1

end Document

/-! ## List options -/

section Reading

variable {d : Document} {k : Kind} {place : List Step}

/-- A value of a list option is read just if the document is a list that is stored as it, in which
nothing has a tag of the writer. -/
theorem readValue_list_eq_ok_iff (hk : k = .list) {stored : k.Value} :
    readValue k place d = .ok stored ↔
      localTagIn? d = none ∧ ∃ text, d.IsList text ∧ k.scalar stored = .text text := by
  subst hk
  simp only [readValue, Kind.scalar, Scalar.text.injEq, exists_eq_right',
    ← Document.listText?_eq_some_iff]
  cases localTagIn? d with
  | some inner => simp only [reduceCtorEq, false_and]
  | none =>
    cases listText? d with
    | none => simp only [reduceCtorEq, and_false]
    | some text => simp only [Except.ok.injEq, Option.some.injEq, true_and]

/-- Lists that are stored as the same text are read alike. -/
theorem readValue_list_congr (hk : k = .list) {d' : Document} {text : String}
    (h : localTagIn? d = none ∧ d.IsList text) (h' : localTagIn? d' = none ∧ d'.IsList text) :
    readValue k place d = readValue k place d' := by
  subst hk
  have hread : readValue .list place d = .ok text :=
    (readValue_list_eq_ok_iff rfl).2 ⟨h.1, text, h.2, rfl⟩
  exact hread.trans ((readValue_list_eq_ok_iff rfl).2 ⟨h'.1, text, h'.2, rfl⟩).symm

variable {G : (Type → Type) → Type} {s : Setting G}

/-- What an entry of a list option adds to its group: nothing where it is null, and otherwise the
text that the list is stored as. -/
inductive AddsList (s : Setting G) (d : Document) : (G Given → G Given) → Prop where
  | null (h : d.isUnset = true) : AddsList s d fun g => s.put none g
  | list {text : String} {stored : s.kind.Value} (htag : localTagIn? d = none)
      (hlist : d.IsList text) (hstored : s.kind.scalar stored = .text text) :
      AddsList s d fun g => s.put (some stored) g

/-- An entry of a list option is read just if it is null or a list. -/
theorem entry_read_list_eq_ok_iff (hs : s.kind = .list) {add : G Given → G Given} :
    s.entry.read place d = .ok add ↔ AddsList s d add := by
  rw [Setting.entry, Entry.section]
  dsimp only
  split
  · rename_i hunset
    constructor
    · intro h
      rw [← Except.ok.inj h]
      exact .null hunset
    · rintro (_ | ⟨-, hlist, -⟩)
      · rfl
      · exact absurd (hlist.isUnset.symm.trans hunset) Bool.false_ne_true
  · rename_i hset
    rw [map_eq_ok_iff]
    constructor
    · rintro ⟨stored, hread, rfl⟩
      obtain ⟨htag, text, hlist, hstored⟩ := (readValue_list_eq_ok_iff hs).1 hread
      exact .list htag hlist hstored
    · rintro (hunset | ⟨htag, hlist, hstored⟩)
      · exact absurd hunset hset
      · exact ⟨_, (readValue_list_eq_ok_iff hs).2 ⟨htag, _, hlist, hstored⟩, rfl⟩

end Reading

/-! ## Sequences -/

/-- The document is a sequence of items with these texts, in which nothing has a tag of the
writer. -/
structure Document.IsSequenceOf (d : Document) (texts : List String) : Prop where
  items : ∃ tag items, d.resolved = .sequence tag items ∧ List.Forall₂ IsItem items texts
  untagged : localTagIn? d = none

/-- A sequence of items is a list that is stored as the items with commas between. -/
theorem Document.IsSequenceOf.isList {d : Document} {texts : List String}
    (h : d.IsSequenceOf texts) : localTagIn? d = none ∧ d.IsList (joinCommas texts) := by
  obtain ⟨tag, items, hd, hitems⟩ := h.items
  exact ⟨h.untagged, .sequence hd hitems⟩

/-- All texts are those of a sequence. -/
theorem Document.exists_isSequenceOf (texts : List String) :
    ∃ d : Document, d.IsSequenceOf texts := by
  have htag (index : Nat) :
      localTagInItems? index (texts.map fun text => .fixed (.text text)) = none := by
    induction texts generalizing index with
    | nil => rfl
    | cons text texts ih =>
      rw [List.map_cons, localTagInItems?, localTagIn?]
      exact ih (index + 1)
  refine ⟨.sequence none (texts.map fun text => .fixed (.text text)), ⟨none, _, rfl, ?_⟩, htag 0⟩
  rw [List.forall₂_map_left_iff, List.forall₂_same]
  exact fun text _ => .text rfl

namespace Layer

variable {n : Section} {s : Setting n.Group} {v : Document} {texts : List String}

/-- A sequence may be written as one text with commas between its items. -/
theorem ofDocument_joined (hs : s ∈ n.settings) (hlist : s.kind = .list)
    (hv : v.IsSequenceOf texts) {v' d d' : Document} (hv' : v'.Spells (.text (joinCommas texts)))
    (hrevalued : Document.Revalued s.key v v' (Mapping.options n).path d d') :
    ofDocument d = ofDocument d' := by
  refine ofDocument_revalued hs (fun place => ?_) hrevalued
  have hread : readValue s.kind place v = readValue s.kind place v' :=
    readValue_list_congr hlist hv.isList hv'.isList
  simp only [Setting.entry, Entry.section, hv.isList.2.isUnset, hv'.isList.2.isUnset, hread]

/-- A layer holds the text for a list option, and so does whatever it is settled over. -/
structure HoldsList (l : Layer) (n : Section) (s : Setting n.Group) (text : String) : Prop where
  given : ∃ stored, l.value? n s = some stored ∧ s.kind.scalar stored = .text text
  settled : ∀ d : Defaults,
    s.kind.scalar (s.get (settleSection (l.get n) (d.get n))) = .text text

/-- A sequence is stored as its items with commas between. -/
theorem holdsList_of_hasEntry (hs : s ∈ n.settings) (hlist : s.kind = .list)
    (hv : v.IsSequenceOf texts) {k d : Document}
    (hentry : Document.HasEntry k v (Mapping.options n).path d) (hk : readText k = .ok s.key)
    {l : Layer} (hread : ofDocument d = .ok l) : l.HoldsList n s (joinCommas texts) := by
  obtain ⟨place, stored, hvalue, hstored⟩ :=
    value?_of_hasEntry hs hentry hk hv.isList.2.isUnset hread
  obtain ⟨-, text, htext, hscalar⟩ := (readValue_list_eq_ok_iff hlist).1 hvalue
  rw [htext.unique hv.isList.2] at hscalar
  refine ⟨⟨stored, hstored, hscalar⟩, fun d => ?_⟩
  have hsome : (l.get n).bind s.get = some stored := hstored
  rw [get_settleSection hs, hsome, Option.getD_some, hscalar]

end Layer

/-! ## Lists and texts -/

/-- A name without a comma is both namespaces, and two with a comma between are one each. -/
theorem namespacePair?_of_names {first second : String} (hfirst : first ≠ "" ∧ ',' ∉ first.toList)
    (hsecond : second ≠ "" ∧ ',' ∉ second.toList) :
    namespacePair? first = some (first, first) ∧
      namespacePair? (first ++ "," ++ second) = some (first, second) := by
  simp only [namespacePair?_eq_some_iff]
  exact ⟨⟨hfirst.1, hfirst.1, .inr ⟨splitCommas_eq_singleton_iff.2 ⟨hfirst.1, hfirst.2, rfl⟩, rfl⟩⟩,
    ⟨hfirst.1, hsecond.1, .inl (splitCommas_eq_pair_iff.2 ⟨hfirst.2, hsecond.2, rfl⟩)⟩⟩

/-- **Lists survive being stored as text with commas.**

* Any text is that of its items, with commas between.
* Texts come back from being joined just if none of them has a comma and they are not the empty
  text alone.
* An entry of a list option is read just if it is null, an item, or a sequence of items; an item is
  a text or a whole number of sixty-four bits, and nothing has a tag of the writer.
* A sequence of items is read like one text with commas between them, wherever it stands in a
  document, and is stored as that text.  All texts are those of a sequence.
* A namespace option names a pair just if it has one or two items, none of them empty. -/
theorem list_options_survive_joining :
    (∀ s, joinCommas (splitCommas s) = s) ∧
    (∀ texts, splitCommas (joinCommas texts) = texts ↔
      texts ≠ [""] ∧ ∀ text ∈ texts, ',' ∉ text.toList) ∧
    (∀ (n : Section) (s : Setting n.Group), s ∈ n.settings → s.kind = .list →
      (∀ place d add, s.entry.read place d = .ok add ↔ AddsList s d add) ∧
      ∀ texts v, v.IsSequenceOf texts →
        (∀ v' d d', v'.Spells (.text (joinCommas texts)) →
          Document.Revalued s.key v v' (Mapping.options n).path d d' →
          Layer.ofDocument d = Layer.ofDocument d') ∧
        ∀ k d l, Document.HasEntry k v (Mapping.options n).path d → readText k = .ok s.key →
          Layer.ofDocument d = .ok l → l.HoldsList n s (joinCommas texts)) ∧
    (∀ texts, ∃ d : Document, d.IsSequenceOf texts) ∧
    (∀ s, (namespacePair? s).isSome = true ↔ NamesOneOrTwo s) ∧
    ∀ first second, first ≠ "" ∧ ',' ∉ first.toList → second ≠ "" ∧ ',' ∉ second.toList →
      namespacePair? first = some (first, first) ∧
        namespacePair? (first ++ "," ++ second) = some (first, second) := by
  refine ⟨joinCommas_splitCommas, fun _ => splitCommas_joinCommas_iff, ?_,
    Document.exists_isSequenceOf, fun _ => isSome_namespacePair?_iff_items,
    fun _ _ => namespacePair?_of_names⟩
  intro n s hs hlist
  refine ⟨fun _ _ _ => entry_read_list_eq_ok_iff hlist, fun texts v hv => ⟨?_, ?_⟩⟩
  · exact fun _ _ _ hv' hrevalued => Layer.ofDocument_joined hs hlist hv hv' hrevalued
  · exact fun _ _ _ hentry hk hread => Layer.holdsList_of_hasEntry hs hlist hv hentry hk hread

/-- A sequence of a text and a number sets what one text with a comma does, and its items come
back. -/
theorem list_options_survive_joining_of_sets :
    let plain := Document.written none .plain
    let sets (v : Document) : Document :=
      .mapping none [(plain "backup", .mapping none [(plain "set-list", v)])]
    let items := Document.sequence none [plain "users", plain "7"]
    Layer.ofDocument (sets items) = Layer.ofDocument (sets (plain "users,7")) ∧
      (∃ l, Layer.ofDocument (sets items) = .ok l ∧
        l.HoldsList .scan (Section.scan.settings[2]) "users,7") ∧
      splitCommas "users,7" = ["users", "7"] := by
  intro plain sets items
  have hs : Section.scan.settings[2] ∈ Section.scan.settings := List.getElem_mem _
  obtain ⟨-, hstored⟩ := list_options_survive_joining.2.2.1 .scan _ hs rfl
  have hitems : items.IsSequenceOf ["users", "7"] := by
    have husers : (plain "users").IsItem "users" := .text rfl
    have hseven : (plain "7").found = .scalar (.int 7) := rfl
    exact ⟨⟨none, _, rfl, .cons husers (.cons (.int hseven (by decide) (by decide)) .nil)⟩, rfl⟩
  obtain ⟨hjoined, hholds⟩ := hstored _ items hitems
  have hsame : Layer.ofDocument (sets items) = Layer.ofDocument (sets (plain "users,7")) := by
    have hbackup (v : Document) : (sets v).resolved =
        .mapping none ([] ++ (plain "backup", .mapping none [(plain "set-list", v)]) :: []) := rfl
    have hset (v : Document) : (Document.mapping none [(plain "set-list", v)]).resolved =
        .mapping none ([] ++ (plain "set-list", v) :: []) := rfl
    refine hjoined (plain "users,7") _ _ (.inr ⟨.plain, _, rfl, by decide, nofun⟩) ?_
    exact .into (hbackup _) (hbackup _) rfl (.here (hset _) (hset _) rfl)
  obtain ⟨l, hl⟩ : ∃ l, Layer.ofDocument (sets (plain "users,7")) = .ok l := ⟨_, rfl⟩
  have hread := hsame.trans hl
  refine ⟨hsame, ⟨l, hread, hholds (plain "set-list") _ _ ?_ rfl hread⟩, ?_⟩
  · exact .into rfl (List.mem_singleton_self _) rfl (.here rfl (List.mem_singleton_self _))
  · exact (list_options_survive_joining.2.1 ["users", "7"]).2 ⟨by decide, by decide⟩

end BackupControl
