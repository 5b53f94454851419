/-
# Everything after a digest

A digest is written as its standard base64, and each digest has one such text.  The text selects the
partitions from that of the digest to the last, and resumes in the first of them after the digest;
a text that is no digest selects nothing.  In a list of selectors the same text stands for the first
of these partitions alone.

Main statement: `digest_texts_correspond`.
-/
import BackupControl.Proofs.Partition.SelectorList
import BackupControl.Proofs.Text.Base64Bits

namespace BackupControl

/-! ## Texts of digests -/

/-- Characters as they stand in front of the padding of a digest: twenty-six symbols, and one more
of which the two lowest bits are zero. -/
structure HasDigestForm (front : List Char) (last : Char) : Prop where
  length : front.length = 26
  symbols : ∀ c ∈ front ++ [last], c ∈ Base64.alphabet
  spare : Base64.alphabet.idxOf last % 4 = 0

/-- The text has the form of a digest, with one character of padding at its end. -/
def IsDigestText (text : String) : Prop :=
  ∃ front last, text.toList = front ++ [last, '='] ∧ HasDigestForm front last

/-- Twenty bytes are written as twenty-seven symbols and one character of padding. -/
theorem Base64.Carries.count_of_digest {values : List Nat} {padding : Nat} {digest : List UInt8}
    (h : Carries values padding digest) (hlength : digest.length = digestLength) :
    values.length = 27 ∧ padding = 1 := by
  have htwenty : digestLength = 20 := rfl
  have hcount := h.length_eq
  have hshort := h.short
  have hcomplete := h.complete
  omega

/-- The texts that have the form of a digest are those of digests. -/
theorem isDigestText_iff {text : String} :
    IsDigestText text ↔ ∃ digest, SpellsDigest text digest := by
  simp only [SpellsDigest, ← Base64.isSpelling_iff]
  constructor
  · rintro ⟨front, last, htext, hlength, hsymbols, hspare⟩
    have hmap : front.map Base64.alphabet.idxOf ++ [Base64.alphabet.idxOf last] =
        (front ++ [last]).map Base64.alphabet.idxOf := by rw [List.map_append, List.map_singleton]
    have hsmall : ∀ v ∈ front.map Base64.alphabet.idxOf ++ [Base64.alphabet.idxOf last],
        v < 64 := by
      rw [hmap, List.forall_mem_map]
      exact fun c hc => (Base64.getD_idxOf_alphabet (hsymbols c hc)).1
    have hcomplete : 4 ∣ (front.map Base64.alphabet.idxOf).length + 2 := by
      rw [List.length_map, hlength]
      decide
    obtain ⟨digest, hcarries⟩ := (Base64.exists_carries_one_iff hsmall hcomplete).2 hspare
    refine ⟨digest, ⟨_, 1, hcarries, ?_⟩, ?_⟩
    · rw [hmap, Base64.map_getD_map_idxOf hsymbols, htext, List.append_assoc]
      rfl
    · have htwenty : digestLength = 20 := rfl
      have hcount := hcarries.length_eq
      rw [List.length_append, List.length_map, List.length_singleton, hlength] at hcount
      omega
  · rintro ⟨digest, ⟨values, padding, hcarries, htext⟩, hlength⟩
    obtain ⟨hcount, rfl⟩ := hcarries.count_of_digest hlength
    obtain rfl | ⟨front, last, rfl⟩ := List.eq_nil_or_concat' values
    · exact absurd hcount (by decide)
    · have hfront : front.length = 26 := by
        rw [List.length_append, List.length_singleton] at hcount
        omega
      have hlast := hcarries.small last (List.mem_append_right _ List.mem_cons_self)
      refine ⟨front.map (Base64.alphabet.getD · '='), Base64.alphabet.getD last '=', ?_, ?_, ?_, ?_⟩
      · rw [htext, List.map_append, List.append_assoc]
        rfl
      · rw [List.length_map, hfront]
      · have hmap : front.map (Base64.alphabet.getD · '=') ++ [Base64.alphabet.getD last '='] =
            (front ++ [last]).map (Base64.alphabet.getD · '=') := by
          rw [List.map_append, List.map_singleton]
        rw [hmap, List.forall_mem_map]
        exact fun v hv => (Base64.idxOf_getD_alphabet (hcarries.small v hv)).1
      · rw [(Base64.idxOf_getD_alphabet hlast).2]
        exact (Base64.exists_carries_one_iff hcarries.small (by omega)).1 ⟨digest, hcarries⟩

/-- A text is that of one digest. -/
theorem SpellsDigest.unique {text : String} {digest digest' : List UInt8}
    (h : SpellsDigest text digest) (h' : SpellsDigest text digest') : digest = digest' :=
  Except.ok.inj
    ((Base64.decode_eq_ok_iff.2 h.1).symm.trans (Base64.decode_eq_ok_iff.2 h'.1))

/-! ## The filter of a text -/

/-- The filter resumes after the digest, and selects the partitions from that of the digest, which
is in the low twelve bits of its first two bytes, to the last. -/
structure SelectsAfter (nameSpace : String) (digest : List UInt8) (f : PartitionFilter) :
    Prop where
  cursor : f.digest = some ⟨nameSpace, digest⟩
  start : f.start.toInt = ((digest.getD 0 0).toNat + 256 * (digest.getD 1 0).toNat) % 4096
  masked : f.start.toInt = (firstTwoBytes digest &&& 0x0fff).toNat
  last : f.start.toInt + f.count.toInt = partitionCount
  positive : 1 ≤ f.count.toInt

/-- A digest has bytes for its partition. -/
theorem partitionOf_of_length {digest : List UInt8} (hlength : digest.length = digestLength) :
    partitionOf digest = ((digest.getD 0 0).toNat + 256 * (digest.getD 1 0).toNat) % 4096 := by
  match digest, hlength with
  | low :: high :: rest, _ =>
    show (((low.toNat + 256 * high.toNat) % 4096 : Nat) : Int) = _
    rw [Int.natCast_emod, Int.natCast_add, Int.natCast_mul]
    rfl

/-- A text selects something just if it spells a digest, and that is everything after it. -/
theorem filterAfterDigest_eq_ok_iff {nameSpace text : String} {f : PartitionFilter} :
    filterAfterDigest nameSpace text = .ok f ↔
      ∃ digest, SpellsDigest text digest ∧
        f = DigestCursor.filter ⟨nameSpace, digest⟩ (partitionCount - partitionOf digest) := by
  rw [filterAfterDigest, map_eq_ok_iff]
  constructor
  · rintro ⟨⟨_, digest⟩, hread, rfl⟩
    obtain ⟨rfl, hspelled⟩ := readDigest_eq_ok_iff.1 hread
    exact ⟨digest, hspelled, rfl⟩
  · rintro ⟨digest, hspelled, rfl⟩
    exact ⟨⟨nameSpace, digest⟩, readDigest_eq_ok_iff.2 ⟨rfl, hspelled⟩, rfl⟩

/-- The filter of everything after a digest selects just that. -/
theorem selectsAfter_filter {digest : List UInt8} (hlength : digest.length = digestLength)
    (nameSpace : String) :
    SelectsAfter nameSpace digest
      (DigestCursor.filter ⟨nameSpace, digest⟩ (partitionCount - partitionOf digest)) := by
  have hpartitions : partitionCount = 4096 := rfl
  obtain ⟨hleast, hmost⟩ := partitionOf_bounds digest
  have hstart : (Int32.ofInt (partitionOf digest)).toInt = partitionOf digest :=
    Int32.toInt_ofInt_of_le (by omega) (by omega)
  have hcount : (Int32.ofInt (partitionCount - partitionOf digest)).toInt =
      partitionCount - partitionOf digest :=
    Int32.toInt_ofInt_of_le (by omega) (by omega)
  exact {
    cursor := rfl
    start := hstart.trans (partitionOf_of_length hlength)
    masked := hstart.trans (partitionOf_eq digest)
    last := by
      rw [DigestCursor.filter, hstart, hcount]
      omega
    positive := by
      rw [DigestCursor.filter, hcount]
      omega }

/-- The filter of a text shows the namespace and the text. -/
theorem filterAfterDigest_inj {nameSpace nameSpace' text text' : String} {f : PartitionFilter}
    (h : filterAfterDigest nameSpace text = .ok f)
    (h' : filterAfterDigest nameSpace' text' = .ok f) : nameSpace = nameSpace' ∧ text = text' := by
  obtain ⟨digest, ⟨rfl, -⟩, rfl⟩ := filterAfterDigest_eq_ok_iff.1 h
  obtain ⟨digest', ⟨rfl, -⟩, hsame⟩ := filterAfterDigest_eq_ok_iff.1 h'
  obtain ⟨rfl, rfl⟩ := DigestCursor.mk.inj (Option.some.inj (congrArg (·.digest) hsame))
  exact ⟨rfl, rfl⟩

/-- A digest is refused as such. -/
theorem exists_fault_of_readDigest {nameSpace text : String} {fault : SelectorFault}
    (h : readDigest nameSpace text = .error fault) : ∃ why, fault = .digest text why := by
  unfold readDigest at h
  split at h
  · exact ⟨_, (Except.error.inj h).symm⟩
  · split at h
    · exact absurd h nofun
    · exact ⟨_, (Except.error.inj h).symm⟩

/-- A text selects something just if it looks like a digest. -/
theorem exists_filterAfterDigest_iff {nameSpace text : String} :
    (∃ f, filterAfterDigest nameSpace text = .ok f) ↔ IsDigestText text := by
  rw [isDigestText_iff]
  constructor
  · rintro ⟨f, hf⟩
    obtain ⟨digest, hspelled, -⟩ := filterAfterDigest_eq_ok_iff.1 hf
    exact ⟨digest, hspelled⟩
  · rintro ⟨digest, hspelled⟩
    exact ⟨_, filterAfterDigest_eq_ok_iff.2 ⟨digest, hspelled, rfl⟩⟩

/-- A text that does not look like a digest is refused as one. -/
theorem filterAfterDigest_eq_error {nameSpace text : String} (h : ¬ IsDigestText text) :
    ∃ fault, filterAfterDigest nameSpace text = .error (.digest text fault) := by
  cases hread : filterAfterDigest nameSpace text with
  | ok f => exact absurd (exists_filterAfterDigest_iff.1 ⟨f, hread⟩) h
  | error fault =>
    obtain ⟨why, rfl⟩ := exists_fault_of_readDigest (map_eq_error_iff.1 hread)
    exact ⟨why, rfl⟩

/-! ## The same text in a list -/

/-- The filter of an entry has a cursor just if the entry looks like a digest, and is then the first
partition of everything after it. -/
structure ReadsAfter (nameSpace entry : String) (g : PartitionFilter) : Prop where
  hasDigest : g.digest.isSome = true ↔ IsDigestText entry
  first : ∀ f, filterAfterDigest nameSpace entry = .ok f → g = { f with count := 1 }

/-- The filter that an entry stands for agrees with that of everything after the same text. -/
theorem Selects.readsAfter {nameSpace entry : String} {g : PartitionFilter}
    (h : Selects nameSpace entry g) : ReadsAfter nameSpace entry g where
  hasDigest := by rw [isDigestText_iff, h.readFrom.hasDigest]
  first := by
    intro f hf
    obtain ⟨digest, hspelled, rfl⟩ := filterAfterDigest_eq_ok_iff.1 hf
    obtain ⟨digest', hspelled', rfl⟩ := h.exists_digest (isNumericSelector_of_spellsDigest hspelled)
    rw [hspelled.unique hspelled']
    rfl

/-- The text of a digest alone is a list of one entry. -/
theorem readPartitionList_of_filterAfterDigest {nameSpace text : String} {f : PartitionFilter}
    (h : filterAfterDigest nameSpace text = .ok f) :
    readPartitionList nameSpace text = .ok [{ f with count := 1 }] := by
  obtain ⟨digest, ⟨rfl, hlength⟩, rfl⟩ := filterAfterDigest_eq_ok_iff.1 h
  have hrange : ∀ s ∈ [Selector.digest digest], s.InRange :=
    List.forall_mem_singleton.2 hlength
  exact readPartitionList_joinCommas (List.cons_ne_nil _ _) hrange nameSpace

/-- **Texts of digests correspond to digests.**

* Each digest has one text, its standard base64; the text selects the partitions from that of the
  digest to the last, and resumes after the digest.
* Each text that selects something is that of the digest in its filter.
* So no two texts, and no two namespaces, have the same filter.
* Only texts of twenty-seven symbols and one character of padding, with zeros in the bits to spare,
  select something; every other text is refused as a digest.
* In a list of selectors just such texts have a cursor, and their filter there has the cursor and
  the start of everything after the digest; such a text alone is a list as well. -/
theorem digest_texts_correspond :
    (∀ nameSpace digest, digest.length = digestLength →
      (∃! text, Base64.IsSpelling digest text) ∧
      ∀ text, Base64.IsSpelling digest text →
        ∃ f, filterAfterDigest nameSpace text = .ok f ∧ SelectsAfter nameSpace digest f) ∧
    (∀ nameSpace text f, filterAfterDigest nameSpace text = .ok f →
      ∃ digest, digest.length = digestLength ∧ f.digest = some ⟨nameSpace, digest⟩ ∧
        Base64.IsSpelling digest text) ∧
    (∀ nameSpace nameSpace' text text' f, filterAfterDigest nameSpace text = .ok f →
      filterAfterDigest nameSpace' text' = .ok f → nameSpace = nameSpace' ∧ text = text') ∧
    (∀ nameSpace text,
      ((∃ f, filterAfterDigest nameSpace text = .ok f) ↔ IsDigestText text) ∧
      (¬ IsDigestText text →
        ∃ fault, filterAfterDigest nameSpace text = .error (.digest text fault))) ∧
    (∀ nameSpace list filters, readPartitionList nameSpace list = .ok filters →
      List.Forall₂ (ReadsAfter nameSpace)
        ((commaPieces list.toList).map String.ofList) filters) ∧
    ∀ nameSpace text f, filterAfterDigest nameSpace text = .ok f →
      readPartitionList nameSpace text = .ok [{ f with count := 1 }] := by
  refine ⟨fun nameSpace digest hlength => ⟨?_, ?_⟩, ?_, ?_, ?_, ?_, ?_⟩
  · exact ⟨Base64.encode digest, Base64.isSpelling_iff.2 rfl,
      fun text htext => (Base64.isSpelling_iff.1 htext).symm⟩
  · intro text htext
    have hspelled : SpellsDigest text digest := ⟨Base64.isSpelling_iff.1 htext, hlength⟩
    exact ⟨_, filterAfterDigest_eq_ok_iff.2 ⟨digest, hspelled, rfl⟩,
      selectsAfter_filter hlength nameSpace⟩
  · intro nameSpace text f hf
    obtain ⟨digest, ⟨hspelled, hlength⟩, rfl⟩ := filterAfterDigest_eq_ok_iff.1 hf
    exact ⟨digest, hlength, rfl, Base64.isSpelling_iff.2 hspelled⟩
  · exact fun _ _ _ _ _ => filterAfterDigest_inj
  · exact fun _ _ => ⟨exists_filterAfterDigest_iff, filterAfterDigest_eq_error⟩
  · exact fun _ _ _ h => (readPartitionList_eq_ok_iff.1 h).imp fun _ _ hselects =>
      hselects.readsAfter
  · exact fun _ _ _ => readPartitionList_of_filterAfterDigest

end BackupControl
