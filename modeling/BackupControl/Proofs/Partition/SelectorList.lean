/-
# Lists of selectors

A list of selectors is written with commas between them, and read back as their filters, in
order.  Whatever list is read, its filters lie within the namespace, so nothing wraps in
arithmetic of thirty-two bits, no run is cut off, and no count is refused afterwards.
-/
import BackupControl.Proofs.Partition.Offence
import BackupControl.Proofs.Partition.Selection

namespace BackupControl

/-! ## Selectors and their spelling -/

/-- One selector of a list: a partition, a partition and a count, or a digest. -/
inductive Selector where
  | point (first : Nat)
  | run (first count : Nat)
  | digest (bytes : List UInt8)

namespace Selector

/-- The spelling of a selector: numbers in decimal with a hyphen between, a digest in base64. -/
def text : Selector → String
  | point first => first.repr
  | run first count => first.repr ++ "-" ++ count.repr
  | digest bytes => Base64.encode bytes

/-- The partitions of a selector are partitions of a namespace, and a digest has its length. -/
def InRange : Selector → Prop
  | point first => first < partitionCount
  | run first count => first < partitionCount ∧ 1 ≤ count ∧ count ≤ partitionCount - first
  | digest bytes => bytes.length = digestLength

/-- The filter of a selector. -/
def filter (nameSpace : String) : Selector → PartitionFilter
  | point first => { start := Int32.ofInt first, count := 1 }
  | run first count => { start := Int32.ofInt first, count := Int32.ofInt count }
  | digest bytes =>
    { start := Int32.ofInt (partitionOf bytes), count := 1, digest := some ⟨nameSpace, bytes⟩ }

variable {s : Selector}

/-- A number is written as digits of its value. -/
theorem isDigits_repr (n : Nat) : IsDigits n.repr.toList ∧ decimalValue n.repr.toList = n := by
  rw [Nat.toList_repr]
  exact isDigits_toDigits n

/-- The spelling of a selector in range stands for its filter. -/
theorem InRange.selects (h : s.InRange) (nameSpace : String) :
    Selects nameSpace s.text (s.filter nameSpace) := by
  cases s with
  | point first =>
    obtain ⟨hdigits, hvalue⟩ := isDigits_repr first
    have hselects : Selects nameSpace (String.ofList first.repr.toList) _ :=
      .single hdigits (by rw [hvalue]; exact h)
    rw [String.ofList_toList, hvalue] at hselects
    exact hselects
  | run first count =>
    obtain ⟨hwithin, hpositive, hfits⟩ := h
    obtain ⟨hfirst, hfirstValue⟩ := isDigits_repr first
    obtain ⟨hcount, hcountValue⟩ := isDigits_repr count
    have hselects : Selects nameSpace
        (String.ofList (first.repr.toList ++ '-' :: count.repr.toList)) _ :=
      .range hfirst hcount (by rw [hfirstValue]; exact hwithin)
        (by rw [hcountValue]; exact hpositive) (by rw [hfirstValue, hcountValue]; omega)
    have htext : String.ofList (first.repr.toList ++ '-' :: count.repr.toList) =
        (run first count).text := by
      rw [← String.toList_inj, String.toList_ofList, text, String.toList_append,
        String.toList_append, List.append_assoc]
      rfl
    rw [htext, hfirstValue, hcountValue] at hselects
    exact hselects
  | digest bytes => exact .digest ⟨rfl, h⟩

/-- No digits have a comma. -/
theorem comma_notMem_repr (n : Nat) : ',' ∉ n.repr.toList :=
  fun h => absurd ((isDigits_repr n).1.digits ',' h) (by decide)

/-- No spelling of a selector has a comma. -/
theorem comma_notMem_text (s : Selector) : ',' ∉ s.text.toList := by
  cases s with
  | point first => exact comma_notMem_repr first
  | run first count =>
    rw [text, String.toList_append, String.toList_append, List.mem_append, List.mem_append]
    rintro ((h | h) | h)
    · exact comma_notMem_repr first h
    · exact absurd h (by decide)
    · exact comma_notMem_repr count h
  | digest bytes => exact Base64.comma_notMem_encode bytes

end Selector

/-- A list of selectors in range is read as their filters, in order. -/
theorem readPartitionList_joinCommas {selectors : List Selector} (hsome : selectors ≠ [])
    (hrange : ∀ s ∈ selectors, s.InRange) (nameSpace : String) :
    readPartitionList nameSpace (joinCommas (selectors.map (·.text))) =
      .ok (selectors.map (·.filter nameSpace)) := by
  have hcomma : ∀ item ∈ selectors.map (·.text), ',' ∉ item.toList := by
    intro item hitem
    obtain ⟨s, -, rfl⟩ := List.mem_map.1 hitem
    exact s.comma_notMem_text
  rw [readPartitionList_eq_ok_iff,
    commaPieces_joinCommas (fun h => hsome (List.map_eq_nil_iff.1 h)) hcomma,
    List.forall₂_map_left_iff, List.forall₂_map_right_iff, List.forall₂_same]
  exact fun s hs => (hrange s hs).selects nameSpace

/-! ## Filters within the namespace -/

/-- The partitions of a filter are partitions of the namespace, and there is at least one. -/
structure PartitionFilter.Within (f : PartitionFilter) : Prop where
  least : 0 ≤ f.start.toInt
  positive : 1 ≤ f.count.toInt
  most : f.start.toInt + f.count.toInt ≤ partitionCount

/-- The number of sixteen bits in the first two bytes, the lower byte first. -/
def firstTwoBytes : List UInt8 → UInt16
  | low :: high :: _ => low.toUInt16 ||| high.toUInt16 <<< 8
  | _ => 0

/-- The partition of a digest is in the low twelve bits of its first two bytes. -/
theorem partitionOf_eq (digest : List UInt8) :
    partitionOf digest = (firstTwoBytes digest &&& 0x0fff).toNat := by
  match digest with
  | [] => rfl
  | [_] => simp [partitionOf, firstTwoBytes]
  | low :: high :: rest =>
    have hlow : low.toNat < 2 ^ 8 := low.toNat_lt
    have hhigh : high.toNat < 2 ^ 8 := high.toNat_lt
    have hshift : (high.toUInt16 <<< 8).toNat = high.toNat <<< 8 := by
      rw [UInt16.toNat_shiftLeft, UInt8.toNat_toUInt16]
      have height : (8 : UInt16).toNat % 16 = 8 := rfl
      rw [height, Nat.shiftLeft_eq, Nat.mod_eq_of_lt (by omega)]
    have hmask : (0x0fff : UInt16).toNat = 2 ^ 12 - 1 := rfl
    rw [partitionOf, firstTwoBytes, UInt16.toNat_and, UInt16.toNat_or, hshift,
      UInt8.toNat_toUInt16, hmask, Nat.and_two_pow_sub_one_eq_mod, Nat.or_comm,
      ← Nat.shiftLeft_add_eq_or_of_lt hlow, Nat.shiftLeft_eq]
    omega

/-- What a filter of a list has to do with the entry that it was read from. -/
structure ReadFrom (nameSpace entry : String) (f : PartitionFilter) : Prop where
  within : f.Within
  hasDigest : f.digest.isSome = true ↔ ∃ digest, SpellsDigest entry digest
  ofDigest : ∀ cursor, f.digest = some cursor →
    cursor.nameSpace = nameSpace ∧ SpellsDigest entry cursor.digest ∧ f.count = 1 ∧
      f.start.toInt = (firstTwoBytes cursor.digest &&& 0x0fff).toNat

/-- A filter of a run of the namespace is within it, since numbers up to there have few enough
bits. -/
theorem within_of_eq {f : PartitionFilter} {start count : Int}
    (hstart : f.start = Int32.ofInt start) (hcount : f.count = Int32.ofInt count)
    (hleast : 0 ≤ start) (hpositive : 1 ≤ count) (hmost : start + count ≤ partitionCount) :
    f.Within := by
  have hpartitions : partitionCount = 4096 := rfl
  have hstart : f.start.toInt = start := by
    rw [hstart, Int32.toInt_ofInt_of_le (by omega) (by omega)]
  have hcount : f.count.toInt = count := by
    rw [hcount, Int32.toInt_ofInt_of_le (by omega) (by omega)]
  exact ⟨by rw [hstart]; exact hleast, by rw [hcount]; exact hpositive,
    by rw [hstart, hcount]; exact hmost⟩

/-- No numeric entry is a digest. -/
theorem not_spellsDigest_of_numeric {cs : List Char} (h : isNumericSelector cs = true)
    (digest : List UInt8) : ¬ SpellsDigest (String.ofList cs) digest := by
  intro hspelled
  have hnumeric := isNumericSelector_of_spellsDigest hspelled
  rw [String.toList_ofList, h] at hnumeric
  exact absurd hnumeric nofun

/-- The filter that an entry stands for lies within the namespace, and has a cursor just if the
entry is a digest. -/
theorem Selects.readFrom {nameSpace entry : String} {f : PartitionFilter}
    (h : Selects nameSpace entry f) : ReadFrom nameSpace entry f := by
  have hone : (1 : Int32) = Int32.ofInt 1 := rfl
  cases h with
  | single hdigits hwithin =>
    exact {
      within := within_of_eq rfl hone (by omega) (by decide) (by omega)
      hasDigest := ⟨nofun, fun ⟨_, hspelled⟩ =>
        absurd hspelled (not_spellsDigest_of_numeric hdigits.isNumericSelector _)⟩
      ofDigest := nofun }
  | range hfirst hcount hwithin hpositive hfits =>
    exact {
      within := within_of_eq rfl rfl (by omega) (by omega) hfits
      hasDigest := ⟨nofun, fun ⟨_, hspelled⟩ =>
        absurd hspelled (not_spellsDigest_of_numeric (isNumericSelector_append hfirst hcount) _)⟩
      ofDigest := nofun }
  | @digest _ bytes hspelled =>
    obtain ⟨hleast, hmost⟩ := partitionOf_bounds bytes
    have hpartitions : partitionCount = 4096 := rfl
    have hstart : (Int32.ofInt (partitionOf bytes)).toInt = partitionOf bytes :=
      Int32.toInt_ofInt_of_le (by omega) (by omega)
    exact {
      within := within_of_eq rfl hone hleast (by decide) (by omega)
      hasDigest := ⟨fun _ => ⟨bytes, hspelled⟩, fun _ => rfl⟩
      ofDigest := by
        intro cursor hcursor
        obtain rfl := Option.some.inj hcursor
        exact ⟨rfl, hspelled, rfl, by rw [hstart, partitionOf_eq]⟩ }

/-! ## Arithmetic of thirty-two bits -/

/-- The filter of a start and a count in arithmetic of thirty-two bits, which may wrap. -/
def readRangeWrapping (startText countText : String) : Except RangeFault PartitionFilter :=
  match readSmallInt? startText with
  | none => .error .startNotANumber
  | some start =>
    match readSmallInt? countText with
    | none => .error .countNotANumber
    | some count =>
      let start := Int32.ofInt start
      let count := Int32.ofInt count
      if ¬ (0 ≤ start ∧ start < 4096) then .error .startOutOfRange
      else if count < 1 then .error .countTooSmall
      else if 4096 - start < count then .error .pastTheEnd
      else .ok { start := start, count := count }

/-- Numbers that are read have few enough bits. -/
theorem toInt_ofInt_of_readSmallInt? {s : String} {n : Int} (h : readSmallInt? s = some n) :
    (Int32.ofInt n).toInt = n := by
  obtain ⟨-, hleast, hmost⟩ := readSmallInt?_eq_some_iff.1 h
  have hlimit : twoTo 31 = 2147483648 := by decide
  exact Int32.toInt_ofInt_of_le (by omega) (by omega)

/-- Nothing wraps where a start and a count are read, whatever their texts. -/
theorem readRange_eq_readRangeWrapping (startText countText : String) :
    readRange startText countText = readRangeWrapping startText countText := by
  unfold readRange readRangeWrapping
  cases hstart : readSmallInt? startText with
  | none => rfl
  | some start =>
    cases hcount : readSmallInt? countText with
    | none => rfl
    | some count =>
      have hstart := toInt_ofInt_of_readSmallInt? hstart
      have hcount := toInt_ofInt_of_readSmallInt? hcount
      have hzero : (0 : Int32).toInt = 0 := rfl
      have hone : (1 : Int32).toInt = 1 := rfl
      have hall : (4096 : Int32).toInt = partitionCount := rfl
      have hinside : (start < 0 ∨ partitionCount ≤ start) ↔
          ¬ (0 ≤ Int32.ofInt start ∧ Int32.ofInt start < 4096) := by
        rw [Int32.le_iff_toInt_le, Int32.lt_iff_toInt_lt, hstart, hzero, hall]
        omega
      have hfew : count < 1 ↔ Int32.ofInt count < 1 := by
        rw [Int32.lt_iff_toInt_lt, hcount, hone]
      simp only [hinside, hfew]
      split
      · rfl
      · split
        · rfl
        · rename_i hin _
          -- what is left after a start within the namespace has few enough bits
          have hwithin := mt hinside.1 hin
          have hpartitions : partitionCount = 4096 := rfl
          have hroom : partitionCount - start < count ↔
              4096 - Int32.ofInt start < Int32.ofInt count := by
            rw [Int32.lt_iff_toInt_lt, Int32.toInt_sub, hstart, hcount, hall,
              Int.bmod_eq_of_le (by omega) (by omega)]
          simp only [hroom]

/-! ## What a scan selects -/

namespace PartitionFilter.Within

variable {f : PartitionFilter}

/-- Every partition of the namespace. -/
theorem all : PartitionFilter.all.Within := by
  have hstart : PartitionFilter.all.start = Int32.ofInt 0 := rfl
  have hcount : PartitionFilter.all.count = Int32.ofInt partitionCount := rfl
  exact within_of_eq hstart hcount (by decide) (by decide) (by decide)

/-- The run after a digest. -/
theorem afterDigest (cursor : DigestCursor) :
    (cursor.filter (partitionCount - partitionOf cursor.digest)).Within := by
  obtain ⟨hleast, hmost⟩ := partitionOf_bounds cursor.digest
  exact within_of_eq rfl rfl hleast (by omega) (by omega)

/-- The last partition of a run is the one that its start and its count give. -/
theorem last_interval (h : f.Within) : f.interval.last = f.start.toInt + (f.count.toInt - 1) := by
  have hpartitions : partitionCount = 4096 := rfl
  have hlimit : twoTo 31 = 2147483648 := by decide
  have hmost := h.most
  exact Int.min_eq_left (by omega)

/-- The count is not refused. -/
theorem not_lt_one (h : f.Within) : ¬ f.count < 1 := by
  have hone : (1 : Int32).toInt = 1 := rfl
  have hpositive := h.positive
  rw [Int32.lt_iff_toInt_lt, hone]
  omega

end PartitionFilter.Within

/-- Each entry of a list that is read has its filter. -/
theorem readFrom_of_readPartitionList {nameSpace list : String} {filters : List PartitionFilter}
    (h : readPartitionList nameSpace list = .ok filters) :
    List.Forall₂ (ReadFrom nameSpace) ((commaPieces list.toList).map String.ofList) filters :=
  (readPartitionList_eq_ok_iff.1 h).imp fun _ _ hselects => hselects.readFrom

/-- The filters of entries lie within the namespace. -/
theorem within_of_forall₂ {nameSpace : String} {entries : List String}
    {filters : List PartitionFilter} (h : List.Forall₂ (ReadFrom nameSpace) entries filters) :
    ∀ f ∈ filters, f.Within := by
  induction h with
  | nil => exact fun f hf => absurd hf List.not_mem_nil
  | cons hread _ ih =>
    rw [List.forall_mem_cons]
    exact ⟨hread.within, ih⟩

/-- Filters that all have partitions are not refused for a count. -/
theorem not_firstOffence_badCount {before fs : List PartitionFilter} {count : Int}
    (hcounts : ∀ f ∈ fs, ¬ f.count < 1) : ¬ FirstOffence before fs (.badCount count) := by
  -- the filters that were passed vary in the induction
  induction fs generalizing before with
  | nil => exact nofun
  | cons f fs ih =>
    rw [List.forall_mem_cons] at hcounts
    rintro (h | ⟨-, h⟩)
    · cases h with
      | badCount hcount => exact hcounts.1 hcount
    · exact ih hcounts.2 h

/-- The check for overlaps does not refuse a count where all filters have partitions. -/
theorem checkPartitions_ne_badCount {filters : List PartitionFilter}
    (hcounts : ∀ f ∈ filters, ¬ f.count < 1) (count : Int) :
    checkPartitions filters ≠ .error (.badCount count) := by
  intro h
  by_cases hoffence : ∃ other, FirstOffence [] filters other
  · obtain ⟨other, hother⟩ := hoffence
    obtain rfl := Except.error.inj (h.symm.trans (checkPartitions_of_firstOffence hother))
    exact not_firstOffence_badCount hcounts hother
  · obtain ⟨_, _, -, hoverlap⟩ :=
      exists_overlap_of_checkPartitions h fun other hother => hoffence ⟨other, hother⟩
    exact absurd hoverlap.fault nofun

namespace Scan

variable {g : Scan Settled}

/-- What a scan selects lies within the namespace. -/
theorem within_of_selectedPartitions {filters : List PartitionFilter}
    (h : g.selectedPartitions = .ok filters) : ∀ f ∈ filters, f.Within := by
  unfold selectedPartitions at h
  split at h
  · rw [during_eq_ok_iff, mapError_eq_ok_iff, filterAfterDigest, map_eq_ok_iff] at h
    obtain ⟨f, hf, rfl⟩ := h
    obtain ⟨cursor, -, rfl⟩ := map_eq_ok_iff.1 hf
    exact List.forall_mem_singleton.2 (.afterDigest cursor)
  · split at h
    · rw [during_eq_ok_iff, mapError_eq_ok_iff] at h
      exact within_of_forall₂ (readFrom_of_readPartitionList h)
    · obtain rfl := Except.ok.inj h
      exact List.forall_mem_singleton.2 .all

/-- A scan is not refused for the count of a filter. -/
theorem partitionFilters_ne_badCount (count : Int) :
    g.partitionFilters ≠
      .error (.during .checkingPartitions (.violation (.partitions (.badCount count)))) := by
  intro h
  rw [partitionFilters, bind_eq_error_iff] at h
  rcases h with hselected | ⟨filters, hselected, hchecked⟩
  · -- reading what is selected is an activity of its own
    unfold selectedPartitions at hselected
    split at hselected
    · obtain ⟨_, -, hsame⟩ := during_eq_error_iff.1 hselected
      cases hsame
    · split at hselected
      · obtain ⟨_, -, hsame⟩ := during_eq_error_iff.1 hselected
        cases hsame
      · cases hselected
  · have hcounts : ∀ f ∈ filters, ¬ f.count < 1 :=
      fun f hf => (within_of_selectedPartitions hselected f hf).not_lt_one
    rcases bind_eq_error_iff.1 hchecked with hcheck | ⟨_, -, hpure⟩
    · obtain ⟨_, hcheck, hcause⟩ := during_eq_error_iff.1 hcheck
      obtain rfl := (Failure.during.inj hcause).2
      obtain ⟨_, hcheck, hviolation⟩ := mapError_eq_error_iff.1 hcheck
      obtain rfl := Failure.violation.inj hviolation
      obtain ⟨_, hcheck, hfault⟩ := mapError_eq_error_iff.1 hcheck
      obtain rfl := Violation.partitions.inj hfault
      exact checkPartitions_ne_badCount hcounts count hcheck
    · exact absurd hpure pure_ne_error

end Scan

/-! ## The language of lists -/

/-- **What a list of selectors is read as.**

* Selectors of partitions of the namespace and of digests, written with commas between them, are
  read as their filters, in order.
* Of whatever list is read, each entry has one filter; its partitions are partitions of the
  namespace, at least one; and it has a cursor just if the entry is a digest, and then selects the
  one partition given by the low twelve bits of the first two bytes, the lower byte first.
* No digest is taken for numbers.
* Arithmetic of thirty-two bits, which wraps, reads a start and a count no differently.
* So what a scan selects is never refused for a count, and no run of it is cut off. -/
theorem readPartitionList_inverts_and_bounds (nameSpace : String) :
    (∀ selectors : List Selector, selectors ≠ [] → (∀ s ∈ selectors, s.InRange) →
      readPartitionList nameSpace (joinCommas (selectors.map (·.text))) =
        .ok (selectors.map (·.filter nameSpace))) ∧
    (∀ list filters, readPartitionList nameSpace list = .ok filters →
      List.Forall₂ (ReadFrom nameSpace) ((commaPieces list.toList).map String.ofList) filters) ∧
    (∀ text digest, SpellsDigest text digest → isNumericSelector text.toList = false) ∧
    (∀ startText countText,
      readRange startText countText = readRangeWrapping startText countText) ∧
    ∀ g : Scan Settled,
      (∀ count, g.partitionFilters ≠
        .error (.during .checkingPartitions (.violation (.partitions (.badCount count))))) ∧
      ∀ filters, g.selectedPartitions = .ok filters → ∀ f ∈ filters,
        f.interval.last = f.start.toInt + (f.count.toInt - 1) := by
  refine ⟨fun selectors hsome hrange => ?_, fun list filters => readFrom_of_readPartitionList,
    fun text digest => isNumericSelector_of_spellsDigest, readRange_eq_readRangeWrapping,
    fun g => ⟨g.partitionFilters_ne_badCount, fun filters hselected f hf => ?_⟩⟩
  · exact readPartitionList_joinCommas hsome hrange nameSpace
  · exact (Scan.within_of_selectedPartitions hselected f hf).last_interval

end BackupControl
