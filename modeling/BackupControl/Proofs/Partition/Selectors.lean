/-
# What a list of selectors accepts

A selector is the number of a partition, such a number and a count with a hyphen between, or the
base64 of a digest.  No digest is taken for numbers, since its spelling ends in padding.
-/
import BackupControl.Partition.Filter
import BackupControl.Proofs.Numeric.IntegerLiteral
import BackupControl.Proofs.Text.Base64
import Mathlib.Data.List.TakeWhile

namespace BackupControl

/-! ## Digests -/

/-- A text is the base64 of a digest. -/
def SpellsDigest (text : String) (digest : List UInt8) : Prop :=
  Base64.encode digest = text ∧ digest.length = digestLength

/-- A cursor is read just if the text spells its digest. -/
theorem readDigest_eq_ok_iff {nameSpace text : String} {cursor : DigestCursor} :
    readDigest nameSpace text = .ok cursor ↔
      cursor.nameSpace = nameSpace ∧ SpellsDigest text cursor.digest := by
  unfold readDigest SpellsDigest
  split
  · rename_i fault hfault
    refine ⟨nofun, fun ⟨_, hspelled, _⟩ => ?_⟩
    exact absurd (hfault.symm.trans (Base64.decode_eq_ok_iff.2 hspelled)) nofun
  · rename_i bytes hbytes
    have hspelled := Base64.decode_eq_ok_iff.1 hbytes
    split
    · rename_i hlength
      constructor
      · intro h
        obtain rfl := Except.ok.inj h
        exact ⟨rfl, hspelled, hlength⟩
      · rintro ⟨rfl, hspelled', -⟩
        have hsame := Base64.decode_eq_ok_iff.2 hspelled'
        rw [Except.ok.inj (hbytes.symm.trans hsame)]
    · rename_i hlength
      refine ⟨nofun, fun ⟨_, hspelled', hlength'⟩ => ?_⟩
      have hsame := Base64.decode_eq_ok_iff.2 hspelled'
      rw [← Except.ok.inj (hbytes.symm.trans hsame)] at hlength'
      exact absurd hlength' hlength

/-- The partition of a digest is one of the namespace. -/
theorem partitionOf_bounds (digest : List UInt8) :
    0 ≤ partitionOf digest ∧ partitionOf digest < partitionCount := by
  unfold partitionOf partitionCount
  split
  · omega
  · decide

/-! ## Numbers -/

/-- A number of thirty-two bits is read just if the text is a literal of it. -/
theorem readSmallInt?_eq_some_iff {s : String} {n : Int} :
    readSmallInt? s = some n ↔
      IntegerLiteral s.toList n ∧ -(twoTo 31 : Int) ≤ n ∧ n ≤ (twoTo 31 - 1 : Nat) := by
  rw [readSmallInt?, toOption_eq_some_iff, readInteger_eq_ok_iff (by decide)]

/-- The texts of a start and a count name a run of partitions of the namespace. -/
structure NamesRun (startText countText : String) (start count : Int) : Prop where
  startLiteral : IntegerLiteral startText.toList start
  countLiteral : IntegerLiteral countText.toList count
  least : 0 ≤ start
  within : start < partitionCount
  positive : 1 ≤ count
  fits : start + count ≤ partitionCount

/-- The texts of a run are read as its numbers, which have few enough bits. -/
theorem NamesRun.readSmallInt?_eq {startText countText : String} {start count : Int}
    (h : NamesRun startText countText start count) :
    readSmallInt? startText = some start ∧ readSmallInt? countText = some count := by
  obtain ⟨hstart, hcount, hleast, hwithin, hpositive, hfits⟩ := h
  have hlimit : twoTo 31 = 2147483648 := by decide
  have hpartitions : partitionCount = 4096 := rfl
  exact ⟨readSmallInt?_eq_some_iff.2 ⟨hstart, by omega, by omega⟩,
    readSmallInt?_eq_some_iff.2 ⟨hcount, by omega, by omega⟩⟩

/-- A range is read just if its texts name a run of partitions. -/
theorem readRange_eq_ok_iff {startText countText : String} {f : PartitionFilter} :
    readRange startText countText = .ok f ↔
      ∃ start count, NamesRun startText countText start count ∧
        f = { start := Int32.ofInt start, count := Int32.ofInt count } := by
  unfold readRange
  split
  · rename_i hnone
    refine ⟨nofun, fun ⟨_, _, h, _⟩ => ?_⟩
    exact absurd (hnone.symm.trans h.readSmallInt?_eq.1) nofun
  · rename_i start hstart
    split
    · rename_i hnone
      refine ⟨nofun, fun ⟨_, _, h, _⟩ => ?_⟩
      exact absurd (hnone.symm.trans h.readSmallInt?_eq.2) nofun
    · rename_i count hcount
      -- a text is a literal of one number only, so the run it names is the one that was read
      have hnumbers : ∀ {m n : Int}, NamesRun startText countText m n → m = start ∧ n = count := by
        intro m n h
        obtain ⟨hm, hn⟩ := h.readSmallInt?_eq
        exact ⟨Option.some.inj (hm.symm.trans hstart), Option.some.inj (hn.symm.trans hcount)⟩
      by_cases hrun : NamesRun startText countText start count
      · have hleast := hrun.least
        have hwithin := hrun.within
        have hpositive := hrun.positive
        have hfits := hrun.fits
        rw [if_neg (by omega), if_neg (by omega), if_neg (by omega)]
        constructor
        · intro h
          exact ⟨start, count, hrun, (Except.ok.inj h).symm⟩
        · rintro ⟨m, n, h, rfl⟩
          obtain ⟨rfl, rfl⟩ := hnumbers h
          rfl
      · constructor
        · intro h
          -- a result is given only where all bounds are met
          refine absurd ?_ hrun
          obtain ⟨hstartLiteral, -⟩ := readSmallInt?_eq_some_iff.1 hstart
          obtain ⟨hcountLiteral, -⟩ := readSmallInt?_eq_some_iff.1 hcount
          split at h
          · exact absurd h nofun
          · split at h
            · exact absurd h nofun
            · split at h
              · exact absurd h nofun
              · exact ⟨hstartLiteral, hcountLiteral, by omega, by omega, by omega, by omega⟩
        · rintro ⟨m, n, h, -⟩
          obtain ⟨rfl, rfl⟩ := hnumbers h
          exact absurd h hrun

/-! ## Selectors -/

/-- The filter that a selector stands for. -/
inductive Selects (nameSpace : String) : String → PartitionFilter → Prop where
  | single {digits : List Char} (hdigits : IsDigits digits)
      (hwithin : decimalValue digits < partitionCount) :
      Selects nameSpace (String.ofList digits)
        { start := Int32.ofInt (decimalValue digits), count := 1 }
  | range {first count : List Char} (hfirst : IsDigits first) (hcount : IsDigits count)
      (hwithin : decimalValue first < partitionCount) (hpositive : 1 ≤ decimalValue count)
      (hfits : decimalValue first + decimalValue count ≤ partitionCount) :
      Selects nameSpace (String.ofList (first ++ '-' :: count))
        { start := Int32.ofInt (decimalValue first), count := Int32.ofInt (decimalValue count) }
  | digest {text : String} {digest : List UInt8} (hspelled : SpellsDigest text digest) :
      Selects nameSpace text
        { start := Int32.ofInt (partitionOf digest), count := 1,
          digest := some ⟨nameSpace, digest⟩ }

/-- A literal without a plus sign is digits, if it has no minus sign or is positive. -/
theorem IntegerLiteral.isDigits {cs : List Char} {n : Int} (h : IntegerLiteral cs n)
    (hplus : '+' ∉ cs) (hminus : '-' ∉ cs ∨ 0 < n) : IsDigits cs ∧ n = decimalValue cs := by
  cases h with
  | plain hdigits => exact ⟨hdigits, rfl⟩
  | plus => exact absurd List.mem_cons_self hplus
  | minus =>
    rcases hminus with hminus | hpositive
    · exact absurd List.mem_cons_self hminus
    · omega

/-- A selector is numeric just if it has digits and hyphens only. -/
theorem isNumericSelector_eq_true_iff {cs : List Char} :
    isNumericSelector cs = true ↔ ∀ c ∈ cs, c.isDigit = true ∨ c = '-' := by
  simp only [isNumericSelector, List.all_eq_true, Bool.or_eq_true, beq_iff_eq]

/-- Digits have no hyphen. -/
theorem IsDigits.hyphen_notMem {cs : List Char} (h : IsDigits cs) : '-' ∉ cs :=
  fun hmem => absurd (h.digits '-' hmem) (by decide)

/-- Digits are a numeric selector. -/
theorem IsDigits.isNumericSelector {cs : List Char} (h : IsDigits cs) :
    isNumericSelector cs = true :=
  isNumericSelector_eq_true_iff.2 fun c hc => .inl (h.digits c hc)

/-- Digits with a hyphen between are a numeric selector. -/
theorem isNumericSelector_append {first count : List Char} (hfirst : IsDigits first)
    (hcount : IsDigits count) : isNumericSelector (first ++ '-' :: count) = true := by
  refine isNumericSelector_eq_true_iff.2 fun c hc => ?_
  rcases List.mem_append.1 hc with hc | hc
  · exact .inl (hfirst.digits c hc)
  · rcases List.mem_cons.1 hc with rfl | hc
    · exact .inr rfl
    · exact .inl (hcount.digits c hc)

/-- Without a hyphen, a selector is a start with a count of one. -/
theorem selectorParts_of_notMem {cs : List Char} (h : '-' ∉ cs) :
    selectorParts cs = (String.ofList cs, "1") := by
  have hall : ∀ c ∈ cs, (c != '-') = true := fun c hc => bne_iff_ne.2 fun heq => h (heq ▸ hc)
  rw [selectorParts, List.takeWhile_eq_self_iff.2 hall, List.dropWhile_eq_nil_iff.2 hall]

/-- The first hyphen separates the start from the count. -/
theorem selectorParts_append {first count : List Char} (h : '-' ∉ first) :
    selectorParts (first ++ '-' :: count) = (String.ofList first, String.ofList count) := by
  have hall : ∀ c ∈ first, (c != '-') = true := fun c hc => bne_iff_ne.2 fun heq => h (heq ▸ hc)
  rw [selectorParts, List.takeWhile_append_of_pos hall, List.dropWhile_append_of_pos hall,
    List.takeWhile_cons_of_neg (by decide), List.dropWhile_cons_of_neg (by decide),
    List.append_nil]

/-- The base64 of a digest ends in padding, so it is not taken for numbers. -/
theorem isNumericSelector_of_spellsDigest {text : String} {digest : List UInt8}
    (h : SpellsDigest text digest) : isNumericSelector text.toList = false := by
  obtain ⟨rfl, hlength⟩ := h
  have hpad : Base64.pad ∈ Base64.encodeBytes digest := by
    refine Base64.pad_mem_encodeBytes ?_
    rw [hlength]
    decide
  rw [Base64.encode, String.toList_ofList, ← Bool.not_eq_true, isNumericSelector_eq_true_iff]
  intro hall
  exact absurd (hall _ (List.mem_map_of_mem hpad)) (by decide)

/-- A count that is not written is one. -/
theorem integerLiteral_one_iff {n : Int} : IntegerLiteral "1".toList n ↔ n = 1 := by
  constructor
  · intro h
    exact (h.isDigits (by decide) (.inl (by decide))).2
  · rintro rfl
    exact .plain ⟨by decide, List.all_eq_true.1 rfl⟩

/-- A numeric selector is read as the run that it stands for. -/
theorem readSelector_numeric_iff {nameSpace entry : String} {f : PartitionFilter}
    (hnonempty : entry.toList ≠ []) (hnumeric : isNumericSelector entry.toList = true) :
    readRange (selectorParts entry.toList).1 (selectorParts entry.toList).2 = .ok f ↔
      Selects nameSpace entry f := by
  rw [readRange_eq_ok_iff]
  have hchars := isNumericSelector_eq_true_iff.1 hnumeric
  have hplus : '+' ∉ entry.toList := fun h => absurd (hchars _ h) (by decide)
  constructor
  · rintro ⟨start, count, hrun, rfl⟩
    by_cases hhyphen : '-' ∈ entry.toList
    · obtain ⟨first, rest, hentry, hfirst⟩ := List.eq_append_cons_of_mem hhyphen
      rw [hentry] at hplus hrun
      rw [selectorParts_append hfirst] at hrun
      obtain ⟨hstart, hcount, hleast, hwithin, hpositive, hfits⟩ := hrun
      rw [String.toList_ofList] at hstart hcount
      obtain ⟨hdigits, rfl⟩ := hstart.isDigits
        (fun h => hplus (List.mem_append_left _ h)) (.inl hfirst)
      -- a second hyphen may be the sign of the count, but then the count is not positive
      obtain ⟨hdigits', rfl⟩ := hcount.isDigits
        (fun h => hplus (List.mem_append_right _ (List.mem_cons_of_mem _ h))) (.inr (by omega))
      rw [← String.ofList_toList (s := entry), hentry]
      exact .range hdigits hdigits' hwithin (by omega) hfits
    · rw [selectorParts_of_notMem hhyphen] at hrun
      obtain ⟨hstart, hcount, hleast, hwithin, hpositive, hfits⟩ := hrun
      rw [String.toList_ofList] at hstart
      obtain ⟨hdigits, rfl⟩ := hstart.isDigits hplus (.inl hhyphen)
      obtain rfl := integerLiteral_one_iff.1 hcount
      have hselects : Selects nameSpace (String.ofList entry.toList) _ :=
        .single hdigits hwithin
      rw [String.ofList_toList] at hselects
      exact hselects
  · intro h
    cases h with
    | @single digits hdigits hwithin =>
      rw [String.toList_ofList, selectorParts_of_notMem hdigits.hyphen_notMem]
      refine ⟨decimalValue digits, 1,
        ⟨?_, integerLiteral_one_iff.2 rfl, by omega, hwithin, by decide, ?_⟩, rfl⟩
      · rw [String.toList_ofList]
        exact .plain hdigits
      · omega
    | @range first count hfirst hcount hwithin hpositive hfits =>
      rw [String.toList_ofList, selectorParts_append hfirst.hyphen_notMem]
      refine ⟨decimalValue first, decimalValue count,
        ⟨?_, ?_, by omega, hwithin, by omega, hfits⟩, rfl⟩
      · rw [String.toList_ofList]
        exact .plain hfirst
      · rw [String.toList_ofList]
        exact .plain hcount
    | digest hspelled =>
      rw [isNumericSelector_of_spellsDigest hspelled] at hnumeric
      exact absurd hnumeric nofun

/-- A selector that is not numeric stands for a digest. -/
theorem Selects.exists_digest {nameSpace entry : String} {f : PartitionFilter}
    (h : Selects nameSpace entry f) (hnumeric : isNumericSelector entry.toList = false) :
    ∃ digest, SpellsDigest entry digest ∧
      f = DigestCursor.filter ⟨nameSpace, digest⟩ 1 := by
  cases h with
  | single hdigits =>
    rw [String.toList_ofList, hdigits.isNumericSelector] at hnumeric
    exact absurd hnumeric nofun
  | range hfirst hcount =>
    rw [String.toList_ofList, isNumericSelector_append hfirst hcount] at hnumeric
    exact absurd hnumeric nofun
  | digest hspelled => exact ⟨_, hspelled, rfl⟩

/-- A selector is read as the filter that it stands for. -/
theorem readSelector_eq_ok_iff {nameSpace entry : String} {f : PartitionFilter} :
    readSelector nameSpace entry = .ok f ↔ Selects nameSpace entry f := by
  unfold readSelector
  dsimp only
  split
  · rename_i hempty
    rw [List.isEmpty_iff] at hempty
    refine ⟨nofun, fun h => ?_⟩
    cases h with
    | single hdigits =>
      rw [String.toList_ofList] at hempty
      exact absurd hempty hdigits.nonempty
    | range =>
      rw [String.toList_ofList, List.append_eq_nil_iff] at hempty
      exact absurd hempty.2 nofun
    | digest hspelled =>
      have hnumeric := isNumericSelector_of_spellsDigest hspelled
      rw [hempty] at hnumeric
      exact absurd hnumeric nofun
  · rename_i hnonempty
    rw [List.isEmpty_iff] at hnonempty
    split
    · rename_i hnumeric
      rw [mapError_eq_ok_iff]
      exact readSelector_numeric_iff hnonempty hnumeric
    · rename_i hnumeric
      rw [Bool.not_eq_true] at hnumeric
      rw [map_eq_ok_iff]
      constructor
      · rintro ⟨⟨_, digest⟩, hread, rfl⟩
        obtain ⟨rfl, hspelled⟩ := readDigest_eq_ok_iff.1 hread
        exact .digest hspelled
      · intro h
        obtain ⟨digest, hspelled, rfl⟩ := h.exists_digest hnumeric
        exact ⟨⟨nameSpace, digest⟩, readDigest_eq_ok_iff.2 ⟨rfl, hspelled⟩, rfl⟩

/-- The filters of a list are those of its selectors, in order. -/
theorem readPartitionList_eq_ok_iff {nameSpace list : String} {filters : List PartitionFilter} :
    readPartitionList nameSpace list = .ok filters ↔
      List.Forall₂ (Selects nameSpace) ((commaPieces list.toList).map String.ofList) filters := by
  rw [readPartitionList, mapM_eq_ok_iff, List.forall₂_map_left_iff]
  simp only [readSelector_eq_ok_iff]

end BackupControl
