/-
# Local times around a change of the clocks

A forward change skips the local times of its gap and a backward change repeats those of an
interval.  A local time outside the repeated intervals is the instant at which a clock shows it;
one in a gap is read with the offset before the gap and so moves forward by the length of the gap,
unless the same clock time one day earlier is in the gap too.

The changes are four days apart and the offsets below a day.  A local time then lies within a day
of the changes that can matter for it, and so there is only one of them.

Main statement: `clock_changes_settle`.
-/
import BackupControl.Proofs.Calendar.LeapSecond

namespace BackupControl

/-! ## Readings -/

/-- The offset under which a local time is shown first. -/
def LocalReading.earliest? : LocalReading → Option Int
  | .once offset => some offset
  | .skipped => none
  | .twice earlier _ => some earlier

/-- The earliest offset is the first of all. -/
theorem LocalReading.earliest?_eq_head? (r : LocalReading) : r.earliest? = r.offsets.head? := by
  cases r <;> rfl

@[simp] theorem LocalReading.mem_offsets_once {o offset : Int} :
    o ∈ (LocalReading.once offset).offsets ↔ o = offset :=
  List.mem_singleton

@[simp] theorem LocalReading.notMem_offsets_skipped {o : Int} :
    o ∉ LocalReading.skipped.offsets :=
  List.not_mem_nil

@[simp] theorem LocalReading.mem_offsets_twice {o earlier later : Int} :
    o ∈ (LocalReading.twice earlier later).offsets ↔ o = earlier ∨ o = later :=
  List.mem_pair

/-- There is no earliest offset just if the local time is skipped. -/
theorem LocalReading.earliest?_eq_none_iff {r : LocalReading} :
    r.earliest? = none ↔ r = .skipped := by
  cases r <;> simp [earliest?]

/-- The instant of a local time by any reading of local times: with the earliest offset, or with
that of the same clock time one day earlier. -/
def resolveBy (reading : Int → LocalReading) (n : Int) : Option Int :=
  match (reading n).earliest? with
  | some offset => some (n - offset)
  | none => (reading (n - 86400)).earliest?.map (n - ·)

/-- The instant that a literal denotes by any reading of local times. -/
def readTimeBy (reading : Int → LocalReading) (today : Date) (input : String) :
    Except TimeLiteralFault Instant :=
  match readLocalTime today input with
  | .error e => .error e
  | .ok (d, c) =>
    match resolveBy reading (localSeconds d c) with
    | some seconds => .ok ⟨seconds, c.isLeap⟩
    | none => .error (.malformed .skippedInZone)

namespace Zone

/-- The earliest offset in a zone is that of its reading. -/
theorem earliestOffset?_eq (z : Zone) (n : Int) : z.earliestOffset? n = (z.read n).earliest? := by
  unfold earliestOffset?
  cases z.read n <;> rfl

/-- A zone resolves local times by its own reading. -/
theorem resolve_eq_resolveBy (z : Zone) (n : Int) : z.resolve n = resolveBy z.read n := by
  cases hread : (z.read n).earliest? with
  | some offset => rw [resolve, resolveBy, earliestOffset?_eq, hread]
  | none => rw [resolve, resolveBy, earliestOffset?_eq, hread, earliestOffset?_eq]

/-- Literals are read by the reading of the zone. -/
theorem readTime_eq_readTimeBy (z : Zone) (today : Date) (input : String) :
    readTime z today input = readTimeBy z.read today input := by
  unfold readTime readTimeBy
  cases readLocalTime today input with
  | error fault => rfl
  | ok read =>
    have hsame := z.resolve_eq_resolveBy (localSeconds read.1 read.2)
    cases hresolve : resolveBy z.read (localSeconds read.1 read.2) with
    | some seconds => simp only [hsame, hresolve]
    | none => simp only [hsame, hresolve]

/-! ## What the clocks show -/

/-- A clock of the zone shows the local time `n` at the instant `u`. -/
def Shows (z : Zone) (u n : Int) : Prop := u + z.offsetAt u = n

instance (z : Zone) (u n : Int) : Decidable (z.Shows u n) :=
  inferInstanceAs (Decidable (u + z.offsetAt u = n))

/-- No clock of the zone shows the local time at any instant. -/
def Skips (z : Zone) (n : Int) : Prop := ∀ u, ¬ z.Shows u n

/-- The reading of a local time tells the instants at which the zone shows it, and no others. -/
def ReadsAsShown (z : Zone) (reading : Int → LocalReading) (n : Int) : Prop :=
  ∀ u, z.Shows u n ↔ n - u ∈ (reading n).offsets

/-- The offset that a change ends. -/
def offsetBefore (z : Zone) (change : OffsetChange) : Int := z.offsetAt (change.moment - 1)

/-- The local time is in the gap of a change. -/
structure InGap (z : Zone) (change : OffsetChange) (n : Int) : Prop where
  mem : change ∈ z.changes
  least : change.moment + z.offsetBefore change ≤ n
  most : n < change.moment + change.offset

/-- The local time is the first one in the gap of a change. -/
def BeginsGap (z : Zone) (n : Int) : Prop :=
  ∃ change, z.InGap change n ∧ n = change.moment + z.offsetBefore change

/-- The local time is in the interval that a backward change repeats, or at an edge of it. -/
structure Repeats (z : Zone) (change : OffsetChange) (n : Int) : Prop where
  mem : change ∈ z.changes
  backward : change.offset < z.offsetBefore change
  least : change.moment + change.offset ≤ n
  most : n ≤ change.moment + z.offsetBefore change

/-- Offsets below a day, and changes at least four days apart. -/
structure IsSpaced (z : Zone) : Prop where
  base : z.base.natAbs < 86400
  offsets : ∀ change ∈ z.changes, change.offset.natAbs < 86400
  apart : z.changes.Pairwise fun c c' => c.moment + 345600 ≤ c'.moment

/-- What is to become of a local time: the instant at which alone it is shown; in a gap, the
instant that shows the time later by the length of the gap; and nothing, if both it and the same
clock time one day earlier are skipped. -/
structure Settles (z : Zone) (n : Int) (result : Option Int) : Prop where
  once : ∀ u, (∀ v, z.Shows v n ↔ v = u) → result = some u
  moved : ∀ change, z.InGap change n → ¬ z.Skips (n - 86400) →
    result = some (n - z.offsetBefore change) ∧ change.moment ≤ n - z.offsetBefore change ∧
      z.Shows (n - z.offsetBefore change) (n + (change.offset - z.offsetBefore change))
  skipped : z.Skips n → z.Skips (n - 86400) → result = none

/-! ## Readings of what is shown -/

section ReadsAsShown

variable {z : Zone} {reading : Int → LocalReading} {n : Int}

/-- A local time that is shown once is read with the offset of its instant. -/
theorem ReadsAsShown.earliest?_eq_some (h : z.ReadsAsShown reading n) {u : Int}
    (hshows : z.Shows u n) (honly : ∀ v, z.Shows v n → v = u) :
    (reading n).earliest? = some (n - u) := by
  have hmem := (h u).1 hshows
  rw [LocalReading.earliest?_eq_head?]
  cases hoffsets : (reading n).offsets with
  | nil => exact absurd (hoffsets ▸ hmem) List.not_mem_nil
  | cons o rest =>
    have hfirst : n - (n - o) ∈ (reading n).offsets := by
      rw [Int.sub_sub_self, hoffsets]
      exact List.mem_cons_self
    rw [← honly _ ((h _).2 hfirst), Int.sub_sub_self]
    rfl

/-- A skipped local time is not read. -/
theorem ReadsAsShown.earliest?_eq_none (h : z.ReadsAsShown reading n) (hskips : z.Skips n) :
    (reading n).earliest? = none := by
  have hnone : (reading n).offsets = [] := List.eq_nil_iff_forall_not_mem.2 fun o ho =>
    hskips (n - o) ((h _).2 (by rwa [Int.sub_sub_self]))
  rw [LocalReading.earliest?_eq_head?, hnone]
  rfl

end ReadsAsShown

/-! ## Offsets between the changes -/

section Offsets

variable {base : Int} {change : OffsetChange} {rest : List OffsetChange}

/-- Before the first change the first offset holds. -/
theorem offsetAt_cons_of_lt {u : Int} (h : u < change.moment) :
    (Zone.mk base (change :: rest)).offsetAt u = base := by
  unfold offsetAt
  rw [List.takeWhile_cons_of_neg (by simpa using h)]
  rfl

/-- From the first change on, the offset is that of the zone after it. -/
theorem offsetAt_cons_of_le {u : Int} (h : change.moment ≤ u) :
    (Zone.mk base (change :: rest)).offsetAt u = (Zone.mk change.offset rest).offsetAt u := by
  unfold offsetAt
  dsimp only
  rw [List.takeWhile_cons_of_pos (by simpa using h), List.getLast?_cons]
  cases (rest.takeWhile fun change => decide (change.moment ≤ u)).getLast? <;> rfl

/-- The zone after the first change of a spaced zone is spaced. -/
theorem IsSpaced.tail (h : (Zone.mk base (change :: rest)).IsSpaced) :
    (Zone.mk change.offset rest).IsSpaced where
  base := h.offsets change List.mem_cons_self
  offsets := fun c hc => h.offsets c (List.mem_cons_of_mem change hc)
  apart := (List.pairwise_cons.1 h.apart).2

/-- The later changes are four days after the first at least. -/
theorem IsSpaced.later (h : (Zone.mk base (change :: rest)).IsSpaced) {c : OffsetChange}
    (hc : c ∈ rest) : change.moment + 345600 ≤ c.moment :=
  (List.pairwise_cons.1 h.apart).1 c hc

/-- A later change ends the same offset in the zone after the first. -/
theorem IsSpaced.offsetBefore_tail (h : (Zone.mk base (change :: rest)).IsSpaced)
    {c : OffsetChange} (hc : c ∈ rest) :
    (Zone.mk change.offset rest).offsetBefore c =
      (Zone.mk base (change :: rest)).offsetBefore c := by
  have hlater := h.later hc
  exact (offsetAt_cons_of_le (by omega)).symm

/-- The zone after the first change has its first offset until four days after the change. -/
theorem IsSpaced.offsetAt_tail (h : (Zone.mk base (change :: rest)).IsSpaced) {u : Int}
    (hu : u < change.moment + 345600) : (Zone.mk change.offset rest).offsetAt u = change.offset := by
  cases rest with
  | nil => rfl
  | cons c rest =>
    have hlater := h.later List.mem_cons_self
    exact offsetAt_cons_of_lt (by omega)

end Offsets

namespace IsSpaced

/-- Every offset is below a day. -/
theorem offsetAt_lt {z : Zone} (h : z.IsSpaced) (u : Int) : (z.offsetAt u).natAbs < 86400 := by
  obtain ⟨base, changes⟩ := z
  induction changes generalizing base with
  | nil => exact h.base
  | cons change rest ih =>
    by_cases hu : u < change.moment
    · rw [offsetAt_cons_of_lt hu]
      exact h.base
    · rw [offsetAt_cons_of_le (Int.not_lt.1 hu)]
      exact ih _ h.tail

/-- The offset of a change holds for four days. -/
theorem offsetAt_after {z : Zone} (h : z.IsSpaced) {c : OffsetChange} (hc : c ∈ z.changes) {u : Int}
    (hleast : c.moment ≤ u) (hmost : u < c.moment + 345600) : z.offsetAt u = c.offset := by
  obtain ⟨base, changes⟩ := z
  induction changes generalizing base with
  | nil => exact absurd hc List.not_mem_nil
  | cons change rest ih =>
    rcases List.mem_cons.1 hc with rfl | hrest
    · rw [offsetAt_cons_of_le hleast, h.offsetAt_tail hmost]
    · have hlater := h.later hrest
      rw [offsetAt_cons_of_le (by omega)]
      exact ih _ h.tail hrest

/-- The offset that a change ends has held for four days. -/
theorem offsetAt_before {z : Zone} (h : z.IsSpaced) {c : OffsetChange} (hc : c ∈ z.changes)
    {u : Int} (hleast : c.moment - 345600 ≤ u) (hmost : u < c.moment) :
    z.offsetAt u = z.offsetBefore c := by
  obtain ⟨base, changes⟩ := z
  induction changes generalizing base with
  | nil => exact absurd hc List.not_mem_nil
  | cons change rest ih =>
    rcases List.mem_cons.1 hc with rfl | hrest
    · rw [offsetBefore, offsetAt_cons_of_lt hmost, offsetAt_cons_of_lt (by omega)]
    · have hlater := h.later hrest
      rw [offsetAt_cons_of_le (by omega), ← h.offsetBefore_tail hrest]
      exact ih _ h.tail hrest

/-- Two changes within four days are one. -/
theorem eq_of_near {z : Zone} (h : z.IsSpaced) {c c' : OffsetChange} (hc : c ∈ z.changes)
    (hc' : c' ∈ z.changes) (hle : c.moment < c'.moment + 345600)
    (hge : c'.moment < c.moment + 345600) : c = c' := by
  have hsymm : Std.Symm fun c c' : OffsetChange =>
      c.moment + 345600 ≤ c'.moment ∨ c'.moment + 345600 ≤ c.moment := ⟨fun _ _ => Or.symm⟩
  have hpair : z.changes.Pairwise fun c c' =>
      c.moment + 345600 ≤ c'.moment ∨ c'.moment + 345600 ≤ c.moment := h.apart.imp Or.inl
  by_contra hne
  have hapart := hpair.forall hc hc' hne
  omega

/-! ### Local times near a change -/

/-- A local time in the gap of a change is within a day of the change. -/
theorem near_of_inGap {z : Zone} (h : z.IsSpaced) {c : OffsetChange} {n : Int}
    (hgap : z.InGap c n) : c.moment - 86400 < n ∧ n < c.moment + 86400 := by
  have hbefore := h.offsetAt_lt (c.moment - 1)
  have hafter := h.offsets c hgap.mem
  have hleast := hgap.least
  have hmost := hgap.most
  unfold offsetBefore at hleast
  omega

/-- A local time that a change repeats is within a day of the change. -/
theorem near_of_repeats {z : Zone} (h : z.IsSpaced) {c : OffsetChange} {n : Int}
    (hrepeats : z.Repeats c n) : c.moment - 86400 < n ∧ n < c.moment + 86400 := by
  have hbefore := h.offsetAt_lt (c.moment - 1)
  have hafter := h.offsets c hrepeats.mem
  have hleast := hrepeats.least
  have hmost := hrepeats.most
  unfold offsetBefore at hmost
  omega

/-- Local times within a day of each other are in the gap of one change only. -/
theorem gap_unique {z : Zone} (h : z.IsSpaced) {c c' : OffsetChange} {n m : Int}
    (hn : z.InGap c n) (hm : z.InGap c' m) (hle : n ≤ m + 86400) (hge : m ≤ n) : c = c' := by
  have hnear := h.near_of_inGap hn
  have hnear' := h.near_of_inGap hm
  exact h.eq_of_near hn.mem hm.mem (by omega) (by omega)

/-- Nothing is repeated a day before a gap. -/
theorem not_repeats_of_inGap {z : Zone} (h : z.IsSpaced) {c : OffsetChange} {n : Int}
    (hgap : z.InGap c n) (c' : OffsetChange) : ¬ z.Repeats c' (n - 86400) := by
  intro hrepeats
  have hnear := h.near_of_inGap hgap
  have hnear' := h.near_of_repeats hrepeats
  obtain rfl := h.eq_of_near hgap.mem hrepeats.mem (by omega) (by omega)
  have hbackward := hrepeats.backward
  have hleast := hgap.least
  have hmost := hgap.most
  omega

/-- An instant shows a local time within three days of a change under the offset that the change
ends or under the one that it brings. -/
theorem shows_near_iff {z : Zone} (h : z.IsSpaced) {c : OffsetChange} (hc : c ∈ z.changes)
    {n : Int} (hleast : c.moment - 259200 ≤ n) (hmost : n ≤ c.moment + 259200) {u : Int} :
    z.Shows u n ↔ (u < c.moment ∧ u + z.offsetBefore c = n) ∨
      (c.moment ≤ u ∧ u + c.offset = n) := by
  have hbound := h.offsetAt_lt u
  have hbound' := h.offsetAt_lt (c.moment - 1)
  have hbound'' := h.offsets c hc
  have hbefore := h.offsetAt_before hc (u := u)
  have hafter := h.offsetAt_after hc (u := u)
  unfold Shows
  unfold offsetBefore at hbefore ⊢
  omega

/-- Gaps are skipped. -/
theorem skips_of_inGap {z : Zone} (h : z.IsSpaced) {c : OffsetChange} {n : Int}
    (hgap : z.InGap c n) : z.Skips n := by
  intro u hshows
  have hnear := h.near_of_inGap hgap
  have hcases := (h.shows_near_iff hgap.mem (by omega) (by omega)).1 hshows
  have hleast := hgap.least
  have hmost := hgap.most
  omega

end IsSpaced

/-! ## The reading of a zone -/

section Reading

variable {base : Int} {change : OffsetChange} {rest : List OffsetChange} {n : Int}

/-- A gap of the zone after the first change is one of the zone. -/
theorem IsSpaced.inGap_of_tail (h : (Zone.mk base (change :: rest)).IsSpaced) {c : OffsetChange}
    (hgap : (Zone.mk change.offset rest).InGap c n) : (Zone.mk base (change :: rest)).InGap c n :=
  ⟨List.mem_cons_of_mem _ hgap.mem, h.offsetBefore_tail hgap.mem ▸ hgap.least, hgap.most⟩

/-- What the zone after the first change repeats, the zone repeats. -/
theorem IsSpaced.repeats_of_tail (h : (Zone.mk base (change :: rest)).IsSpaced) {c : OffsetChange}
    (hrepeats : (Zone.mk change.offset rest).Repeats c n) :
    (Zone.mk base (change :: rest)).Repeats c n :=
  ⟨List.mem_cons_of_mem _ hrepeats.mem, h.offsetBefore_tail hrepeats.mem ▸ hrepeats.backward,
    hrepeats.least, h.offsetBefore_tail hrepeats.mem ▸ hrepeats.most⟩

/-- The offset that the first change ends is the first offset. -/
theorem offsetBefore_head : (Zone.mk base (change :: rest)).offsetBefore change = base :=
  offsetAt_cons_of_lt (Int.sub_one_lt_of_le le_rfl)

/-- The reading by the first change: before it with the offset before, in its gap not at all, in
what it repeats with both offsets, and after it by the zone after it. -/
theorem read_cons : (Zone.mk base (change :: rest)).read n =
    if change.moment + base < change.moment + change.offset then
      if n ≤ change.moment + base then .once base
      else if n < change.moment + change.offset then .skipped
      else if n = change.moment + change.offset then .once change.offset
      else (Zone.mk change.offset rest).read n
    else
      if n < change.moment + change.offset then .once base
      else if n ≤ change.moment + base then .twice base change.offset
      else (Zone.mk change.offset rest).read n :=
  rfl

/-- Local times before the first change are shown under the first offset. -/
theorem IsSpaced.shows_before_iff (h : (Zone.mk base (change :: rest)).IsSpaced)
    (hbase : n < change.moment + base) (hoffset : n < change.moment + change.offset) {u : Int} :
    (Zone.mk base (change :: rest)).Shows u n ↔ u + base = n := by
  unfold Shows
  by_cases hu : u < change.moment
  · rw [offsetAt_cons_of_lt hu]
  · have hbound := h.offsetAt_lt u
    have hafter := h.offsetAt_after (u := u) List.mem_cons_self
    have hbound' := h.base
    dsimp only at hbound'
    omega

/-- Local times after the first change are shown by the zone after it. -/
theorem IsSpaced.shows_after_iff (h : (Zone.mk base (change :: rest)).IsSpaced)
    (hbase : change.moment + base < n) (hoffset : change.moment + change.offset < n) {u : Int} :
    (Zone.mk base (change :: rest)).Shows u n ↔ (Zone.mk change.offset rest).Shows u n := by
  unfold Shows
  by_cases hu : u < change.moment
  · rw [offsetAt_cons_of_lt hu, h.offsetAt_tail (by omega)]
    omega
  · rw [offsetAt_cons_of_le (Int.not_lt.1 hu)]

/-- Outside the repeated intervals and but for the first local time of a gap, the zone reads local
times as its clocks show them. -/
theorem IsSpaced.readsAsShown {z : Zone} (h : z.IsSpaced) (hrepeats : ∀ c, ¬ z.Repeats c n)
    (hbegins : ¬ z.BeginsGap n) : z.ReadsAsShown z.read n := by
  obtain ⟨base, changes⟩ := z
  induction changes generalizing base with
  | nil =>
    intro u
    show u + base = n ↔ n - u ∈ (LocalReading.once base).offsets
    rw [LocalReading.mem_offsets_once]
    omega
  | cons change rest ih =>
    intro u
    have hbase : base.natAbs < 86400 := h.base
    have hoffset := h.offsets change List.mem_cons_self
    have hnear := h.shows_near_iff List.mem_cons_self (n := n) (u := u)
    have hrest := ih _ h.tail (fun c hc => hrepeats c (h.repeats_of_tail hc))
      (fun ⟨c, hgap, hfirst⟩ =>
        hbegins ⟨c, h.inGap_of_tail hgap, by rw [hfirst, h.offsetBefore_tail hgap.mem]⟩) u
    -- The two exceptions, for the first change.
    have hnone : ¬ (change.offset < base ∧ change.moment + change.offset ≤ n ∧
        n ≤ change.moment + base) := fun ⟨hback, hleast, hmost⟩ =>
      hrepeats change ⟨List.mem_cons_self, by rwa [offsetBefore_head], hleast,
        by rwa [offsetBefore_head]⟩
    have hinner : ¬ (base < change.offset ∧ n = change.moment + base) := fun ⟨hforward, hfirst⟩ =>
      hbegins ⟨change, ⟨List.mem_cons_self, by rw [offsetBefore_head]; omega, by omega⟩,
        by rwa [offsetBefore_head]⟩
    rw [offsetBefore_head] at hnear
    rw [read_cons]
    -- Before the change the first offset holds and after it the tail decides; between its two ends
    -- the instants are those of the two offsets.
    split_ifs with hforward hbefore hskipped hlast hbefore hrepeated
    · rw [h.shows_before_iff (by omega) (by omega), LocalReading.mem_offsets_once]
      omega
    · rw [hnear (by omega) (by omega)]
      exact iff_of_false (by omega) LocalReading.notMem_offsets_skipped
    · rw [hnear (by omega) (by omega), LocalReading.mem_offsets_once]
      omega
    · rw [h.shows_after_iff (by omega) (by omega), hrest]
    · rw [h.shows_before_iff (by omega) (by omega), LocalReading.mem_offsets_once]
      omega
    · rw [hnear (by omega) (by omega), LocalReading.mem_offsets_twice]
      omega
    · rw [h.shows_after_iff (by omega) (by omega), hrest]

/-- What the zone does not read is in a gap. -/
theorem IsSpaced.exists_inGap_of_read {z : Zone} (h : z.IsSpaced) (hread : z.read n = .skipped) :
    ∃ c, z.InGap c n := by
  obtain ⟨base, changes⟩ := z
  induction changes generalizing base with
  | nil => exact absurd hread nofun
  | cons change rest ih =>
    rw [read_cons] at hread
    have hrest : (Zone.mk change.offset rest).read n = .skipped →
        ∃ c, (Zone.mk base (change :: rest)).InGap c n := fun hlater => by
      obtain ⟨c, hgap⟩ := ih _ h.tail hlater
      exact ⟨c, h.inGap_of_tail hgap⟩
    split_ifs at hread with hforward hbefore hskipped hlast hbefore hrepeated
    · exact ⟨change, List.mem_cons_self, by rw [offsetBefore_head]; omega, hskipped⟩
    · exact hrest hread
    · exact hrest hread

/-- The first local time of a gap is read with the offset before it. -/
theorem IsSpaced.read_of_first {z : Zone} (h : z.IsSpaced) {c : OffsetChange}
    (hgap : z.InGap c n) (hfirst : n = c.moment + z.offsetBefore c) :
    z.read n = .once (z.offsetBefore c) := by
  have hmost := hgap.most
  obtain ⟨base, changes⟩ := z
  induction changes generalizing base with
  | nil => exact absurd hgap.mem List.not_mem_nil
  | cons change rest ih =>
    rw [read_cons]
    rcases List.mem_cons.1 hgap.mem with rfl | hrest
    · rw [offsetBefore_head] at hfirst ⊢
      rw [if_pos (by omega), if_pos (by omega)]
    · -- Four days on, the gap lies behind both ends of the first change.
      have hlater := h.later hrest
      have hnear := h.near_of_inGap hgap
      have hbase : base.natAbs < 86400 := h.base
      have hoffset := h.offsets change List.mem_cons_self
      have hread := ih _ h.tail
        ⟨hrest, by rw [h.offsetBefore_tail hrest]; exact hgap.least, hgap.most⟩
        (by rwa [h.offsetBefore_tail hrest])
      rw [h.offsetBefore_tail hrest] at hread
      split_ifs <;> first | exact hread | omega

/-- What is skipped is in a gap. -/
theorem IsSpaced.exists_inGap_of_skips {z : Zone} (h : z.IsSpaced)
    (hrepeats : ∀ c, ¬ z.Repeats c n) (hskips : z.Skips n) : ∃ c, z.InGap c n := by
  by_cases hbegins : z.BeginsGap n
  · obtain ⟨c, hgap, -⟩ := hbegins
    exact ⟨c, hgap⟩
  · have hnone := (h.readsAsShown hrepeats hbegins).earliest?_eq_none hskips
    exact h.exists_inGap_of_read (LocalReading.earliest?_eq_none_iff.1 hnone)

end Reading

/-! ## Settling -/

section Settling

variable {z : Zone} {reading : Int → LocalReading} {n : Int}

/-- A local time that is read resolves with its earliest offset. -/
theorem resolveBy_of_earliest {offset : Int} (h : (reading n).earliest? = some offset) :
    resolveBy reading n = some (n - offset) := by
  rw [resolveBy, h]

/-- A local time that is not read resolves with the offset of a day earlier. -/
theorem resolveBy_of_none (h : (reading n).earliest? = none) :
    resolveBy reading n = (reading (n - 86400)).earliest?.map (n - ·) := by
  rw [resolveBy, h]

/-- With the offset before it, a local time in a gap is an instant after the change that shows the
time later by the length of the gap. -/
theorem IsSpaced.moved_of_inGap (h : z.IsSpaced) {c : OffsetChange} (hgap : z.InGap c n) :
    c.moment ≤ n - z.offsetBefore c ∧
      z.Shows (n - z.offsetBefore c) (n + (c.offset - z.offsetBefore c)) := by
  have hnear := h.near_of_inGap hgap
  have hleast := hgap.least
  have hbefore : (z.offsetBefore c).natAbs < 86400 := h.offsetAt_lt _
  refine ⟨by omega, ?_⟩
  rw [Shows, h.offsetAt_after hgap.mem (by omega) (by omega)]
  omega

/-- One day before a local time in a gap only the offset before the gap is shown. -/
theorem IsSpaced.eq_of_shows_day_before (h : z.IsSpaced) {c : OffsetChange} (hgap : z.InGap c n)
    {u : Int} (hshows : z.Shows u (n - 86400)) : u = n - 86400 - z.offsetBefore c := by
  have hnear := h.near_of_inGap hgap
  have hmost := hgap.most
  have hcases := (h.shows_near_iff hgap.mem (by omega) (by omega)).1 hshows
  omega

/-- A local time is settled by a reading that tells which instants show it and, if none does, which
show the same clock time one day earlier. -/
theorem IsSpaced.settles (h : z.IsSpaced) (hread : z.ReadsAsShown reading n)
    (hday : z.Skips n → z.ReadsAsShown reading (n - 86400)) :
    z.Settles n (resolveBy reading n) where
  once := fun u hu => by
    have hearliest := hread.earliest?_eq_some ((hu u).2 rfl) fun v => (hu v).1
    rw [resolveBy_of_earliest hearliest, Int.sub_sub_self]
  moved := fun c hgap hshown => by
    have hskips := h.skips_of_inGap hgap
    obtain ⟨u, hu⟩ := Classical.not_forall.1 hshown
    have hshows := Classical.not_not.1 hu
    have honly := fun v (hv : z.Shows v (n - 86400)) => h.eq_of_shows_day_before hgap hv
    have hearliest := (hday hskips).earliest?_eq_some hshows
      fun v hv => (honly v hv).trans (honly u hshows).symm
    rw [honly u hshows, Int.sub_sub_self] at hearliest
    refine ⟨?_, h.moved_of_inGap hgap⟩
    rw [resolveBy_of_none (hread.earliest?_eq_none hskips), hearliest]
    rfl
  skipped := fun hskips hearlier => by
    rw [resolveBy_of_none (hread.earliest?_eq_none hskips),
      (hday hskips).earliest?_eq_none hearlier]
    rfl

/-- The reading of a zone settles a local time that is not repeated, unless the same clock time one
day earlier is the first in a gap that goes on for the day. -/
theorem IsSpaced.settles_resolve_iff (h : z.IsSpaced) (hrepeats : ∀ c, ¬ z.Repeats c n) :
    z.Settles n (z.resolve n) ↔ ¬ (z.Skips n ∧ z.BeginsGap (n - 86400)) := by
  rw [resolve_eq_resolveBy]
  constructor
  · rintro hsettles ⟨hskips, c, hgap, hfirst⟩
    -- The day before is read although it is skipped, so there is a result where none is due.
    have hbegins : ¬ z.BeginsGap n := by
      rintro ⟨c', hgap', hfirst'⟩
      obtain rfl := h.gap_unique hgap' hgap (by omega) (by omega)
      omega
    have hnone := hsettles.skipped hskips (h.skips_of_inGap hgap)
    rw [resolveBy_of_none ((h.readsAsShown hrepeats hbegins).earliest?_eq_none hskips),
      h.read_of_first hgap hfirst] at hnone
    exact absurd hnone nofun
  · intro hnot
    by_cases hbegins : z.BeginsGap n
    · -- The first local time of a gap is read with the offset that a day earlier would give.
      obtain ⟨c, hgap, hfirst⟩ := hbegins
      have hskips := h.skips_of_inGap hgap
      have hearliest : (z.read n).earliest? = some (z.offsetBefore c) := by
        rw [h.read_of_first hgap hfirst]
        rfl
      refine ⟨fun u hu => absurd ((hu u).2 rfl) (hskips u), fun c' hgap' _ => ?_,
        fun _ hday => absurd ?_ (hday (c.moment - 86400))⟩
      · obtain rfl := h.gap_unique hgap hgap' (by omega) le_rfl
        exact ⟨resolveBy_of_earliest hearliest, h.moved_of_inGap hgap⟩
      · rw [Shows, h.offsetAt_before hgap.mem (by omega) (by omega)]
        omega
    · refine h.settles (h.readsAsShown hrepeats hbegins) fun hskips => ?_
      obtain ⟨c, hgap⟩ := h.exists_inGap_of_skips hrepeats hskips
      exact h.readsAsShown (h.not_repeats_of_inGap hgap) fun hday => hnot ⟨hskips, hday⟩

/-- A gap of more than a day: its first local time resolves, so the same clock time one day later
does too, but none after it. -/
example : (Zone.mk (-43200) [⟨1704844800, 50400⟩]).resolve 1704888000 = some 1704931200 ∧
    (Zone.mk (-43200) [⟨1704844800, 50400⟩]).resolve 1704888001 = none := by
  decide

end Settling

end Zone

/-! ## Literals -/

/-- The answer for a literal is the instant of its local time, or that the time does not exist. -/
theorem readTimeBy_of_readLocalTime {reading : Int → LocalReading} {today d : Date} {input : String}
    {c : Clock} (h : readLocalTime today input = .ok (d, c)) :
    (∀ u, resolveBy reading (localSeconds d c) = some u →
      readTimeBy reading today input = .ok ⟨u, c.isLeap⟩) ∧
    (resolveBy reading (localSeconds d c) = none →
      ∃ fault, readTimeBy reading today input = .error (.malformed fault) ∧
        fault.message = "time does not exist in the local time zone") := by
  unfold readTimeBy
  rw [h]
  dsimp only
  constructor
  · intro u hu
    rw [hu]
  · intro hnone
    rw [hnone]
    exact ⟨.skippedInZone, rfl, rfl⟩

/-- In a zone of offsets below a day and changes four days apart:

* a reading that tells which instants show a local time and, if none does, which show the same
  clock time one day earlier settles the local time: one that is shown once is that instant; one in
  the gap of a change, if the clock time was not skipped a day earlier, is read with the offset
  before the change, which is no instant before the change and shows the time later by the length
  of the gap; and one that is skipped on both days is none;
* the reading that is in use does so for every local time that is neither in a repeated interval
  nor at an edge of one, unless the clock time was the first in a gap a day earlier and still is in
  the gap;
* a literal is answered with the instant of its local time, and if there is none with the fault
  that the time does not exist;
* literals are read by the reading that is in use. -/
theorem clock_changes_settle {z : Zone} (hz : z.IsSpaced) :
    (∀ reading n, z.ReadsAsShown reading n →
      (z.Skips n → z.ReadsAsShown reading (n - 86400)) → z.Settles n (resolveBy reading n)) ∧
    (∀ n, (∀ c, ¬ z.Repeats c n) →
      (z.Settles n (z.resolve n) ↔ ¬ (z.Skips n ∧ z.BeginsGap (n - 86400)))) ∧
    (∀ reading today input d c, readLocalTime today input = .ok (d, c) →
      (∀ u, resolveBy reading (localSeconds d c) = some u →
        readTimeBy reading today input = .ok ⟨u, c.isLeap⟩) ∧
      (resolveBy reading (localSeconds d c) = none →
        ∃ fault, readTimeBy reading today input = .error (.malformed fault) ∧
          fault.message = "time does not exist in the local time zone")) ∧
    ∀ today input, readTime z today input = readTimeBy z.read today input :=
  ⟨fun _ _ => hz.settles, fun _ => hz.settles_resolve_iff,
    fun _ _ _ _ _ => readTimeBy_of_readLocalTime, z.readTime_eq_readTimeBy⟩

/-- A zone whose clocks go from one hour to two hours east on 31 March 2024, at two o'clock. -/
def springForward : Zone := ⟨3600, [⟨1711846800, 7200⟩]⟩

/-- Half past two on the night of the change is half past three. -/
theorem clock_changes_settle_of_spring_night :
    springForward.IsSpaced ∧ springForward.ReadsAsShown springForward.read 1711852200 ∧
      springForward.ReadsAsShown springForward.read (1711852200 - 86400) ∧
      resolveBy springForward.read 1711852200 = some 1711848600 ∧
      springForward.Shows 1711848600 1711855800 := by
  have hspaced : springForward.IsSpaced :=
    ⟨by decide, by decide, List.pairwise_singleton _ _⟩
  have hrepeats : ∀ n c, ¬ springForward.Repeats c n := by
    rintro n c ⟨hmem, hbackward, -, -⟩
    rw [List.mem_singleton.1 hmem] at hbackward
    exact absurd hbackward (by decide)
  have hbegins : ∀ n, n ≠ 1711850400 → ¬ springForward.BeginsGap n := by
    rintro n hn ⟨c, hgap, hfirst⟩
    rw [List.mem_singleton.1 hgap.mem] at hfirst
    exact hn hfirst
  have hread := hspaced.readsAsShown (hrepeats 1711852200) (hbegins _ (by decide))
  have hday := hspaced.readsAsShown (hrepeats (1711852200 - 86400)) (hbegins _ (by decide))
  have hgap : springForward.InGap ⟨1711846800, 7200⟩ 1711852200 :=
    ⟨List.mem_cons_self, by decide, by decide⟩
  have hshown : ¬ springForward.Skips (1711852200 - 86400) := fun hskips =>
    hskips 1711762200 (by decide)
  obtain ⟨hsettles, -⟩ := clock_changes_settle hspaced
  obtain ⟨hresult, -, hshows⟩ :=
    (hsettles springForward.read 1711852200 hread fun _ => hday).moved _ hgap hshown
  exact ⟨hspaced, hread, hday, hresult, hshows⟩

end BackupControl
