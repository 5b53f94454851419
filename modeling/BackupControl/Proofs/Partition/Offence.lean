/-
# Why a set of filters is refused

A set of filters is refused for the first filter that has no partition or repeats a single
partition.  Only where there is none are the runs put in order, and two of them reported that
overlap.  Whether a set is refused does not depend on the order of its filters; what is reported
may.
-/
import BackupControl.Proofs.Partition.Overlap
import Mathlib.Data.List.Perm.Subperm

namespace BackupControl

/-! ## Filters that offend -/

/-- What is wrong with a filter that stands after others: it has no partition, or it is a single
partition that one of them is as well. -/
inductive Offends (before : List PartitionFilter) (f : PartitionFilter) : OverlapFault → Prop where
  | badCount (hcount : f.count < 1) : Offends before f (.badCount f.count.toInt)
  | repeatedPoint (hcount : f.count = 1) (hbefore : ∃ g ∈ before, g.count = 1 ∧ g.start = f.start) :
      Offends before f (.repeatedPoint f.start.toInt)

/-- What is wrong with the first filter that offends, in a list that stands after others. -/
inductive FirstOffence :
    List PartitionFilter → List PartitionFilter → OverlapFault → Prop where
  | here {before fs : List PartitionFilter} {f : PartitionFilter} {fault : OverlapFault}
      (h : Offends before f fault) : FirstOffence before (f :: fs) fault
  | later {before fs : List PartitionFilter} {f : PartitionFilter} {fault : OverlapFault}
      (hfine : ∀ other, ¬ Offends before f other) (h : FirstOffence (f :: before) fs fault) :
      FirstOffence before (f :: fs) fault

section Offences

variable {before fs : List PartitionFilter} {f : PartitionFilter} {fault : OverlapFault}

/-- A single partition offends just if it is among those before it. -/
theorem offends_iff_of_one (hone : f.count = 1) :
    Offends before f fault ↔ f.start ∈ pointsOf before ∧ fault = .repeatedPoint f.start.toInt := by
  rw [mem_pointsOf_iff]
  constructor
  · rintro (⟨hcount⟩ | ⟨-, hbefore⟩)
    · rw [hone] at hcount
      exact absurd hcount (by decide)
    · exact ⟨hbefore, rfl⟩
  · rintro ⟨hbefore, rfl⟩
    exact .repeatedPoint hone hbefore

/-- Any other filter offends just if it has no partition. -/
theorem offends_iff_of_ne (hne : f.count ≠ 1) :
    Offends before f fault ↔ f.count < 1 ∧ fault = .badCount f.count.toInt := by
  constructor
  · rintro (⟨hcount⟩ | ⟨hone, -⟩)
    · exact ⟨hcount, rfl⟩
    · exact absurd hone hne
  · rintro ⟨hcount, rfl⟩
    exact .badCount hcount

/-- Behind a filter that does not offend, the first offence is one of the rest. -/
theorem firstOffence_cons_iff (hfine : ∀ other, ¬ Offends before f other) :
    FirstOffence before (f :: fs) fault ↔ FirstOffence (f :: before) fs fault := by
  constructor
  · rintro (h | ⟨-, h⟩)
    · exact absurd h (hfine _)
    · exact h
  · exact .later hfine

/-- Collecting the runs fails for the first filter that offends. -/
theorem intervalsOf_eq_error_iff :
    intervalsOf (pointsOf before) fs = .error fault ↔ FirstOffence before fs fault := by
  -- the filters that were passed vary in the induction
  induction fs generalizing before with
  | nil => exact ⟨nofun, nofun⟩
  | cons f fs ih =>
    unfold intervalsOf
    split
    · rename_i hone
      split
      · rename_i hrepeated
        rw [List.contains_iff_mem] at hrepeated
        constructor
        · intro h
          obtain rfl := Except.error.inj h
          exact .here ((offends_iff_of_one hone).2 ⟨hrepeated, rfl⟩)
        · rintro (h | ⟨hfine, -⟩)
          · rw [((offends_iff_of_one hone).1 h).2]
          · exact absurd ((offends_iff_of_one hone).2 ⟨hrepeated, rfl⟩) (hfine _)
      · rename_i hfresh
        rw [List.contains_iff_mem] at hfresh
        rw [firstOffence_cons_iff fun _ h => hfresh ((offends_iff_of_one hone).1 h).1, ← ih,
          pointsOf_cons_of_eq hone]
    · rename_i hne
      split
      · rename_i hseveral
        have hfine : ∀ other, ¬ Offends before f other := fun _ h =>
          absurd ((offends_iff_of_ne hne).1 h).1 (Int32.not_lt.2 (Int32.le_of_lt hseveral))
        rw [firstOffence_cons_iff hfine, ← ih, pointsOf_cons_of_ne hne, map_eq_error_iff]
      · rename_i hfew
        have hcount : f.count < 1 := Int32.lt_of_le_of_ne (Int32.not_lt.1 hfew) hne
        constructor
        · intro h
          obtain rfl := Except.error.inj h
          exact .here (.badCount hcount)
        · rintro (h | ⟨hfine, -⟩)
          · rw [((offends_iff_of_ne hne).1 h).2]
          · exact absurd (.badCount hcount) (hfine _)

end Offences

/-! ## Runs that overlap -/

/-- A comparison of neighbours that fails reports two of them, of which the second begins no
later than the first ends. -/
theorem overlap_of_checkNeighbours {runs : List Interval} {fault : OverlapFault}
    (h : checkNeighbours runs = .error fault) :
    ∃ a b, [a, b].Sublist runs ∧ b.first ≤ a.last ∧ fault = .overlap a b := by
  induction runs with
  | nil => exact absurd h nofun
  | cons a rest ih =>
    cases rest with
    | nil => exact absurd h nofun
    | cons b rest =>
      unfold checkNeighbours at h
      split at h
      · rename_i htouch
        have hfront : [a, b].Sublist (a :: b :: rest) :=
          ((List.nil_sublist rest).cons_cons b).cons_cons a
        exact ⟨a, b, hfront, htouch, (Except.error.inj h).symm⟩
      · obtain ⟨c, d, hsublist, htouch, hfault⟩ := ih h
        exact ⟨c, d, hsublist.cons a, htouch, hfault⟩

/-- Two filters of a list, at different places. -/
def TwoOf (filters : List PartitionFilter) (f g : PartitionFilter) : Prop :=
  [f, g].Subperm filters

/-- Two filters with several partitions of which the second starts within the run of the first,
and the fault that names their runs. -/
structure Overlap (f g : PartitionFilter) (fault : OverlapFault) : Prop where
  several : 1 < f.count ∧ 1 < g.count
  fault : fault = .overlap f.interval g.interval
  ordered : f.interval.first ≤ g.interval.first
  touching : g.interval.first ≤ f.interval.last

section Reports

variable {filters : List PartitionFilter} {fault : OverlapFault}

/-- The first filter that offends is what a set is refused for. -/
theorem checkPartitions_of_firstOffence (h : FirstOffence [] filters fault) :
    checkPartitions filters = .error fault := by
  have hcollect : intervalsOf [] filters = .error fault := intervalsOf_eq_error_iff.2 h
  rw [checkPartitions, hcollect]

/-- A set in which no filter offends is refused for two of its filters whose runs overlap. -/
theorem exists_overlap_of_checkPartitions (h : checkPartitions filters = .error fault)
    (hfine : ∀ other, ¬ FirstOffence [] filters other) :
    ∃ f g, TwoOf filters f g ∧ Overlap f g fault := by
  unfold checkPartitions at h
  split at h
  · rename_i other hcollect
    have hcollect : intervalsOf (pointsOf []) filters = .error other := hcollect
    exact absurd (intervalsOf_eq_error_iff.1 hcollect) (hfine other)
  · rename_i runs hcollect
    obtain ⟨-, -, -, rfl⟩ := intervalsOf_eq_ok_iff.1 hcollect
    obtain ⟨a, b, hsublist, htouch, hfault⟩ := overlap_of_checkNeighbours h
    have hordered : a.first ≤ b.first := by
      have hpair := (pairwise_inOrder (runsOf filters)).sublist hsublist
      exact (List.pairwise_cons.1 hpair).1 b List.mem_cons_self
    -- the filters may be put in order instead of their runs
    let several := filters.filter fun f => 1 < f.count
    let ordered := several.mergeSort fun f g => decide (f.interval.first ≤ g.interval.first)
    have hruns : ordered.map (·.interval) = inOrder (runsOf filters) :=
      List.map_mergeSort fun _ _ _ _ => rfl
    have hsublist : [a, b].Sublist (ordered.map (·.interval)) := hruns ▸ hsublist
    obtain ⟨pair, hpair, hmap⟩ := List.sublist_map_iff.1 hsublist
    obtain ⟨f, rest, rfl, rfl, hrest⟩ := List.map_eq_cons_iff.1 hmap.symm
    obtain ⟨g, rest, rfl, rfl, hnil⟩ := List.map_eq_cons_iff.1 hrest
    obtain rfl := List.map_eq_nil_iff.1 hnil
    have hseveral : [f, g].Subperm several :=
      hpair.subperm.trans (List.mergeSort_perm several _).subperm
    have hcount : ∀ x ∈ [f, g], 1 < x.count :=
      fun x hx => of_decide_eq_true (List.mem_filter.1 (hseveral.subset hx)).2
    exact ⟨f, g, hseveral.trans List.filter_sublist.subperm, {
      several := ⟨hcount f List.mem_cons_self, hcount g (List.mem_cons_of_mem _ List.mem_cons_self)⟩
      fault := hfault
      ordered := hordered
      touching := htouch }⟩

end Reports

/-! ## Acceptance -/

/-- Filters that select no partition twice do not do so in another order. -/
theorem Apart.perm {filters filters' : List PartitionFilter} (h : Apart filters)
    (hperm : filters.Perm filters') : Apart filters' where
  counts := fun f hf => h.counts f (hperm.mem_iff.2 hf)
  points := ((hperm.filter _).map _).nodup_iff.1 h.points
  runs := (((hperm.filter _).map _).pairwise_iff .symm).1 h.runs

/-- Of things of which no two have a property, at most one has it. -/
theorem countP_le_one_of_pairwise {α : Type} {p : α → Bool} {xs : List α}
    (h : xs.Pairwise fun a b => ¬ (p a = true ∧ p b = true)) : xs.countP p ≤ 1 := by
  induction xs with
  | nil => exact Nat.zero_le 1
  | cons x xs ih =>
    obtain ⟨hx, hxs⟩ := List.pairwise_cons.1 h
    rw [List.countP_cons]
    split
    · rename_i hp
      have hnone : xs.countP p = 0 := List.countP_eq_zero.2 fun y hy hpy => hx y hy ⟨hp, hpy⟩
      exact Nat.le_of_eq (congrArg (· + 1) hnone)
    · exact ih hxs

instance (a : Interval) (p : Int) : Decidable (a.Holds p) :=
  inferInstanceAs (Decidable (a.first ≤ p ∧ p ≤ a.last))

/-- How many filters of a single partition select a partition. -/
def pointsAt (filters : List PartitionFilter) (p : Int) : Nat :=
  filters.countP fun f => f.count = 1 ∧ f.start.toInt = p

/-- How many filters of several partitions select a partition. -/
def runsAt (filters : List PartitionFilter) (p : Int) : Nat :=
  filters.countP fun f => 1 < f.count ∧ f.interval.Holds p

/-- Filters that select no partition twice have at most one point and one run at each. -/
theorem Apart.at_most_one {filters : List PartitionFilter} (h : Apart filters) (p : Int) :
    pointsAt filters p ≤ 1 ∧ runsAt filters p ≤ 1 := by
  constructor
  · refine countP_le_one_of_pairwise ?_
    have hpoints := List.pairwise_filter.1 (List.pairwise_map.1 h.points)
    refine hpoints.imp fun {f g} hne => ?_
    simp only [decide_eq_true_eq] at hne ⊢
    rintro ⟨⟨hf, hfp⟩, hg, hgp⟩
    exact hne hf hg (Int32.toInt_inj.1 (hfp.trans hgp.symm))
  · refine countP_le_one_of_pairwise ?_
    have hruns := List.pairwise_filter.1 (List.pairwise_map.1 h.runs)
    refine hruns.imp fun {f g} hdisjoint => ?_
    simp only [decide_eq_true_eq] at hdisjoint ⊢
    rintro ⟨⟨hf, hfp⟩, hg, hgp⟩
    exact hdisjoint hf hg p ⟨hfp, hgp⟩

/-! ## What is decided -/

/-- **What a set of filters is accepted and refused for.**

* It is accepted just if each filter has a partition, the single partitions are distinct, and any
  two of the runs are disjoint, where a run ends at the largest number of thirty-two bits.
* The order of its filters does not matter for that.
* In a set that is accepted, each partition is at most one of the single partitions, and lies in at
  most one run.
* A set with a filter that offends is refused for the first of them.
* A set that is refused otherwise is reported with the runs of two of its filters, the second of
  which begins in the first. -/
theorem checkPartitions_decides (filters : List PartitionFilter) :
    (checkPartitions filters = .ok () ↔ Apart filters) ∧
    (∀ filters', filters.Perm filters' →
      (checkPartitions filters = .ok () ↔ checkPartitions filters' = .ok ())) ∧
    (checkPartitions filters = .ok () →
      ∀ p, pointsAt filters p ≤ 1 ∧ runsAt filters p ≤ 1) ∧
    (∀ fault, FirstOffence [] filters fault → checkPartitions filters = .error fault) ∧
    ∀ fault, checkPartitions filters = .error fault →
      FirstOffence [] filters fault ∨
        (∀ other, ¬ FirstOffence [] filters other) ∧
          ∃ f g, TwoOf filters f g ∧ Overlap f g fault := by
  refine ⟨checkPartitions_eq_ok_iff, fun filters' hperm => ?_, fun hok p => ?_,
    fun fault => checkPartitions_of_firstOffence, fun fault hfault => ?_⟩
  · rw [checkPartitions_eq_ok_iff, checkPartitions_eq_ok_iff]
    exact ⟨fun h => h.perm hperm, fun h => h.perm hperm.symm⟩
  · exact (checkPartitions_eq_ok_iff.1 hok).at_most_one p
  · by_cases hoffence : ∃ other, FirstOffence [] filters other
    · obtain ⟨other, hother⟩ := hoffence
      have hsame := hfault.symm.trans (checkPartitions_of_firstOffence hother)
      exact .inl (Except.error.inj hsame ▸ hother)
    · have hfine : ∀ other, ¬ FirstOffence [] filters other := fun other h => hoffence ⟨other, h⟩
      exact .inr ⟨hfine, exists_overlap_of_checkPartitions hfault hfine⟩

end BackupControl
