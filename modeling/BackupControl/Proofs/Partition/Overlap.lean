/-
# Sets of filters that select no partition twice

The runs are compared with their neighbours only, once they are in order.  A run is not empty,
so that is enough: a set of filters is accepted just if its single partitions are distinct and
any two of its runs have no partition in common.
-/
import BackupControl.Partition.Overlap
import BackupControl.Proofs.Rules.Check

namespace BackupControl

/-! ## Runs -/

namespace Interval

/-- A partition that lies in a run. -/
def Holds (a : Interval) (p : Int) : Prop := a.first ≤ p ∧ p ≤ a.last

/-- Two runs without a partition in common. -/
def Disjoint (a b : Interval) : Prop := ∀ p, ¬ (a.Holds p ∧ b.Holds p)

theorem Disjoint.symm {a b : Interval} (h : a.Disjoint b) : b.Disjoint a :=
  fun p hp => h p hp.symm

/-- Of two runs, the one that begins first ends before the other begins, if they are disjoint. -/
theorem disjoint_iff_lt {a b : Interval} (hfirst : a.first ≤ b.first) (hb : b.first ≤ b.last) :
    a.Disjoint b ↔ a.last < b.first := by
  constructor
  · intro h
    have hmiss : ¬ b.first ≤ a.last := fun hle => h b.first ⟨⟨hfirst, hle⟩, Int.le_refl _, hb⟩
    exact Int.not_le.1 hmiss
  · rintro hlt p ⟨⟨-, hp⟩, hp', -⟩
    omega

end Interval

/-- The run of a filter with several partitions is not empty, also where it is cut off. -/
theorem PartitionFilter.interval_nonempty {f : PartitionFilter} (h : 1 < f.count) :
    f.interval.first ≤ f.interval.last := by
  have hcount : (1 : Int32).toInt < f.count.toInt := Int32.lt_iff_toInt_lt.1 h
  have hstart : f.start.toInt < 2 ^ 31 := f.start.toInt_lt
  have hone : (1 : Int32).toInt = 1 := rfl
  have hlimit : twoTo 31 = 2 ^ 31 := rfl
  dsimp only [PartitionFilter.interval]
  omega

/-- The partitions that the filters of a single partition select. -/
def pointsOf (filters : List PartitionFilter) : List Int32 :=
  (filters.filter fun f => f.count = 1).map (·.start)

/-- The runs that the filters of several partitions select. -/
def runsOf (filters : List PartitionFilter) : List Interval :=
  (filters.filter fun f => 1 < f.count).map (·.interval)

/-- A filter of a single partition adds that partition. -/
theorem pointsOf_cons_of_eq {f : PartitionFilter} (h : f.count = 1) (fs : List PartitionFilter) :
    pointsOf (f :: fs) = f.start :: pointsOf fs := by
  rw [pointsOf, List.filter_cons_of_pos (by simpa using h), List.map_cons, pointsOf]

/-- Any other filter adds no single partition. -/
theorem pointsOf_cons_of_ne {f : PartitionFilter} (h : f.count ≠ 1) (fs : List PartitionFilter) :
    pointsOf (f :: fs) = pointsOf fs := by
  rw [pointsOf, List.filter_cons_of_neg (by simpa using h), pointsOf]

/-- The single partitions of a list are where its filters of one partition start. -/
theorem mem_pointsOf_iff {filters : List PartitionFilter} {p : Int32} :
    p ∈ pointsOf filters ↔ ∃ g ∈ filters, g.count = 1 ∧ g.start = p := by
  simp only [pointsOf, List.mem_map, List.mem_filter, decide_eq_true_eq, and_assoc]

/-- A set of filters that selects no partition twice, where filters of one partition and of
several are not compared. -/
structure Apart (filters : List PartitionFilter) : Prop where
  counts : ∀ f ∈ filters, 1 ≤ f.count
  points : (pointsOf filters).Nodup
  runs : (runsOf filters).Pairwise Interval.Disjoint

/-- A single filter with a partition selects nothing twice. -/
theorem apart_singleton {f : PartitionFilter} (h : 1 ≤ f.count) : Apart [f] where
  counts := fun _ hg => List.mem_singleton.1 hg ▸ h
  points := (List.pairwise_singleton _ f.start).sublist (List.filter_sublist.map _)
  runs := (List.pairwise_singleton _ f.interval).sublist (List.filter_sublist.map _)

/-! ## Collecting the runs -/

/-- The runs are collected just if each count is positive and no single partition is among
those before it or repeated. -/
theorem intervalsOf_eq_ok_iff {filters : List PartitionFilter} {points : List Int32}
    {runs : List Interval} :
    intervalsOf points filters = .ok runs ↔
      (∀ f ∈ filters, 1 ≤ f.count) ∧ (pointsOf filters).Nodup ∧
        (∀ p ∈ pointsOf filters, p ∉ points) ∧ runsOf filters = runs := by
  -- the single partitions seen so far vary in the induction
  induction filters generalizing points runs with
  | nil =>
    exact ⟨fun h => ⟨nofun, List.nodup_nil, nofun, Except.ok.inj h⟩, fun h => congrArg _ h.2.2.2⟩
  | cons f fs ih =>
    have hcounts : (∀ g ∈ f :: fs, 1 ≤ g.count) ↔ 1 ≤ f.count ∧ ∀ g ∈ fs, 1 ≤ g.count :=
      List.forall_mem_cons
    unfold intervalsOf
    split
    · -- a filter of a single partition
      rename_i hone
      have hpoints : pointsOf (f :: fs) = f.start :: pointsOf fs := pointsOf_cons_of_eq hone fs
      have hruns : runsOf (f :: fs) = runsOf fs := by
        rw [runsOf, List.filter_cons_of_neg (by simp [hone]), runsOf]
      rw [hcounts, hpoints, hruns, List.nodup_cons, List.forall_mem_cons]
      split
      · rename_i hrepeated
        exact ⟨nofun, fun h => absurd (List.contains_iff_mem.1 hrepeated) h.2.2.1.1⟩
      · rename_i hfresh
        rw [List.contains_iff_mem] at hfresh
        rw [ih]
        constructor
        · rintro ⟨hcounts, hnodup, hnew, hruns⟩
          have hstart : f.start ∉ pointsOf fs := fun hp => hnew _ hp List.mem_cons_self
          exact ⟨⟨by rw [hone]; decide, hcounts⟩, ⟨hstart, hnodup⟩,
            ⟨hfresh, fun p hp hmem => hnew p hp (List.mem_cons_of_mem _ hmem)⟩, hruns⟩
        · rintro ⟨⟨-, hcounts⟩, ⟨hstart, hnodup⟩, ⟨-, hnew⟩, hruns⟩
          refine ⟨hcounts, hnodup, fun p hp hmem => ?_, hruns⟩
          rcases List.mem_cons.1 hmem with rfl | hmem
          · exact hstart hp
          · exact hnew p hp hmem
    · rename_i hne
      have hpoints : pointsOf (f :: fs) = pointsOf fs := pointsOf_cons_of_ne hne fs
      rw [hcounts, hpoints]
      split
      · -- a filter of several partitions
        rename_i hseveral
        have hruns : runsOf (f :: fs) = f.interval :: runsOf fs := by
          rw [runsOf, List.filter_cons_of_pos (by simpa using hseveral), List.map_cons, runsOf]
        have hle : 1 ≤ f.count := Int32.le_of_lt hseveral
        rw [hruns, map_eq_ok_iff]
        constructor
        · rintro ⟨rest, hrest, rfl⟩
          obtain ⟨hcounts, hnodup, hnew, rfl⟩ := ih.1 hrest
          exact ⟨⟨hle, hcounts⟩, hnodup, hnew, rfl⟩
        · rintro ⟨⟨-, hcounts⟩, hnodup, hnew, hrun⟩
          exact ⟨runsOf fs, ih.2 ⟨hcounts, hnodup, hnew, rfl⟩, hrun⟩
      · -- a filter without partitions
        rename_i hfew
        refine ⟨nofun, fun h => ?_⟩
        have hle : 1 ≤ f.count := h.1.1
        exact absurd (Int32.lt_of_le_of_ne hle (Ne.symm hne)) hfew

/-! ## Comparing neighbours -/

/-- Runs in order, none of them empty, pass the comparison of neighbours just if any two of
them are disjoint. -/
theorem checkNeighbours_eq_ok_iff {runs : List Interval}
    (hordered : runs.Pairwise fun a b => a.first ≤ b.first)
    (hnonempty : ∀ a ∈ runs, a.first ≤ a.last) :
    checkNeighbours runs = .ok () ↔ runs.Pairwise Interval.Disjoint := by
  induction runs with
  | nil => exact ⟨fun _ => .nil, fun _ => rfl⟩
  | cons a rest ih =>
    obtain ⟨hfirst, hordered⟩ := List.pairwise_cons.1 hordered
    have hrest := fun b hb => hnonempty b (List.mem_cons_of_mem _ hb)
    have ih := ih hordered hrest
    cases rest with
    | nil => exact ⟨fun _ => List.pairwise_singleton _ _, fun _ => rfl⟩
    | cons b rest =>
      have hb : a.Disjoint b ↔ a.last < b.first :=
        Interval.disjoint_iff_lt (hfirst b List.mem_cons_self) (hrest b List.mem_cons_self)
      rw [List.pairwise_cons]
      unfold checkNeighbours
      split
      · rename_i htouch
        exact ⟨nofun, fun h => absurd (hb.1 (h.1 b List.mem_cons_self)) (Int.not_lt.2 htouch)⟩
      · rename_i hgap
        rw [ih]
        refine ⟨fun h => ⟨fun c hc => ?_, h⟩, (·.2)⟩
        -- every run after the neighbour begins no earlier than it
        have hfar : b.first ≤ c.first := by
          rcases List.mem_cons.1 hc with rfl | hc
          · exact Int.le_refl _
          · exact (List.pairwise_cons.1 hordered).1 c hc
        exact (Interval.disjoint_iff_lt (hfirst c hc) (hrest c hc)).2
          (Int.lt_of_lt_of_le (Int.not_le.1 hgap) hfar)

/-- Runs in the order in which they begin. -/
def inOrder (runs : List Interval) : List Interval :=
  runs.mergeSort fun a b => decide (a.first ≤ b.first)

/-- Putting runs in order loses none of them. -/
theorem inOrder_perm (runs : List Interval) : (inOrder runs).Perm runs := List.mergeSort_perm _ _

/-- Runs in order begin one after another. -/
theorem pairwise_inOrder (runs : List Interval) :
    (inOrder runs).Pairwise fun a b => a.first ≤ b.first := by
  have hsorted : (inOrder runs).Pairwise fun a b => decide (a.first ≤ b.first) = true :=
    List.pairwise_mergeSort
      (fun a b c hab hbc => by simp only [decide_eq_true_eq] at *; omega)
      (fun a b => by simp only [Bool.or_eq_true, decide_eq_true_eq]; omega) runs
  exact hsorted.imp fun h => of_decide_eq_true h

/-- The runs of filters, in order, pass the comparison of neighbours just if any two of them are
disjoint. -/
theorem checkNeighbours_inOrder_eq_ok_iff {filters : List PartitionFilter} :
    checkNeighbours (inOrder (runsOf filters)) = .ok () ↔
      (runsOf filters).Pairwise Interval.Disjoint := by
  have hperm : (inOrder (runsOf filters)).Perm (runsOf filters) := inOrder_perm _
  have hnonempty : ∀ a ∈ inOrder (runsOf filters), a.first ≤ a.last := by
    intro a ha
    obtain ⟨f, hf, rfl⟩ := List.mem_map.1 (hperm.mem_iff.1 ha)
    exact PartitionFilter.interval_nonempty (of_decide_eq_true (List.mem_filter.1 hf).2)
  exact (checkNeighbours_eq_ok_iff (pairwise_inOrder _) hnonempty).trans (hperm.pairwise_iff .symm)

/-- A set of filters is accepted just if it selects no partition twice. -/
theorem checkPartitions_eq_ok_iff {filters : List PartitionFilter} :
    checkPartitions filters = .ok () ↔ Apart filters := by
  unfold checkPartitions
  cases hcollect : intervalsOf [] filters with
  | error fault =>
    refine ⟨nofun, fun h => ?_⟩
    have hok := intervalsOf_eq_ok_iff.2 ⟨h.counts, h.points, fun _ _ => List.not_mem_nil, rfl⟩
    exact absurd (hcollect.symm.trans hok) nofun
  | ok found =>
    obtain ⟨hcounts, hnodup, -, rfl⟩ := intervalsOf_eq_ok_iff.1 hcollect
    exact checkNeighbours_inOrder_eq_ok_iff.trans
      ⟨fun h => ⟨hcounts, hnodup, h⟩, (·.runs)⟩

end BackupControl
