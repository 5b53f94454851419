/-
# The partitions that a scan selects

A digest to resume after and a list of selectors exclude each other.  A digest selects a single
run, which cannot overlap; a list may name a partition twice, and is then refused.
-/
import BackupControl.Job.Policies
import BackupControl.Proofs.Partition.Overlap
import BackupControl.Proofs.Partition.Selectors
import BackupControl.Proofs.Text.Commas

namespace BackupControl

/-- The run after a digest is not empty. -/
theorem one_le_count_afterDigest (cursor : DigestCursor) :
    1 ≤ (cursor.filter (partitionCount - partitionOf cursor.digest)).count := by
  obtain ⟨hleast, hmost⟩ := partitionOf_bounds cursor.digest
  have hpartitions : partitionCount = 4096 := rfl
  have hone : (1 : Int32).toInt = 1 := rfl
  rw [DigestCursor.filter, Int32.le_iff_toInt_le, hone, Int32.toInt_ofInt_of_le]
  all_goals omega

namespace Scan

variable {g : Scan Settled}

/-- The partitions that a scan names are accepted just if none is selected twice. -/
theorem partitionFilters_eq_ok_iff {filters : List PartitionFilter} :
    g.partitionFilters = .ok filters ↔ g.selectedPartitions = .ok filters ∧ Apart filters := by
  rw [partitionFilters, bind_eq_ok_iff, ← checkPartitions_eq_ok_iff]
  constructor
  · rintro ⟨selected, hselected, h⟩
    obtain ⟨_, hcheck, hpure⟩ := bind_eq_ok_iff.1 h
    obtain rfl := pure_eq_ok_iff.1 hpure
    rw [during_eq_ok_iff, ofCheck_eq_ok_iff, mapError_eq_ok_iff] at hcheck
    exact ⟨hselected, hcheck⟩
  · rintro ⟨hselected, hcheck⟩
    refine ⟨filters, hselected, bind_eq_ok_iff.2 ⟨(), ?_, rfl⟩⟩
    rw [during_eq_ok_iff, ofCheck_eq_ok_iff, mapError_eq_ok_iff]
    exact hcheck

/-- Without a digest and a list, every partition is selected. -/
theorem partitionFilters_of_unset (hdigest : g.afterDigest = "") (hlist : g.partitionList = "") :
    g.partitionFilters = .ok [.all] := by
  refine partitionFilters_eq_ok_iff.2 ⟨?_, apart_singleton (by decide)⟩
  rw [selectedPartitions, hdigest, hlist]
  rfl

/-- The partitions that a scan names can be read, and none is named twice. -/
structure PartitionsReadable (g : Scan Settled) : Prop where
  afterDigest : g.afterDigest ≠ "" → ∃ digest, SpellsDigest g.afterDigest digest
  partitionList : g.partitionList ≠ "" → ∃ filters,
    List.Forall₂ (Selects g.transfer.nameSpace) (splitCommas g.partitionList) filters ∧
      Apart filters

/-- A digest to resume after is accepted just if it is one. -/
theorem exists_partitionFilters_of_afterDigest (hset : g.afterDigest ≠ "") :
    (∃ filters, g.partitionFilters = .ok filters) ↔
      ∃ digest, SpellsDigest g.afterDigest digest := by
  simp only [partitionFilters_eq_ok_iff, selectedPartitions, if_pos hset, during_eq_ok_iff,
    mapError_eq_ok_iff, filterAfterDigest, map_eq_ok_iff, readDigest_eq_ok_iff]
  constructor
  · rintro ⟨_, ⟨_, ⟨cursor, ⟨-, hspelled⟩, -⟩, -⟩, -⟩
    exact ⟨cursor.digest, hspelled⟩
  · rintro ⟨digest, hspelled⟩
    exact ⟨_, ⟨_, ⟨⟨g.transfer.nameSpace, digest⟩, ⟨rfl, hspelled⟩, rfl⟩, rfl⟩,
      apart_singleton (one_le_count_afterDigest _)⟩

/-- A list of selectors is accepted just if each is one and they name no partition twice. -/
theorem exists_partitionFilters_of_list (hunset : g.afterDigest = "")
    (hset : g.partitionList ≠ "") :
    (∃ filters, g.partitionFilters = .ok filters) ↔
      ∃ filters, List.Forall₂ (Selects g.transfer.nameSpace) (splitCommas g.partitionList) filters ∧
        Apart filters := by
  have hsplit : (commaPieces g.partitionList.toList).map String.ofList =
      splitCommas g.partitionList := (splitCommas_of_ne hset).symm
  simp only [partitionFilters_eq_ok_iff, selectedPartitions, if_neg (Classical.not_not.2 hunset),
    if_pos hset, during_eq_ok_iff, mapError_eq_ok_iff, readPartitionList_eq_ok_iff, hsplit]

/-- With at most one of a digest and a list, the partitions are accepted just if what is given
can be read. -/
theorem exists_partitionFilters_iff (hsingle : g.afterDigest = "" ∨ g.partitionList = "") :
    (∃ filters, g.partitionFilters = .ok filters) ↔ g.PartitionsReadable := by
  by_cases hdigest : g.afterDigest = ""
  · by_cases hlist : g.partitionList = ""
    · refine ⟨fun _ => ⟨fun h => absurd hdigest h, fun h => absurd hlist h⟩, fun _ => ?_⟩
      exact ⟨_, partitionFilters_of_unset hdigest hlist⟩
    · rw [exists_partitionFilters_of_list hdigest hlist]
      exact ⟨fun h => ⟨fun hset => absurd hdigest hset, fun _ => h⟩, fun h => h.partitionList hlist⟩
  · have hlist : g.partitionList = "" := hsingle.resolve_left hdigest
    rw [exists_partitionFilters_of_afterDigest hdigest]
    exact ⟨fun h => ⟨fun _ => h, fun hset => absurd hlist hset⟩, fun h => h.afterDigest hdigest⟩

end Scan

end BackupControl
