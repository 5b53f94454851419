/-
# Options that mean nothing to a change feed

Which options of the scan section a change feed refuses, and which of them it names.  They are
looked for in an order of their own, which is not everywhere that of their declaration: the parts
of the namespace go before the times of modification, and those before the time to live.
-/
import BackupControl.Proofs.Service.Sections
import Mathlib.Data.List.Nodup

namespace BackupControl

/-! ## The first in two orders -/

section Blocks

variable {α : Type} {p : α → Bool}

/-- Blocks of which none holds what is looked for hold it in no order. -/
theorem find?_flatten_eq_none_iff {blocks : List (List α)} :
    blocks.flatten.find? p = none ↔ ∀ block ∈ blocks, block.any p = false := by
  rw [List.find?_eq_none]
  constructor
  · intro h block hblock
    rw [List.any_eq_false]
    exact fun x hx => h x (List.mem_flatten.2 ⟨block, hblock, hx⟩)
  · intro h x hx
    obtain ⟨block, hblock, hx⟩ := List.mem_flatten.1 hx
    exact List.any_eq_false.1 (h block hblock) x hx

/-- Through disjoint blocks one finds the same from either end just if no two of them hold
what is looked for. -/
theorem find?_flatten_reverse_eq_iff {blocks : List (List α)}
    (hdisjoint : blocks.Pairwise List.Disjoint) :
    blocks.flatten.find? p = blocks.reverse.flatten.find? p ↔
      blocks.Pairwise fun a b => ¬ (a.any p = true ∧ b.any p = true) := by
  induction blocks with
  | nil => exact ⟨fun _ => .nil, fun _ => rfl⟩
  | cons b bs ih =>
    rw [List.pairwise_cons] at hdisjoint ⊢
    rw [List.flatten_cons, List.find?_append, List.reverse_cons, List.flatten_append,
      List.flatten_singleton, List.find?_append]
    cases hb : b.find? p with
    | none =>
      have hany : b.any p = false := List.any_eq_false.2 (List.find?_eq_none.1 hb)
      rw [Option.none_or, Option.or_none, ih hdisjoint.2, hany]
      exact ⟨fun h => ⟨fun _ _ h => absurd h.1 Bool.false_ne_true, h⟩, (·.2)⟩
    | some x =>
      have hx : x ∈ b := List.mem_of_find?_eq_some hb
      have hany : b.any p = true := List.any_eq_true.2 ⟨x, hx, List.find?_some hb⟩
      have hreverse : bs.reverse.flatten.find? p = none ↔ ∀ c ∈ bs, c.any p = false := by
        rw [find?_flatten_eq_none_iff]
        simp only [List.mem_reverse]
      rw [Option.some_or]
      constructor
      · -- what the other end finds first would be in two blocks
        intro h
        have hnone : bs.reverse.flatten.find? p = none := by
          cases hy : bs.reverse.flatten.find? p with
          | none => rfl
          | some y =>
            rw [hy, Option.some_or] at h
            obtain rfl := Option.some.inj h
            obtain ⟨c, hc, hxc⟩ := List.mem_flatten.1 (List.mem_of_find?_eq_some hy)
            exact absurd hxc (hdisjoint.1 c (List.mem_reverse.1 hc) hx)
        have hothers := hreverse.1 hnone
        refine ⟨fun c hc hboth => ?_, List.pairwise_of_forall_mem_list fun a ha c _ hboth => ?_⟩
        · exact absurd hboth.2 (by rw [hothers c hc]; exact Bool.false_ne_true)
        · exact absurd hboth.1 (by rw [hothers a ha]; exact Bool.false_ne_true)
      · rintro ⟨hothers, -⟩
        have hnone := hreverse.2 fun c hc => Bool.eq_false_iff.2 fun h => hothers c hc ⟨hany, h⟩
        rw [hnone, Option.none_or]

/-- What stands in front of the blocks and behind them does not matter, unless what is looked for
stands in front. -/
theorem find?_append_flatten_reverse_eq_iff {front back : List α} {blocks : List (List α)}
    (hdisjoint : blocks.Pairwise List.Disjoint) :
    (front ++ blocks.flatten ++ back).find? p = (front ++ blocks.reverse.flatten ++ back).find? p ↔
      front.any p = true ∨ blocks.Pairwise fun a b => ¬ (a.any p = true ∧ b.any p = true) := by
  rw [List.find?_append, List.find?_append, List.find?_append, List.find?_append]
  cases hfront : front.find? p with
  | some x =>
    have hany : front.any p = true :=
      List.any_eq_true.2 ⟨x, List.mem_of_find?_eq_some hfront, List.find?_some hfront⟩
    exact ⟨fun _ => .inl hany, fun _ => rfl⟩
  | none =>
    have hany : front.any p = false := List.any_eq_false.2 (List.find?_eq_none.1 hfront)
    have hnone : blocks.reverse.flatten.find? p = none ↔ blocks.flatten.find? p = none := by
      rw [find?_flatten_eq_none_iff, find?_flatten_eq_none_iff]
      simp only [List.mem_reverse]
    rw [← find?_flatten_reverse_eq_iff hdisjoint, hany, Option.none_or, Option.none_or]
    simp only [Bool.false_eq_true, false_or]
    cases hblocks : blocks.flatten.find? p with
    | none =>
      rw [hnone.2 hblocks]
      exact iff_of_true rfl rfl
    | some x =>
      cases hreverse : blocks.reverse.flatten.find? p with
      | none => exact absurd (hblocks.symm.trans (hnone.1 hreverse)) nofun
      | some y => rw [Option.some_or, Option.some_or]

end Blocks

/-! ## Names -/

/-- The name under which an option is refused: that of its flag, or its key if it has none. -/
def Setting.name {G : (Type → Type) → Type} (s : Setting G) : String :=
  (s.flag.map (·.long)).getD s.key

namespace Scan

/-- The option of a scan with a name. -/
def named? (name : String) : Option (Setting Scan) := settings.find? (·.name == name)

/-- Where a scan writes to, if not into a folder. -/
def outputNames : List String := ["output-file", "output-file-prefix"]

/-- What a scan keeps to, in the order in which a change feed looks for it: a part of the
namespace, a time of modification, a time to live. -/
def filterNames : List (List String) := [
  ["after-digest", "partition-list", "node-list", "rack-list", "prefer-racks", "filter-exp"],
  ["modified-before", "modified-after"],
  ["no-ttl-only"]]

/-- How far a scan goes. -/
def extentNames : List String := ["max-records", "estimate", "continue", "state-file-dst"]

/-- The options of a scan that a change feed refuses, in the order in which it looks for them. -/
def scanOnlyNames : List String := outputNames ++ filterNames.flatten ++ extentNames

/-- The options of a scan that a change feed refuses, in the order of their declaration. -/
def declaredScanOnlyNames : List String :=
  (settings.map (·.name)).filter fun name => name ∈ scanOnlyNames

/-- What a scan keeps to is declared in the opposite order, block by block. -/
theorem declaredScanOnlyNames_eq :
    declaredScanOnlyNames = outputNames ++ filterNames.reverse.flatten ++ extentNames := by
  decide +kernel

/-- An option counts against a change feed if it is set, and an estimate if it is asked for. -/
def counts (g : Scan Given) (name : String) : Bool :=
  if name = "estimate" then g.estimate == some true
  else (named? name).any fun s => (s.get g).isSome

/-- A change feed refuses the options that count, in the order in which it looks for them. -/
theorem scanOnly_eq (g : Scan Given) : g.scanOnly = scanOnlyNames.filter g.counts := by
  have hpairs : g.scanOnly =
      ((scanOnlyNames.map fun name => (name, g.counts name)).filter (·.2)).map (·.1) := rfl
  rw [hpairs, List.filter_map, List.map_map]
  exact List.map_id _

/-- Whether to estimate the size of the backup. -/
def estimateSetting : Setting Scan where
  key := "estimate"
  kind := .switch
  get := (·.estimate)
  put := fun v g => { g with estimate := v }
  flag := some ⟨"estimate", some 'e', .both⟩

/-- An estimate is an option of a scan. -/
theorem estimateSetting_mem : estimateSetting ∈ settings := by
  have hnamed : named? "estimate" = some estimateSetting := rfl
  exact List.mem_of_find?_eq_some hnamed

end Scan

/-! ## Layers -/

namespace Layer

/-- A layer sets an option of the scan section. -/
def setsScan (l : Layer) (name : String) : Bool :=
  (Scan.named? name).any fun s => (l.value? .scan s).isSome

/-- Whether to estimate, as the last layer says that says so. -/
def lastEstimate? (ls : List Layer) : Option Bool :=
  (ls.filterMap fun l => l.scan.bind (·.estimate)).getLast?

/-- An option counts against a change feed among layers if one of them sets it, and an estimate
if the last of them to set it asks for it. -/
def countsAmong (ls : List Layer) (name : String) : Bool :=
  if name = "estimate" then lastEstimate? ls == some true else ls.any (·.setsScan name)

/-- Layers over each other estimate as the last of them says. -/
theorem estimate_foldl_overlay (ls : List Layer) :
    ((ls.foldl overlay empty).scan.getD OptionGroup.unset).estimate = lastEstimate? ls := by
  have hget := get_getD_unset Scan.estimateSetting_mem (ls.foldl overlay empty).scan
  have hvalue := value?_foldl_overlay empty ls (n := .scan) Scan.estimateSetting_mem
  rw [value?_empty, Option.or_none] at hvalue
  exact hget.trans hvalue

/-- Layers over each other set an option of the scan section just if one of them does. -/
theorem any_named?_foldl_overlay (ls : List Layer) (name : String) :
    ((Scan.named? name).any fun s =>
      (s.get ((ls.foldl overlay empty).scan.getD OptionGroup.unset)).isSome) =
        ls.any (·.setsScan name) := by
  unfold setsScan
  cases hnamed : Scan.named? name with
  | none =>
    simp only [Option.any_none]
    exact (List.any_eq_false.2 fun _ _ => Bool.false_ne_true).symm
  | some s =>
    have hs : s ∈ Section.scan.settings := List.mem_of_find?_eq_some hnamed
    simp only [Option.any_some]
    rw [get_getD_unset hs]
    exact isSome_value?_foldl_overlay ls hs

/-- An option counts in the scan section of layers over each other just if it counts among
them, whichever of them sets it. -/
theorem counts_foldl_overlay (ls : List Layer) (name : String) :
    ((ls.foldl overlay empty).scan.getD OptionGroup.unset).counts name = countsAmong ls name := by
  rw [Scan.counts, countsAmong, estimate_foldl_overlay, any_named?_foldl_overlay]

/-- Among layers, options of two kinds are set that a change feed looks for in another order than
they are declared in, and none in front of them. -/
def OutOfOrder (ls : List Layer) : Prop :=
  (∀ name ∈ Scan.outputNames, countsAmong ls name = false) ∧
    ¬ Scan.filterNames.Pairwise fun a b =>
      ¬ (a.any (countsAmong ls) = true ∧ b.any (countsAmong ls) = true)

/-- The first option that counts against a change feed is the first to be declared, unless they
are out of order. -/
theorem find?_countsAmong_eq_iff (ls : List Layer) :
    Scan.scanOnlyNames.find? (countsAmong ls) =
        Scan.declaredScanOnlyNames.find? (countsAmong ls) ↔ ¬ OutOfOrder ls := by
  have hnodup : Scan.filterNames.flatten.Nodup := by
    decide +kernel
  have hdisjoint := (List.nodup_flatten.1 hnodup).2
  rw [Scan.declaredScanOnlyNames_eq, Scan.scanOnlyNames,
    find?_append_flatten_reverse_eq_iff hdisjoint, OutOfOrder, not_and_or, not_not,
    List.any_eq_true]
  simp only [Classical.not_forall, Bool.not_eq_false, exists_prop]

end Layer

/-! ## Refusals -/

namespace BackupService

variable {d : Defaults} {ls : List Layer}

/-- Layers over each other with a change-feed section are refused for the first option that counts
among them. -/
theorem ofLayer_foldl_eq_error_iff
    (hfeed : (ls.foldl Layer.overlay Layer.empty).changeFeed.isSome = true) {v : Violation} :
    ofLayer d (ls.foldl Layer.overlay Layer.empty) = .error v ↔
      ∃ name, Scan.scanOnlyNames.find? (Layer.countsAmong ls) = some name ∧
        v = .unsupportedForChangeFeed name := by
  rw [ofLayer_eq_error_iff hfeed, Scan.scanOnly_eq, List.head?_filter,
    funext (Layer.counts_foldl_overlay ls)]

/-- Layers over each other with a change-feed section are refused just if one of them sets an
option other than an estimate that means something to a scan only, or the last to say whether to
estimate asks for it. -/
theorem exists_ofLayer_foldl_eq_error_iff
    (hfeed : (ls.foldl Layer.overlay Layer.empty).changeFeed.isSome = true) :
    (∃ v, ofLayer d (ls.foldl Layer.overlay Layer.empty) = .error v) ↔
      (∃ l ∈ ls, ∃ name ∈ Scan.scanOnlyNames, name ≠ "estimate" ∧ l.setsScan name = true) ∨
        Layer.lastEstimate? ls = some true := by
  simp only [ofLayer_foldl_eq_error_iff hfeed]
  have hfound : (∃ v name, Scan.scanOnlyNames.find? (Layer.countsAmong ls) = some name ∧
      v = Violation.unsupportedForChangeFeed name) ↔
        ∃ name ∈ Scan.scanOnlyNames, Layer.countsAmong ls name = true := by
    rw [← List.find?_isSome, Option.isSome_iff_exists]
    exact ⟨fun ⟨_, name, hname, _⟩ => ⟨name, hname⟩, fun ⟨name, hname⟩ => ⟨_, name, hname, rfl⟩⟩
  rw [hfound]
  constructor
  · rintro ⟨name, hname, hcounts⟩
    rw [Layer.countsAmong] at hcounts
    split at hcounts
    · exact .inr (beq_iff_eq.1 hcounts)
    · rename_i hother
      obtain ⟨l, hl, hsets⟩ := List.any_eq_true.1 hcounts
      exact .inl ⟨l, hl, name, hname, hother, hsets⟩
  · rintro (⟨l, hl, name, hname, hother, hsets⟩ | hestimate)
    · refine ⟨name, hname, ?_⟩
      rw [Layer.countsAmong, if_neg hother]
      exact List.any_eq_true.2 ⟨l, hl, hsets⟩
    · refine ⟨"estimate", by decide +kernel, ?_⟩
      rw [Layer.countsAmong, if_pos rfl, hestimate]
      rfl

end BackupService

end BackupControl
