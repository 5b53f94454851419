/-
# The pieces between commas

The pieces of a text are those texts without a comma that make up the text when a comma is put
between neighbours.  So splitting and joining undo each other, except that the empty text has no
item rather than an empty one.  Which texts have one piece, or two, follows from that.
-/
import BackupControl.Text.Commas
import Mathlib.Data.List.Basic

namespace BackupControl

/-! ## Pieces -/

/-- A text is cut at its commas as a list is at an element. -/
theorem commaPieces_eq_splitOn (cs : List Char) : commaPieces cs = cs.splitOn ',' := by
  induction cs with
  | nil => exact (List.splitOn_nil ',').symm
  | cons c cs ih =>
    rw [commaPieces, List.splitOn_cons_eq_if_modifyHead, ih]
    by_cases hcomma : c = ','
    · rw [if_pos hcomma, if_pos (beq_iff_eq.2 hcomma)]
    · rw [if_neg hcomma, if_neg (mt beq_iff_eq.1 hcomma)]
      cases hpieces : cs.splitOn ',' with
      | nil => exact absurd hpieces (List.splitOn_ne_nil ',' cs)
      | cons p ps => rfl

/-- No piece has a comma. -/
theorem not_mem_of_mem_commaPieces {cs p : List Char} (hp : p ∈ commaPieces cs) : ',' ∉ p := by
  induction cs generalizing p with
  | nil =>
    obtain rfl := List.mem_singleton.1 hp
    exact List.not_mem_nil
  | cons c cs ih =>
    rw [commaPieces] at hp
    split at hp
    · rcases List.mem_cons.1 hp with rfl | hp
      · exact List.not_mem_nil
      · exact ih hp
    · rename_i hcomma
      split at hp
      · rename_i hpieces
        rw [commaPieces_eq_splitOn] at hpieces
        exact absurd hpieces (List.splitOn_ne_nil ',' cs)
      · rename_i q qs hpieces
        rw [hpieces] at ih
        rcases List.mem_cons.1 hp with rfl | hp
        · have hq : ',' ∉ q := ih List.mem_cons_self
          exact fun h => (List.mem_cons.1 h).elim (fun hc => hcomma hc.symm) hq
        · exact ih (List.mem_cons_of_mem _ hp)

/-- The pieces of a text are those without a comma that make it up. -/
theorem commaPieces_eq_iff {cs : List Char} {ps : List (List Char)} :
    commaPieces cs = ps ↔ ps ≠ [] ∧ (∀ p ∈ ps, ',' ∉ p) ∧ cs = [','].intercalate ps := by
  constructor
  · rintro rfl
    refine ⟨?_, fun _ => not_mem_of_mem_commaPieces, ?_⟩
    · rw [commaPieces_eq_splitOn]
      exact List.splitOn_ne_nil ',' cs
    · rw [commaPieces_eq_splitOn, List.intercalate_splitOn]
  · rintro ⟨hsome, hcomma, rfl⟩
    rw [commaPieces_eq_splitOn, List.splitOn_intercalate ',' hcomma hsome]

/-! ## Items -/

/-- A text that is not empty has its pieces as its items. -/
theorem splitCommas_of_ne {s : String} (hs : s ≠ "") :
    splitCommas s = (commaPieces s.toList).map String.ofList :=
  if_neg (mt String.isEmpty_iff.1 hs)

/-- Only the empty text has no items. -/
theorem splitCommas_eq_nil_iff {s : String} : splitCommas s = [] ↔ s = "" := by
  constructor
  · intro h
    by_contra hs
    rw [splitCommas_of_ne hs, List.map_eq_nil_iff, commaPieces_eq_splitOn] at h
    exact List.splitOn_ne_nil ',' _ h
  · rintro rfl
    rfl

/-- Two lists of texts are equal just if their characters are. -/
theorem map_ofList_eq_iff {ps : List (List Char)} {items : List String} :
    ps.map String.ofList = items ↔ ps = items.map String.toList := by
  constructor
  · rintro rfl
    rw [List.map_map]
    exact (List.map_id ps).symm.trans (List.map_congr_left fun p _ => String.toList_ofList.symm)
  · rintro rfl
    rw [List.map_map]
    exact (List.map_congr_left fun s _ => String.ofList_toList).trans (List.map_id items)

/-- Texts without commas, joined by commas, are the pieces of what results. -/
theorem commaPieces_joinCommas {items : List String} (hsome : items ≠ [])
    (hcomma : ∀ s ∈ items, ',' ∉ s.toList) :
    (commaPieces (joinCommas items).toList).map String.ofList = items := by
  rw [map_ofList_eq_iff, commaPieces_eq_iff]
  refine ⟨fun h => hsome (List.map_eq_nil_iff.1 h), ?_, ?_⟩
  · intro p hp
    obtain ⟨s, hs, rfl⟩ := List.mem_map.1 hp
    exact hcomma s hs
  · rw [joinCommas, String.toList_intercalate]
    rfl

/-- No item has a comma. -/
theorem comma_notMem_of_mem_splitCommas {s item : String} (h : item ∈ splitCommas s) :
    ',' ∉ item.toList := by
  rw [splitCommas] at h
  split at h
  · exact absurd h List.not_mem_nil
  · obtain ⟨p, hp, rfl⟩ := List.mem_map.1 h
    rw [String.toList_ofList]
    exact not_mem_of_mem_commaPieces hp

/-- The items of a text, joined by commas, are the text. -/
theorem joinCommas_splitCommas (s : String) : joinCommas (splitCommas s) = s := by
  by_cases hs : s = ""
  · subst hs
    rfl
  · obtain ⟨-, -, hpieces⟩ := commaPieces_eq_iff.1 (Eq.refl (commaPieces s.toList))
    rw [splitCommas_of_ne hs, joinCommas, ← String.toList_inj, String.toList_intercalate,
      ← map_ofList_eq_iff.1 rfl]
    exact hpieces.symm

/-- Texts joined by commas are the items of what results just if none of them has a comma and they
are not the empty text alone. -/
theorem splitCommas_joinCommas_iff {items : List String} :
    splitCommas (joinCommas items) = items ↔ items ≠ [""] ∧ ∀ s ∈ items, ',' ∉ s.toList := by
  constructor
  · refine fun h => ⟨?_, fun s hs => comma_notMem_of_mem_splitCommas (h.symm ▸ hs)⟩
    rintro rfl
    exact absurd h (by decide)
  · rintro ⟨hblank, hcomma⟩
    by_cases hsome : items = []
    · subst hsome
      rfl
    · have hpieces := commaPieces_joinCommas hsome hcomma
      have hjoined : joinCommas items ≠ "" := by
        intro hempty
        rw [hempty] at hpieces
        exact hblank hpieces.symm
      rw [splitCommas_of_ne hjoined, hpieces]

/-- A text has one item just if it is not empty and has no comma; the item is the text. -/
theorem splitCommas_eq_singleton_iff {s item : String} :
    splitCommas s = [item] ↔ s ≠ "" ∧ ',' ∉ s.toList ∧ item = s := by
  by_cases hs : s = ""
  · subst hs
    exact ⟨fun h => absurd h nofun, fun h => absurd rfl h.1⟩
  · rw [splitCommas_of_ne hs, map_ofList_eq_iff, commaPieces_eq_iff]
    simp only [List.map_cons, List.map_nil, List.forall_mem_singleton, List.intercalate_singleton,
      String.toList_inj]
    constructor
    · rintro ⟨-, hcomma, rfl⟩
      exact ⟨hs, hcomma, rfl⟩
    · rintro ⟨-, hcomma, rfl⟩
      exact ⟨List.cons_ne_nil _ _, hcomma, rfl⟩

/-- A text has two items just if it consists of them with a comma between. -/
theorem splitCommas_eq_pair_iff {s first second : String} :
    splitCommas s = [first, second] ↔
      ',' ∉ first.toList ∧ ',' ∉ second.toList ∧ s = first ++ "," ++ second := by
  by_cases hs : s = ""
  · subst hs
    refine ⟨fun h => absurd h nofun, fun h => absurd h.2.2 ?_⟩
    intro hempty
    have hlength := congrArg (fun s : String => s.toList.length) hempty
    simp at hlength
  · rw [splitCommas_of_ne hs, map_ofList_eq_iff, commaPieces_eq_iff]
    simp only [List.map_cons, List.map_nil, List.forall_mem_cons, List.intercalate_cons_cons,
      List.intercalate_singleton, ← String.toList_inj, String.toList_append]
    constructor
    · rintro ⟨-, ⟨hfirst, hsecond, -⟩, h⟩
      exact ⟨hfirst, hsecond, h⟩
    · rintro ⟨hfirst, hsecond, h⟩
      exact ⟨List.cons_ne_nil _ _, ⟨hfirst, hsecond, List.forall_mem_nil _⟩, h⟩

end BackupControl
