/-
# Components of paths

A path is read as the components between its slashes.  Joining two paths puts the components of
the second behind those of the first, unless the second begins at the root, and the folder that
holds a path has all its components but the last.

Main statements: `pathComponents_joinPath`, `pathComponents_parentPath`.
-/
import BackupControl.Text.Path
import Mathlib.Data.List.Basic

namespace BackupControl

/-! ## Components -/

/-- A slash cuts a text into what has its components in front of it and behind it. -/
theorem slashComponents_append_slash (as bs : List Char) :
    slashComponents (as ++ '/' :: bs) = slashComponents as ++ slashComponents bs := by
  rw [slashComponents, List.splitOn_append_cons_self, List.filter_append]
  rfl

theorem slashComponents_nil : slashComponents [] = [] := rfl

/-- A slash in front adds no component. -/
theorem slashComponents_slash_cons (cs : List Char) :
    slashComponents ('/' :: cs) = slashComponents cs :=
  slashComponents_append_slash [] cs

/-- A slash at the end adds no component. -/
theorem slashComponents_append_singleton_slash (cs : List Char) :
    slashComponents (cs ++ ['/']) = slashComponents cs := by
  rw [slashComponents_append_slash, slashComponents_nil, List.append_nil]

/-- A text without slashes that names something is its only component. -/
theorem slashComponents_eq_singleton {cs : List Char} (hslash : '/' ∉ cs) (hsome : cs ≠ [])
    (hdot : cs ≠ ['.']) : slashComponents cs = [cs] := by
  rw [slashComponents, List.splitOn_eq_singleton hslash, List.filter_singleton]
  simp [hsome, hdot]

/-- The components of a text that ends in one are those in front of the last slash, and it.  The
text is given last character first. -/
theorem slashComponents_reverse {cs : List Char} (hsome : cs.takeWhile (· != '/') ≠ [])
    (hdot : cs.takeWhile (· != '/') ≠ ['.']) :
    slashComponents cs.reverse =
      slashComponents (cs.dropWhile (· != '/')).reverse ++
        [(cs.takeWhile (· != '/')).reverse] := by
  have hlast : slashComponents (cs.takeWhile (· != '/')).reverse =
      [(cs.takeWhile (· != '/')).reverse] := by
    refine slashComponents_eq_singleton (fun h => ?_) (mt List.reverse_eq_nil_iff.1 hsome)
      fun h => hdot (List.reverse_eq_iff.1 h)
    exact absurd (List.all_eq_true.1 List.all_takeWhile _ (List.mem_reverse.1 h)) (by decide)
  conv_lhs => rw [← List.takeWhile_append_dropWhile (p := (· != '/')) (l := cs)]
  rw [List.reverse_append]
  cases hrest : cs.dropWhile (· != '/') with
  | nil => exact hlast
  | cons c rest =>
    have hc : c = '/' := by
      have hstop := List.head_dropWhile_not (· != '/') (l := cs) (by simp [hrest])
      simpa [hrest] using hstop
    rw [hc, List.reverse_cons, List.append_assoc, List.singleton_append,
      slashComponents_append_slash, slashComponents_append_singleton_slash, hlast]

/-- A path has no more components than characters. -/
theorem length_pathComponents_le (path : String) :
    (pathComponents path).length ≤ path.length := by
  rw [pathComponents, List.length_map, ← String.length_toList]
  induction path.toList with
  | nil => exact Nat.le_refl 0
  | cons c cs ih =>
    by_cases hslash : c = '/'
    · rw [hslash, slashComponents_slash_cons]
      exact Nat.le_succ_of_le ih
    · rw [slashComponents, List.splitOn_cons_eq_if_modifyHead,
        if_neg (mt beq_iff_eq.1 hslash), List.length_cons]
      rw [slashComponents] at ih
      cases hpieces : cs.splitOn '/' with
      | nil => exact absurd hpieces (List.splitOn_ne_nil '/' cs)
      | cons piece pieces =>
        -- only the first piece grows, so at most one piece comes to be a component
        rw [hpieces, List.filter_cons] at ih
        rw [List.modifyHead_cons, List.filter_cons]
        split at ih <;> split <;> grind

/-! ## Joining -/

/-- The path begins at the root. -/
def IsAbsolute (path : String) : Prop := path.toList.head? = some '/'

instance : DecidablePred IsAbsolute := fun path =>
  inferInstanceAs (Decidable (path.toList.head? = some '/'))

/-- The path is the folder, one slash, and the name.  A folder that ends in a slash has it
already. -/
inductive Beneath (directory name : String) : String → Prop where
  | slashed (h : directory.toList.getLast? = some '/') : Beneath directory name (directory ++ name)
  | plain (h : directory.toList.getLast? ≠ some '/') :
      Beneath directory name (directory ++ "/" ++ name)

variable {directory name path : String}

theorem startsWith_slash_iff : name.startsWith "/" = true ↔ IsAbsolute name := by
  have hslash : "/".toList = ['/'] := rfl
  rw [String.startsWith_string_iff, hslash, IsAbsolute]
  cases name.toList with
  | nil => simp
  | cons c cs => simp [List.cons_prefix_cons, eq_comm]

theorem endsWith_slash_iff :
    directory.endsWith "/" = true ↔ directory.toList.getLast? = some '/' := by
  have hslice : directory.endsWith "/" = directory.toSlice.endsWith "/" := rfl
  have hslash : "/".toList = ['/'] := rfl
  rw [hslice, String.Slice.endsWith_string_iff, hslash, String.copy_toSlice,
    List.singleton_suffix_iff_getLast?_eq_some]

/-- A path of its own stays as it is. -/
theorem joinPath_of_isAbsolute (h : IsAbsolute name) : joinPath directory name = name :=
  if_pos (startsWith_slash_iff.2 h)

/-- Any other name comes to lie beneath the folder. -/
theorem beneath_joinPath (hdirectory : directory ≠ "") (h : ¬ IsAbsolute name) :
    Beneath directory name (joinPath directory name) := by
  have hsome : ¬ directory.isEmpty = true := mt String.isEmpty_iff.1 hdirectory
  rw [joinPath, if_neg (mt startsWith_slash_iff.1 h)]
  by_cases hslash : directory.toList.getLast? = some '/'
  · rw [if_pos (.inr (endsWith_slash_iff.2 hslash))]
    exact .slashed hslash
  · rw [if_neg (not_or.2 ⟨hsome, mt endsWith_slash_iff.1 hslash⟩)]
    exact .plain hslash

/-- What lies beneath a folder begins with it. -/
theorem Beneath.isPrefix (h : Beneath directory name path) : directory.toList <+: path.toList := by
  cases h with
  | slashed =>
    rw [String.toList_append]
    exact List.prefix_append _ _
  | plain =>
    rw [String.toList_append, String.toList_append, List.append_assoc]
    exact List.prefix_append _ _

/-- What lies beneath a folder is longer than its name. -/
theorem Beneath.length_lt (hdirectory : directory ≠ "") (h : Beneath directory name path) :
    name.toList.length < path.toList.length := by
  have hpos : 0 < directory.toList.length :=
    List.length_pos_iff.2 (mt String.toList_eq_nil_iff.1 hdirectory)
  cases h with
  | slashed =>
    rw [String.toList_append, List.length_append]
    omega
  | plain =>
    rw [String.toList_append, String.toList_append, List.length_append, List.length_append]
    omega

/-- A name is put beneath a folder just if it is no path of its own. -/
theorem beneath_joinPath_iff (hdirectory : directory ≠ "") :
    Beneath directory name (joinPath directory name) ↔ ¬ IsAbsolute name := by
  constructor
  · intro h habsolute
    rw [joinPath_of_isAbsolute habsolute] at h
    exact absurd (h.length_lt hdirectory) (Nat.lt_irrefl _)
  · exact beneath_joinPath hdirectory

/-- What lies beneath a folder has the components of the folder and then those of the name. -/
theorem Beneath.pathComponents_eq (h : Beneath directory name path) :
    pathComponents path = pathComponents directory ++ pathComponents name := by
  simp only [pathComponents, ← List.map_append]
  cases h with
  | slashed hslash =>
    obtain ⟨front, hfront⟩ := List.getLast?_eq_some_iff.1 hslash
    rw [String.toList_append, hfront, List.append_assoc, List.singleton_append,
      slashComponents_append_slash, slashComponents_append_singleton_slash]
  | plain =>
    have hslash : "/".toList = ['/'] := rfl
    rw [String.toList_append, String.toList_append, hslash, List.append_assoc,
      List.singleton_append, slashComponents_append_slash]

/-- Joining puts the components of a name behind those of the folder, unless the name is a path
of its own. -/
theorem pathComponents_joinPath (directory name : String) :
    pathComponents (joinPath directory name) =
      if IsAbsolute name then pathComponents name
      else pathComponents directory ++ pathComponents name := by
  by_cases habsolute : IsAbsolute name
  · rw [if_pos habsolute, joinPath_of_isAbsolute habsolute]
  · rw [if_neg habsolute]
    by_cases hdirectory : directory = ""
    · subst hdirectory
      rw [joinPath, if_neg (mt startsWith_slash_iff.1 habsolute), if_pos (.inl rfl),
        String.empty_append]
      rfl
    · exact (beneath_joinPath hdirectory habsolute).pathComponents_eq

/-! ## The folder above -/

/-- Dropping what is blank at the end of a text keeps its components. -/
theorem slashComponents_dropBlankEnd (rooted : Bool) (cs : List Char) :
    slashComponents (dropBlankEnd rooted cs).reverse = slashComponents cs.reverse := by
  fun_induction dropBlankEnd rooted cs with
  | case1 rest ih => rw [ih, List.reverse_cons, slashComponents_append_singleton_slash]
  | case2 rest ih =>
    rw [ih, List.reverse_cons, List.reverse_cons, List.append_assoc, List.singleton_append,
      slashComponents_append_slash]
    exact (List.append_nil _).symm
  | case3 => rfl
  | case4 => rfl
  | case5 => rfl

/-- What is left then ends in a component, unless it is empty or the `.` that stands first. -/
theorem takeWhile_dropBlankEnd {rooted : Bool} {cs : List Char}
    (hsome : dropBlankEnd rooted cs ≠ []) (hdot : dropBlankEnd rooted cs ≠ ['.']) :
    (dropBlankEnd rooted cs).takeWhile (· != '/') ≠ [] ∧
      (dropBlankEnd rooted cs).takeWhile (· != '/') ≠ ['.'] := by
  fun_induction dropBlankEnd rooted cs with
  | case1 rest ih => exact ih hsome hdot
  | case2 rest ih => exact ih hsome hdot
  | case3 => contradiction
  | case4 => contradiction
  | case5 rest hslash hpair hlone =>
    -- neither a slash nor a `.` before a slash stands first any more
    cases rest with
    | nil => contradiction
    | cons c rest =>
      have hc : (c != '/') = true := bne_iff_ne.2 fun h => hslash rest (h ▸ rfl)
      rw [List.takeWhile_cons_of_pos (p := (· != '/')) hc]
      refine ⟨List.cons_ne_nil _ _, fun h => ?_⟩
      obtain ⟨rfl, hnone⟩ := List.cons.inj h
      cases rest with
      | nil => contradiction
      | cons d rest =>
        have hd : d = '/' := by
          by_contra hd
          rw [List.takeWhile_cons_of_pos (p := (· != '/')) (bne_iff_ne.2 hd)] at hnone
          contradiction
        exact hpair rest (hd ▸ rfl)

/-- The root in front of a path is no component. -/
theorem slashComponents_below (path : String) :
    slashComponents (if path.startsWith "/" then path.toList.drop 1 else path.toList) =
      slashComponents path.toList := by
  split
  · rename_i hrooted
    obtain ⟨cs, hcs⟩ := List.head?_eq_some_iff.1 (startsWith_slash_iff.1 hrooted)
    rw [hcs, slashComponents_slash_cons]
    rfl
  · rfl

theorem slashComponents_root_append (rooted : Bool) (cs : List Char) :
    slashComponents ((if rooted = true then "/" else "") ++ String.ofList cs).toList =
      slashComponents cs := by
  rw [String.toList_append, String.toList_ofList]
  cases rooted with
  | false => rfl
  | true => exact slashComponents_slash_cons cs

/-- A path without components lies in no folder.  Any other has a component besides those of its
folder. -/
theorem parentPath_cases (path : String) :
    parentPath path = "" ∧ pathComponents path = [] ∨
      ∃ last, pathComponents path = pathComponents (parentPath path) ++ [last] := by
  have hbelow := slashComponents_below path
  simp only [parentPath, pathComponents]
  generalize path.startsWith "/" = rooted at hbelow ⊢
  generalize (if rooted = true then path.toList.drop 1 else path.toList) = below at hbelow ⊢
  have htrim := slashComponents_dropBlankEnd rooted below.reverse
  rw [List.reverse_reverse, hbelow] at htrim
  rw [← htrim]
  by_cases hblank :
      dropBlankEnd rooted below.reverse = [] ∨ dropBlankEnd rooted below.reverse = ['.']
  · refine .inl ⟨if_pos (by simpa using hblank), ?_⟩
    rcases hblank with h | h <;> rw [h] <;> rfl
  · obtain ⟨hsome, hdot⟩ := not_or.1 hblank
    obtain ⟨hsome', hdot'⟩ := takeWhile_dropBlankEnd hsome hdot
    refine .inr ⟨String.ofList
      ((dropBlankEnd rooted below.reverse).takeWhile (· != '/')).reverse, ?_⟩
    rw [if_neg (by simpa using hblank), slashComponents_root_append,
      slashComponents_reverse hsome' hdot', slashComponents_dropBlankEnd, List.map_append,
      List.map_singleton]

/-- The folder that holds a path has all its components but the last. -/
theorem pathComponents_parentPath (path : String) :
    pathComponents (parentPath path) = (pathComponents path).dropLast := by
  rcases parentPath_cases path with ⟨hparent, hnone⟩ | ⟨last, hlast⟩
  · rw [hparent, hnone]
    rfl
  · rw [hlast, List.dropLast_concat]

/-- Dropping what is blank at the end of a text leaves the front of it. -/
theorem dropBlankEnd_isSuffix (rooted : Bool) (cs : List Char) :
    dropBlankEnd rooted cs <:+ cs := by
  fun_induction dropBlankEnd rooted cs with
  | case1 rest ih => exact ih.trans (List.suffix_cons _ _)
  | case2 rest ih => exact ih.trans ((List.suffix_cons _ _).trans (List.suffix_cons _ _))
  | case3 => exact List.nil_suffix
  | case4 => exact List.suffix_rfl
  | case5 => exact List.suffix_rfl

/-- The folder that holds a path is the front of its text. -/
theorem parentPath_isPrefix (path : String) : (parentPath path).toList <+: path.toList := by
  have habove : ∀ (rooted : Bool) (below : List Char), (dropBlankEnd rooted
      ((dropBlankEnd rooted below.reverse).dropWhile (· != '/'))).reverse <+: below := by
    intro rooted below
    rw [← List.reverse_suffix, List.reverse_reverse]
    exact (dropBlankEnd_isSuffix _ _).trans
      ((List.dropWhile_suffix _).trans (dropBlankEnd_isSuffix _ _))
  rw [parentPath]
  by_cases hrooted : path.startsWith "/" = true
  · obtain ⟨cs, hcs⟩ := List.head?_eq_some_iff.1 (startsWith_slash_iff.1 hrooted)
    simp only [if_pos hrooted, hcs, List.drop_one, List.tail_cons]
    split
    · exact List.nil_prefix
    · rw [String.toList_append, String.toList_ofList, String.toList_ofList,
        List.singleton_append, List.cons_prefix_cons]
      exact ⟨rfl, habove _ _⟩
  · simp only [if_neg hrooted]
    split
    · exact List.nil_prefix
    · rw [String.empty_append, String.toList_ofList]
      exact habove _ _

/-- A path and the folder that holds it begin at the root together. -/
theorem isAbsolute_parentPath_iff (h : parentPath path ≠ "") :
    IsAbsolute (parentPath path) ↔ IsAbsolute path := by
  obtain ⟨rest, hrest⟩ := parentPath_isPrefix path
  rw [IsAbsolute, IsAbsolute, ← hrest,
    List.head?_append_of_ne_nil _ (mt String.toList_eq_nil_iff.1 h)]

end BackupControl
