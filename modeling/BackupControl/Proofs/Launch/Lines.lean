/-
# Lines of a text

What the lines of a text are, told without the function that finds them, and what is shown of a
text that the engine left: all its lines, in order, each behind the same indent.
-/
import BackupControl.Launch.Report

namespace BackupControl

/-! ## Lines and line breaks -/

/-- The text consists of the lines, each with a line break behind it: a line feed, or a carriage
return and a line feed.  The last line may have none, unless it is empty. -/
inductive HasLines : List Char → List String → Prop where
  | nil : HasLines [] []
  | unended {line : List Char} (hne : line ≠ []) (hline : '\n' ∉ line) :
      HasLines line [String.ofList line]
  | feed {line rest : List Char} {lines : List String} (hline : '\n' ∉ line)
      (hreturn : line.getLast? ≠ some '\r') (hrest : HasLines rest lines) :
      HasLines (line ++ '\n' :: rest) (String.ofList line :: lines)
  | returnFeed {line rest : List Char} {lines : List String} (hline : '\n' ∉ line)
      (hrest : HasLines rest lines) :
      HasLines (line ++ '\r' :: '\n' :: rest) (String.ofList line :: lines)

/-- Only the empty text has no lines. -/
theorem HasLines.eq_nil_iff {cs : List Char} {lines : List String} (h : HasLines cs lines) :
    lines = [] ↔ cs = [] := by
  cases h with
  | nil => exact iff_of_true rfl rfl
  | unended hne => exact iff_of_false nofun hne
  | feed | returnFeed => exact iff_of_false nofun (by simp)

/-- A line that was read up to a line break is the line without a carriage return at its end. -/
theorem HasLines.of_ended {line rest : List Char} {lines : List String} (hline : '\n' ∉ line)
    (hrest : HasLines rest lines) :
    HasLines (line.reverse ++ '\n' :: rest) (endedLine line :: lines) := by
  unfold endedLine
  split
  · rename_i before
    rw [List.reverse_cons, List.append_assoc, List.singleton_append]
    refine .returnFeed (fun h => hline ?_) hrest
    exact List.mem_cons_of_mem _ (List.mem_reverse.1 h)
  · rename_i hreturn
    refine .feed (fun h => hline (List.mem_reverse.1 h)) ?_ hrest
    rw [List.getLast?_reverse]
    intro hhead
    obtain ⟨before, rfl⟩ := List.head?_eq_some_iff.1 hhead
    exact hreturn before rfl

/-- The lines that are found are those of the text. -/
theorem hasLines_linesFrom {line cs : List Char} (hline : '\n' ∉ line) :
    HasLines (line.reverse ++ cs) (linesFrom line cs) := by
  induction cs generalizing line with
  | nil =>
    rw [linesFrom, List.append_nil]
    split
    · rename_i hempty
      rw [hempty]
      exact .nil
    · rename_i hne
      exact .unended (mt List.reverse_eq_nil_iff.1 hne) (fun h => hline (List.mem_reverse.1 h))
  | cons c cs ih =>
    rw [linesFrom]
    split
    · rename_i hfeed
      rw [hfeed]
      exact .of_ended hline (ih (List.not_mem_nil))
    · rename_i hother
      have hmore : '\n' ∉ c :: line := by
        simp only [List.mem_cons, not_or]
        exact ⟨Ne.symm hother, hline⟩
      have hlines := ih hmore
      rwa [List.reverse_cons, List.append_assoc, List.singleton_append] at hlines

/-- A text has the lines that are found in it. -/
theorem hasLines_linesOf (s : String) : HasLines s.toList (linesOf s) :=
  hasLines_linesFrom List.not_mem_nil

/-- Characters of a line are read one after another. -/
theorem linesFrom_append {line : List Char} (hline : '\n' ∉ line) (before rest : List Char) :
    linesFrom before (line ++ rest) = linesFrom (line.reverse ++ before) rest := by
  induction line generalizing before with
  | nil => rfl
  | cons c line ih =>
    simp only [List.mem_cons, not_or] at hline
    rw [List.cons_append, linesFrom, if_neg (Ne.symm hline.1), ih hline.2, List.reverse_cons,
      List.append_assoc, List.singleton_append]

/-- The lines of a text are found. -/
theorem HasLines.linesFrom_eq {cs : List Char} {lines : List String} (h : HasLines cs lines) :
    linesFrom [] cs = lines := by
  induction h with
  | nil => rfl
  | unended hne hline =>
    have hread := linesFrom_append hline [] []
    rw [List.append_nil, List.append_nil] at hread
    rw [hread, linesFrom, if_neg (mt List.reverse_eq_nil_iff.1 hne), List.reverse_reverse]
  | @feed line rest lines hline hreturn _ ih =>
    rw [linesFrom_append hline, List.append_nil, linesFrom, if_pos rfl, ih, endedLine]
    · rw [List.reverse_reverse]
    · intro before hbefore
      apply hreturn
      rw [← List.head?_reverse, hbefore, List.head?_cons]
  | @returnFeed line rest lines hline _ ih =>
    rw [linesFrom_append hline, List.append_nil, linesFrom, if_neg (by decide), linesFrom,
      if_pos rfl, ih, endedLine, List.reverse_reverse]

/-- The lines that are found in a text are the lines that it has. -/
theorem linesOf_eq_iff {s : String} {lines : List String} :
    linesOf s = lines ↔ HasLines s.toList lines := by
  constructor
  · rintro rfl
    exact hasLines_linesOf s
  · exact HasLines.linesFrom_eq

/-- A carriage return belongs to the line break behind it, and to nothing else. -/
example : linesOf "a\r\n\nb\rc\r" = ["a", "", "b\rc\r"] := by decide +kernel

end BackupControl
