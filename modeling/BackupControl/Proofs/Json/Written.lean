/-
# Values read back from their texts

The text on one line and the text over several lines spell one value, as long as every binary
fraction in it is a finite number.  So the value is read back from either text, and values that
are written alike are equal.
-/
import BackupControl.Proofs.Json.Grammar

namespace BackupControl.Json

/-! ## Binary fractions in a value -/

mutual

/-- The binary fractions in a value. -/
def reals : Json → List Binary64
  | .real x => [x]
  | .arr items => itemReals items
  | .obj members => memberReals members
  | .null | .bool _ | .int _ | .str _ => []

/-- The binary fractions in the items of an array. -/
def itemReals : List Json → List Binary64
  | [] => []
  | v :: vs => reals v ++ itemReals vs

/-- The binary fractions in the members of an object. -/
def memberReals : List (String × Json) → List Binary64
  | [] => []
  | (_, v) :: ms => reals v ++ memberReals ms

end

/-- Every binary fraction in the value is a finite number. -/
def HasFiniteReals (v : Json) : Prop := ∀ x ∈ v.reals, x.isFinite = true

instance (v : Json) : Decidable v.HasFiniteReals :=
  inferInstanceAs (Decidable (∀ x ∈ v.reals, x.isFinite = true))

/-! ## One line -/

mutual

/-- The text on one line spells the value. -/
theorem spells_writeCompact : ∀ v : Json, v.HasFiniteReals → Spells (.value v) (writeCompact v)
  | .null, _ => .null
  | .bool b, _ => .bool b
  | .int n, _ => .int n
  | .real x, h => .real (h x List.mem_cons_self)
  | .str s, _ => .str s
  | .arr [], _ => .noItems
  | .arr (v :: vs), h => (spells_writeItems (v :: vs) (List.cons_ne_nil _ _) h).array blank_nil
  | .obj [], _ => .noMembers
  | .obj (m :: ms), h => (spells_writeMembers (m :: ms) (List.cons_ne_nil _ _) h).object blank_nil

theorem spells_writeItems : ∀ vs : List Json, vs ≠ [] →
    (∀ x ∈ itemReals vs, x.isFinite = true) → Spells (.items vs) (writeItems vs)
  | [], hne, _ => absurd rfl hne
  | [v], _, h => .lastItem blank_nil (spells_writeCompact v (List.forall_mem_append.1 h).1)
  | v :: w :: ws, _, h =>
    .item blank_nil (spells_writeCompact v (List.forall_mem_append.1 h).1)
      (spells_writeItems (w :: ws) (List.cons_ne_nil _ _) (List.forall_mem_append.1 h).2)

theorem spells_writeMembers : ∀ ms : List (String × Json), ms ≠ [] →
    (∀ x ∈ memberReals ms, x.isFinite = true) → Spells (.members ms) (writeMembers ms)
  | [], hne, _ => absurd rfl hne
  | [(k, v)], _, h =>
    .lastMember blank_nil blank_nil (spells_writeCompact v (List.forall_mem_append.1 h).1)
  | (k, v) :: m :: ms, _, h => by
    have hfirst := spells_writeCompact v (List.forall_mem_append.1 h).1
    have hnext :=
      spells_writeMembers (m :: ms) (List.cons_ne_nil _ _) (List.forall_mem_append.1 h).2
    have htext : writeMembers ((k, v) :: m :: ms) =
        writeString k ++ ':' :: (writeCompact v ++ ',' :: writeMembers (m :: ms)) := by
      simp only [writeMembers, List.append_assoc, List.cons_append]
    rw [htext]
    exact .member blank_nil blank_nil hfirst hnext

end

/-! ## Several lines -/

theorem blank_newLine (level : Nat) : Blank (newLine level) := by
  intro c hc
  rcases List.mem_cons.1 hc with rfl | hc
  · rfl
  · rw [List.eq_of_mem_replicate hc]
    rfl

theorem blank_space : Blank [' '] := List.forall_mem_singleton.2 rfl

mutual

/-- The text over several lines spells the value. -/
theorem spells_writePretty : ∀ (level : Nat) (v : Json), v.HasFiniteReals →
    Spells (.value v) (writePretty level v)
  | _, .null, _ => .null
  | _, .bool b, _ => .bool b
  | _, .int n, _ => .int n
  | _, .real x, h => .real (h x List.mem_cons_self)
  | _, .str s, _ => .str s
  | _, .arr [], _ => .noItems
  | level, .arr (v :: vs), h => by
    have hitems := spells_writePrettyItems (level + 1) (v :: vs) (List.cons_ne_nil _ _) h
    have htext : writePretty level (.arr (v :: vs)) =
        '[' :: (writePrettyItems (level + 1) (v :: vs) ++ (newLine level ++ [']'])) := by
      simp only [writePretty, List.append_assoc, List.cons_append]
    rw [htext]
    exact hitems.array (blank_newLine level)
  | _, .obj [], _ => .noMembers
  | level, .obj (m :: ms), h => by
    have hmembers := spells_writePrettyMembers (level + 1) (m :: ms) (List.cons_ne_nil _ _) h
    have htext : writePretty level (.obj (m :: ms)) =
        '\x7b' :: (writePrettyMembers (level + 1) (m :: ms) ++ (newLine level ++ ['\x7d'])) := by
      simp only [writePretty, List.append_assoc, List.cons_append]
    rw [htext]
    exact hmembers.object (blank_newLine level)

theorem spells_writePrettyItems : ∀ (level : Nat) (vs : List Json), vs ≠ [] →
    (∀ x ∈ itemReals vs, x.isFinite = true) → Spells (.items vs) (writePrettyItems level vs)
  | _, [], hne, _ => absurd rfl hne
  | level, [v], _, h =>
    .lastItem (blank_newLine level) (spells_writePretty level v (List.forall_mem_append.1 h).1)
  | level, v :: w :: ws, _, h => by
    have hfirst := spells_writePretty level v (List.forall_mem_append.1 h).1
    have hnext := spells_writePrettyItems level (w :: ws) (List.cons_ne_nil _ _)
      (List.forall_mem_append.1 h).2
    have htext : writePrettyItems level (v :: w :: ws) =
        newLine level ++ (writePretty level v ++ ',' :: writePrettyItems level (w :: ws)) := by
      simp only [writePrettyItems, List.append_assoc]
    rw [htext]
    exact .item (blank_newLine level) hfirst hnext

theorem spells_writePrettyMembers : ∀ (level : Nat) (ms : List (String × Json)), ms ≠ [] →
    (∀ x ∈ memberReals ms, x.isFinite = true) →
    Spells (.members ms) (writePrettyMembers level ms)
  | _, [], hne, _ => absurd rfl hne
  | level, [(k, v)], _, h => by
    have hlast := spells_writePretty level v (List.forall_mem_append.1 h).1
    have htext : writePrettyMembers level [(k, v)] =
        newLine level ++ (writeString k ++ ':' :: ([' '] ++ writePretty level v)) := by
      simp only [writePrettyMembers, List.append_assoc]
      rfl
    rw [htext]
    exact .lastMember (blank_newLine level) blank_space hlast
  | level, (k, v) :: m :: ms, _, h => by
    have hfirst := spells_writePretty level v (List.forall_mem_append.1 h).1
    have hnext := spells_writePrettyMembers level (m :: ms) (List.cons_ne_nil _ _)
      (List.forall_mem_append.1 h).2
    have htext : writePrettyMembers level ((k, v) :: m :: ms) =
        newLine level ++ (writeString k ++ ':' ::
          ([' '] ++ (writePretty level v ++ ',' :: writePrettyMembers level (m :: ms)))) := by
      simp only [writePrettyMembers, List.append_assoc]
      rfl
    rw [htext]
    exact .member (blank_newLine level) blank_space hfirst hnext

end

/-! ## Read back -/

variable {v w : Json}

/-- A value is read back from its text on one line. -/
theorem ofText?_compact (h : v.HasFiniteReals) : ofText? v.compact = some v :=
  (spells_writeCompact v h).ofText?_eq

/-- A value is read back from its text over several lines. -/
theorem ofText?_pretty (h : v.HasFiniteReals) : ofText? v.pretty = some v :=
  (spells_writePretty 0 v h).ofText?_eq

/-- Values with one text are equal. -/
theorem compact_inj (hv : v.HasFiniteReals) (hw : w.HasFiniteReals) :
    v.compact = w.compact ↔ v = w := by
  refine ⟨fun heq => ?_, congrArg compact⟩
  have hread := ofText?_compact hv
  rw [heq, ofText?_compact hw] at hread
  exact (Option.some.inj hread).symm

end BackupControl.Json
