/-
# Steps and checks that succeed

What the success of steps in a row says about each of them.  A list of rules is met just if each
of its rules is, so what a check accepts can be read off its definition.
-/
import BackupControl.Failure
import Mathlib.Data.List.Forall2

namespace BackupControl

/-! ## Steps -/

section Steps

variable {ε ε' α β : Type}

/-- Steps in a row come to a result just if each of them does in turn. -/
theorem bind_eq_ok_iff {x : Except ε α} {f : α → Except ε β} {b : β} :
    (x >>= f) = .ok b ↔ ∃ a, x = .ok a ∧ f a = .ok b := by
  cases x with
  | error e => exact ⟨nofun, fun ⟨_, h, _⟩ => absurd h nofun⟩
  | ok a => exact ⟨fun h => ⟨a, rfl, h⟩, fun ⟨_, ha, h⟩ => by cases ha; exact h⟩

/-- Steps in a row fail just if one of them does after all before it have come to a result. -/
theorem bind_eq_error_iff {x : Except ε α} {f : α → Except ε β} {e : ε} :
    (x >>= f) = .error e ↔ x = .error e ∨ ∃ a, x = .ok a ∧ f a = .error e := by
  cases x with
  | error e' =>
    have herror : ((.error e' : Except ε α) >>= f) = .error e ↔ e' = e :=
      ⟨Except.error.inj, congrArg _⟩
    rw [herror, Except.error.injEq]
    exact ⟨.inl, fun h => h.elim id fun ⟨_, h, _⟩ => absurd h nofun⟩
  | ok a =>
    constructor
    · exact fun h => .inr ⟨a, rfl, h⟩
    · rintro (h | ⟨_, ha, h⟩)
      · exact absurd h nofun
      · cases ha
        exact h

/-- A step without failures comes to its value. -/
theorem pure_eq_ok_iff {a b : α} : (pure a : Except ε α) = .ok b ↔ a = b :=
  ⟨Except.ok.inj, congrArg _⟩

/-- A step without failures does not fail. -/
theorem pure_ne_error {a : α} {e : ε} : (pure a : Except ε α) ≠ .error e :=
  nofun

/-- A step of which the value is changed succeeds just if it does. -/
theorem map_eq_ok_iff {x : Except ε α} {f : α → β} {b : β} :
    x.map f = .ok b ↔ ∃ a, x = .ok a ∧ f a = b := by
  cases x with
  | error e => exact ⟨nofun, fun ⟨_, h, _⟩ => absurd h nofun⟩
  | ok a =>
    exact ⟨fun h => ⟨a, rfl, Except.ok.inj h⟩, fun ⟨_, ha, h⟩ => by cases ha; exact congrArg _ h⟩

/-- A step of which the value is changed fails as it does. -/
theorem map_eq_error_iff {x : Except ε α} {f : α → β} {e : ε} :
    x.map f = .error e ↔ x = .error e := by
  cases x with
  | error e' =>
    exact ⟨fun h => congrArg _ (Except.error.inj h), fun h => congrArg _ (Except.error.inj h)⟩
  | ok a => exact ⟨nofun, nofun⟩

/-- The wording of a failure does not touch success. -/
theorem mapError_eq_ok_iff {x : Except ε α} {f : ε → ε'} {a : α} :
    x.mapError f = .ok a ↔ x = .ok a := by
  cases x with
  | error e => exact ⟨nofun, nofun⟩
  | ok b => exact ⟨fun h => congrArg _ (Except.ok.inj h), fun h => congrArg _ (Except.ok.inj h)⟩

/-- A step comes to a value just if the value is left when failures are dropped. -/
theorem toOption_eq_some_iff {x : Except ε α} {a : α} : x.toOption = some a ↔ x = .ok a := by
  cases x with
  | error e => exact ⟨nofun, nofun⟩
  | ok b => exact ⟨fun h => congrArg _ (Option.some.inj h), fun h => congrArg _ (Except.ok.inj h)⟩

/-- The activity around a step does not touch its success. -/
theorem during_eq_ok_iff {activity : Activity} {r : Result α} {a : α} :
    r.during activity = .ok a ↔ r = .ok a :=
  mapError_eq_ok_iff

/-- A failure in other words comes of a failure. -/
theorem mapError_eq_error_iff {x : Except ε α} {f : ε → ε'} {e' : ε'} :
    x.mapError f = .error e' ↔ ∃ e, x = .error e ∧ f e = e' := by
  cases x with
  | error e =>
    exact ⟨fun h => ⟨e, rfl, Except.error.inj h⟩, fun ⟨_, h, he⟩ => by cases h; exact congrArg _ he⟩
  | ok a => exact ⟨nofun, fun ⟨_, h, _⟩ => absurd h nofun⟩

/-- A failure during an activity comes of a failure of the step. -/
theorem during_eq_error_iff {activity : Activity} {r : Result α} {failure : Failure} :
    r.during activity = .error failure ↔
      ∃ cause, r = .error cause ∧ .during activity cause = failure :=
  mapError_eq_error_iff

/-- A guard in front of other steps lets them pass just if its condition does not hold. -/
theorem guard_eq_ok_iff {condition : Prop} [Decidable condition] {e : ε} {x : Except ε α} {a : α} :
    (if condition then (throw e : Except ε PUnit) >>= fun _ => x else x) = .ok a ↔
      ¬ condition ∧ x = .ok a := by
  split
  · rename_i hrefused
    exact ⟨nofun, fun h => absurd hrefused h.1⟩
  · rename_i hpassed
    exact ⟨fun h => ⟨hpassed, h⟩, (·.2)⟩

/-- A step taken for each item of a list succeeds just if it does for each, and gives the results
in order. -/
theorem mapM_eq_ok_iff {f : α → Except ε β} {xs : List α} {ys : List β} :
    xs.mapM f = .ok ys ↔ List.Forall₂ (fun x y => f x = .ok y) xs ys := by
  induction xs generalizing ys with
  | nil =>
    rw [List.mapM_nil, pure_eq_ok_iff, List.forall₂_nil_left_iff]
    exact eq_comm
  | cons x xs ih =>
    rw [List.mapM_cons, bind_eq_ok_iff]
    constructor
    · rintro ⟨y, hy, hrest⟩
      obtain ⟨rest, hxs, hys⟩ := bind_eq_ok_iff.1 hrest
      obtain rfl := pure_eq_ok_iff.1 hys
      exact .cons hy (ih.1 hxs)
    · rintro (_ | ⟨hy, hxs⟩)
      exact ⟨_, hy, bind_eq_ok_iff.2 ⟨_, ih.2 hxs, rfl⟩⟩

/-- A value looked for in each item of a list is there just if it is in each, and the values are in
order. -/
theorem mapM_eq_some_iff {f : α → Option β} {xs : List α} {ys : List β} :
    xs.mapM f = some ys ↔ List.Forall₂ (fun x y => f x = some y) xs ys := by
  induction xs generalizing ys with
  | nil =>
    rw [List.mapM_nil, List.forall₂_nil_left_iff]
    exact Option.some_inj.trans eq_comm
  | cons x xs ih =>
    rw [List.mapM_cons]
    constructor
    · intro h
      obtain ⟨y, hy, hrest⟩ := Option.bind_eq_some_iff.1 h
      obtain ⟨rest, hxs, hys⟩ := Option.bind_eq_some_iff.1 hrest
      obtain rfl := Option.some.inj hys
      exact .cons hy (ih.1 hxs)
    · rintro (_ | ⟨hy, hxs⟩)
      exact Option.bind_eq_some_iff.2 ⟨_, hy, Option.bind_eq_some_iff.2 ⟨_, ih.2 hxs, rfl⟩⟩

/-- A step taken for each item of a list succeeds just if it does for each. -/
theorem exists_mapM_eq_ok_iff {f : α → Except ε β} {xs : List α} :
    (∃ ys, xs.mapM f = .ok ys) ↔ ∀ x ∈ xs, ∃ y, f x = .ok y := by
  simp only [mapM_eq_ok_iff]
  induction xs with
  | nil => exact ⟨fun _ => nofun, fun _ => ⟨[], .nil⟩⟩
  | cons x xs ih =>
    rw [List.forall_mem_cons, ← ih]
    constructor
    · rintro ⟨_, _ | ⟨hy, hys⟩⟩
      exact ⟨⟨_, hy⟩, ⟨_, hys⟩⟩
    · rintro ⟨⟨_, hy⟩, ⟨_, hys⟩⟩
      exact ⟨_, .cons hy hys⟩

/-- A step taken for each item of a list fails at the first item for which it fails. -/
theorem mapM_eq_error_iff {f : α → Except ε β} {xs : List α} {e : ε} :
    xs.mapM f = .error e ↔
      ∃ front x back, xs = front ++ x :: back ∧ (∀ y ∈ front, ∃ b, f y = .ok b) ∧
        f x = .error e := by
  induction xs with
  | nil =>
    exact ⟨nofun, fun ⟨_, _, _, h, _⟩ =>
      absurd h.symm (List.append_ne_nil_of_right_ne_nil _ (List.cons_ne_nil _ _))⟩
  | cons x xs ih =>
    rw [List.mapM_cons, bind_eq_error_iff]
    constructor
    · rintro (hx | ⟨b, hx, hrest⟩)
      · exact ⟨[], x, xs, rfl, nofun, hx⟩
      · rcases bind_eq_error_iff.1 hrest with htail | ⟨_, -, h⟩
        · obtain ⟨front, y, back, rfl, hfront, hy⟩ := ih.1 htail
          exact ⟨x :: front, y, back, rfl, List.forall_mem_cons.2 ⟨⟨b, hx⟩, hfront⟩, hy⟩
        · exact absurd h pure_ne_error
    · rintro ⟨front, y, back, hxs, hfront, hy⟩
      cases front with
      | nil =>
        obtain ⟨rfl, rfl⟩ := List.cons.inj hxs
        exact .inl hy
      | cons z front =>
        obtain ⟨rfl, rfl⟩ := List.cons.inj hxs
        obtain ⟨⟨b, hz⟩, hfront⟩ := List.forall_mem_cons.1 hfront
        exact .inr ⟨b, hz, bind_eq_error_iff.2 (.inl (ih.2 ⟨front, y, back, rfl, hfront, hy⟩))⟩

end Steps

/-! ## Checks -/

/-- Checks in a row pass just if each of them passes. -/
theorem check_bind_eq_ok_iff {c : Check} {k : Unit → Check} :
    (c >>= k) = .ok () ↔ c = .ok () ∧ k () = .ok () := by
  rw [bind_eq_ok_iff]
  exact ⟨fun ⟨_, hc, hk⟩ => ⟨hc, hk⟩, fun ⟨hc, hk⟩ => ⟨(), hc, hk⟩⟩

/-- A rule is met just if what it refuses is not so. -/
theorem refuseIf_eq_ok_iff {condition : Prop} [Decidable condition] {v : Violation} :
    refuseIf condition v = .ok () ↔ ¬ condition := by
  unfold refuseIf
  split
  · rename_i hrefused
    exact ⟨nofun, fun h => absurd hrefused h⟩
  · rename_i hpassed
    exact ⟨fun _ => hpassed, fun _ => rfl⟩

/-- A check that stands under a condition in front of others passes just if the condition
implies it. -/
theorem ite_check_eq_ok_iff {condition : Prop} [Decidable condition] {c rest : Check} :
    (if condition then c >>= fun _ => rest else rest) = .ok () ↔
      (condition → c = .ok ()) ∧ rest = .ok () := by
  split
  · rename_i hcondition
    rw [check_bind_eq_ok_iff]
    exact ⟨fun h => ⟨fun _ => h.1, h.2⟩, fun h => ⟨h.1 hcondition, h.2⟩⟩
  · rename_i hcondition
    exact ⟨fun h => ⟨fun hc => absurd hc hcondition, h⟩, fun h => h.2⟩

/-- A check of a value that may be absent passes just if the value that is there passes. -/
theorem checkOption_eq_ok_iff {α : Type} {check : α → Check} {value : Option α} :
    checkOption check value = .ok () ↔ ∀ a, value = some a → check a = .ok () := by
  cases value with
  | none => exact ⟨fun _ => nofun, fun _ => rfl⟩
  | some a => exact ⟨fun h _ ha => by cases ha; exact h, fun h => h a rfl⟩

/-- A check under a condition passes just if the condition implies it. -/
theorem ite_pure_eq_ok_iff {condition : Prop} [Decidable condition] {c : Check} :
    (if condition then c else pure ()) = .ok () ↔ (condition → c = .ok ()) := by
  split
  · rename_i hcondition
    exact ⟨fun h _ => h, fun h => h hcondition⟩
  · rename_i hcondition
    exact ⟨fun _ hc => absurd hc hcondition, fun _ => rfl⟩

/-- A check as a step succeeds just if it passes. -/
theorem ofCheck_eq_ok_iff {c : Check} : Result.ofCheck c = .ok () ↔ c = .ok () :=
  mapError_eq_ok_iff

/-- A check made of each item of a list passes just if it passes for each. -/
theorem forM_check_eq_ok_iff {α : Type} {check : α → Check} {xs : List α} :
    forM xs check = .ok () ↔ ∀ x ∈ xs, check x = .ok () := by
  induction xs with
  | nil => exact ⟨fun _ => nofun, fun _ => rfl⟩
  | cons x xs ih => rw [List.forM_cons, check_bind_eq_ok_iff, ih, List.forall_mem_cons]

/-! ## Checks that fail -/

/-- Of checks in a row, the first to fail reports its violation. -/
theorem check_bind_eq_error_iff {c : Check} {k : Unit → Check} {v : Violation} :
    (c >>= k) = .error v ↔ c = .error v ∨ c = .ok () ∧ k () = .error v := by
  rw [bind_eq_error_iff]
  exact or_congr_right ⟨fun ⟨_, hc, hk⟩ => ⟨hc, hk⟩, fun ⟨hc, hk⟩ => ⟨(), hc, hk⟩⟩

/-- A rule reports its own violation. -/
theorem refuseIf_eq_error_iff {condition : Prop} [Decidable condition] {v w : Violation} :
    refuseIf condition v = .error w ↔ condition ∧ v = w := by
  unfold refuseIf
  split
  · rename_i hrefused
    exact ⟨fun h => ⟨hrefused, Except.error.inj h⟩, fun h => congrArg _ h.2⟩
  · rename_i hpassed
    exact ⟨nofun, fun h => absurd h.1 hpassed⟩

/-- A check under a condition in front of others fails where the condition holds. -/
theorem ite_check_eq_error_iff {condition : Prop} [Decidable condition] {c rest : Check}
    {v : Violation} :
    (if condition then c >>= fun _ => rest else rest) = .error v ↔
      (condition ∧ c = .error v) ∨ ((condition → c = .ok ()) ∧ rest = .error v) := by
  split
  · rename_i hcondition
    rw [check_bind_eq_error_iff]
    exact or_congr ⟨fun h => ⟨hcondition, h⟩, (·.2)⟩
      (and_congr_left' ⟨fun h _ => h, fun h => h hcondition⟩)
  · rename_i hcondition
    exact ⟨fun h => .inr ⟨fun hc => absurd hc hcondition, h⟩,
      fun h => h.elim (fun h => absurd h.1 hcondition) (·.2)⟩

/-- A check under a condition fails where the condition holds. -/
theorem ite_pure_eq_error_iff {condition : Prop} [Decidable condition] {c : Check}
    {v : Violation} :
    (if condition then c else pure ()) = .error v ↔ condition ∧ c = .error v := by
  split
  · rename_i hcondition
    exact ⟨fun h => ⟨hcondition, h⟩, (·.2)⟩
  · rename_i hcondition
    exact ⟨nofun, fun h => absurd h.1 hcondition⟩

/-- A check of a value that may be absent fails just if the value that is there fails. -/
theorem checkOption_eq_error_iff {α : Type} {check : α → Check} {value : Option α}
    {v : Violation} :
    checkOption check value = .error v ↔ ∃ a, value = some a ∧ check a = .error v := by
  cases value with
  | none => exact ⟨nofun, fun ⟨_, h, _⟩ => absurd h nofun⟩
  | some a => exact ⟨fun h => ⟨a, rfl, h⟩, fun ⟨_, ha, h⟩ => by cases ha; exact h⟩

/-- A check made of each item of a list fails at the first item for which it fails. -/
theorem forM_check_eq_error_iff {α : Type} {check : α → Check} {xs : List α} {v : Violation} :
    forM xs check = .error v ↔
      ∃ front x back, xs = front ++ x :: back ∧ (∀ y ∈ front, check y = .ok ()) ∧
        check x = .error v := by
  induction xs with
  | nil =>
    exact ⟨nofun, fun ⟨_, _, _, h, _⟩ =>
      absurd h.symm (List.append_ne_nil_of_right_ne_nil _ (List.cons_ne_nil _ _))⟩
  | cons x xs ih =>
    rw [List.forM_cons, check_bind_eq_error_iff, ih]
    constructor
    · rintro (hx | ⟨hx, front, y, back, rfl, hfront, hy⟩)
      · exact ⟨[], x, xs, rfl, nofun, hx⟩
      · exact ⟨x :: front, y, back, rfl, List.forall_mem_cons.2 ⟨hx, hfront⟩, hy⟩
    · rintro ⟨front, y, back, hxs, hfront, hy⟩
      cases front with
      | nil =>
        obtain ⟨rfl, rfl⟩ := List.cons.inj hxs
        exact .inl hy
      | cons z front =>
        obtain ⟨rfl, rfl⟩ := List.cons.inj hxs
        obtain ⟨hz, hfront⟩ := List.forall_mem_cons.1 hfront
        exact .inr ⟨hz, front, y, back, rfl, hfront, hy⟩

end BackupControl
