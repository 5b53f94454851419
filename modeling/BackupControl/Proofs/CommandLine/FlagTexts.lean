/-
# Flags and their texts

What was passed on a command line, apart from what it sets: the names of the flags, each with
its text.  A level is read once more with rules that only note names and texts.  The two
readings take every argument in the same way, so an invariant between what the rules do and
what they note holds at the end of every level.
-/
import BackupControl.CommandLine.Invocation

namespace BackupControl.CommandLine

variable {α β : Type}

/-! ## Noting flags -/

/-- The flags that were passed, the last one first: their long names, each with its text.  A
flag that stands alone has the text that it stands for. -/
abbrev FlagTexts : Type := List (String × String)

/-- The flags with one more. -/
def FlagTexts.with (texts : FlagTexts) (name : String) (value : Option String) : FlagTexts :=
  (name, value.getD loneValue) :: texts

/-- The rule that reads a flag in the same way, and notes it instead of following it. -/
def FlagRule.noting (r : FlagRule α) : FlagRule FlagTexts where
  long := r.long
  short := r.short
  arity := r.arity
  read value := (r.read value).map fun _ texts => texts.with r.long value

/-- The level that only notes its flags. -/
def Level.noting (l : Level α) : Level FlagTexts where
  rules := l.rules.map FlagRule.noting
  commands := l.commands

/-- A rule is found by its name whether it notes its flag or follows it. -/
theorem find?_noting (rules : List (FlagRule α)) (test : String → Option Char → Bool) :
    (rules.map FlagRule.noting).find? (fun r => test r.long r.short) =
      (rules.find? fun r => test r.long r.short).map FlagRule.noting :=
  List.find?_map

/-! ## Readings that end alike -/

/-- Two readings end alike: both stop for the same reason, or both come to related results. -/
inductive Alike (R : α → β → Prop) : Except Stop α → Except Stop β → Prop
  | stop (reason : Stop) : Alike R (.error reason) (.error reason)
  | done {a : α} {b : β} (related : R a b) : Alike R (.ok a) (.ok b)

/-- Readings that end alike may be continued alike. -/
theorem Alike.bind {α' β' : Type} {R : α → β → Prop} {S : α' → β' → Prop}
    {x : Except Stop α} {y : Except Stop β} {f : α → Except Stop α'} {g : β → Except Stop β'}
    (h : Alike R x y) (hnext : ∀ a b, R a b → Alike S (f a) (g b)) :
    Alike S (x >>= f) (y >>= g) := by
  cases h with
  | stop reason => exact .stop reason
  | done related => exact hnext _ _ related

/-- The two ways in which readings end alike. -/
theorem Alike.cases_of {R : α → β → Prop} {x : Except Stop α} {y : Except Stop β}
    (h : Alike R x y) :
    (∃ reason, x = .error reason ∧ y = .error reason) ∨
      ∃ a b, x = .ok a ∧ y = .ok b ∧ R a b := by
  cases h with
  | stop reason => exact .inl ⟨reason, rfl, rfl⟩
  | done related => exact .inr ⟨_, _, rfl, rfl, related⟩

/-! ## One level -/

/-- Every rule keeps a relation between what the flags did and what was noted of them. -/
def Keeps (Inv : α → FlagTexts → Prop) (rules : List (FlagRule α)) : Prop :=
  ∀ r ∈ rules, ∀ (value : Option String) (change : α → α) (record : α) (texts : FlagTexts),
    r.read value = .ok change → Inv record texts → texts.lookup r.long = none →
      Inv (change record) (texts.with r.long value)

/-- The progress of a level and that of the level that only notes its flags. -/
structure Follows (Inv : α → FlagTexts → Prop) (rules : List (FlagRule α)) (p : Progress α)
    (q : Progress FlagTexts) : Prop where
  record : Inv p.record q.record
  given : q.given = p.given
  names : p.given = q.record.map Prod.fst
  pending : q.pending = p.pending.map fun (r, value) => (r.noting, value)
  known : ∀ r value, p.pending = some (r, value) → r ∈ rules

variable {Inv : α → FlagTexts → Prop} {rules : List (FlagRule α)} {p : Progress α}
  {q : Progress FlagTexts} {r : FlagRule α}

namespace Follows

/-- A flag is applied alike. -/
theorem apply (hkeeps : Keeps Inv rules) (h : Follows Inv rules p q) (hr : r ∈ rules)
    (value : Option String) :
    Alike (Follows Inv rules) (p.apply r value) (q.apply r.noting value) := by
  have hlong : r.noting.long = r.long := rfl
  have harity : r.noting.arity = r.arity := rfl
  have hread : r.noting.read value = (r.read value).map fun _ texts => texts.with r.long value :=
    rfl
  unfold Progress.apply
  rw [hlong, harity, hread, h.given]
  by_cases hmissing : (value.isNone && r.arity == .one) = true
  · simp only [hmissing, if_true]
    exact .stop _
  by_cases hrepeated : p.given.contains r.long = true
  · simp only [hmissing, hrepeated, if_true]
    exact .stop _
  simp only [hmissing, hrepeated]
  -- what was not given before was not noted before
  have hnew : q.record.lookup r.long = none := by
    have hnotmem : r.long ∉ q.record.map Prod.fst := by
      rw [← h.names]
      simpa using hrepeated
    rw [List.lookup_eq_none_iff]
    intro entry hentry
    have hne : r.long ≠ entry.1 := fun heq => hnotmem (heq ▸ List.mem_map_of_mem hentry)
    simpa using hne
  cases hchange : r.read value with
  | error reason => exact .stop reason
  | ok change =>
    refine .done ⟨hkeeps r hr value change _ _ hchange h.record hnew, rfl, ?_, rfl, ?_⟩
    · exact congrArg (r.long :: ·) h.names
    · intro r' value' hpending
      exact absurd hpending nofun

/-- The flag that was left pending is applied alike. -/
theorem settle (hkeeps : Keeps Inv rules) (h : Follows Inv rules p q) :
    Alike (Follows Inv rules) p.settle q.settle := by
  unfold Progress.settle
  rw [h.pending]
  cases hpending : p.pending with
  | none => exact .done h
  | some flag =>
    obtain ⟨r, value⟩ := flag
    have hr : r ∈ rules := h.known r value hpending
    have hrest : Follows Inv rules { p with pending := none } { q with pending := none } :=
      ⟨h.record, h.given, h.names, rfl, nofun⟩
    exact hrest.apply hkeeps hr value

/-- A flag after the one that was left pending is applied alike. -/
theorem take (hkeeps : Keeps Inv rules) (h : Follows Inv rules p q) (hr : r ∈ rules)
    (value : Option String) :
    Alike (Follows Inv rules) (p.take r value) (q.take r.noting value) :=
  (h.settle hkeeps).bind fun _ _ hsettled => hsettled.apply hkeeps hr value

/-- A flag is left pending alike. -/
theorem await (hkeeps : Keeps Inv rules) (h : Follows Inv rules p q) (hr : r ∈ rules) :
    Alike (Follows Inv rules) (p.await r) (q.await r.noting) := by
  refine (h.settle hkeeps).bind fun p' q' hsettled => .done ?_
  refine ⟨hsettled.record, hsettled.given, hsettled.names, rfl, ?_⟩
  intro r' value hpending
  obtain ⟨rfl, -⟩ : r = r' ∧ none = value := by simpa using hpending
  exact hr

/-- The next argument is a value for both or for neither. -/
theorem isAwaiting (h : Follows Inv rules p q) : q.isAwaiting = p.isAwaiting := by
  unfold Progress.isAwaiting
  rw [h.pending]
  cases p.pending with
  | none => rfl
  | some flag =>
    obtain ⟨r, value⟩ := flag
    cases value <;> rfl

/-- A long flag is read alike. -/
theorem readLong (hkeeps : Keeps Inv rules) (h : Follows Inv rules p q) (cs : List Char) :
    Alike (Follows Inv rules) (readLong rules p cs)
      (readLong (rules.map FlagRule.noting) q cs) := by
  unfold CommandLine.readLong
  obtain ⟨name, value⟩ := splitLong cs
  simp only [find?_noting rules fun long _ => long == name]
  cases hfind : rules.find? (·.long == name) with
  | none => exact .stop _
  | some r =>
    have hr : r ∈ rules := List.mem_of_find?_eq_some hfind
    have harity : r.noting.arity = r.arity := rfl
    simp only [Option.map_some, harity]
    split
    · exact .stop _
    · exact h.await hkeeps hr
    · exact h.take hkeeps hr _

/-- A cluster of short flags is read alike. -/
theorem readShort (hkeeps : Keeps Inv rules) (h : Follows Inv rules p q) (cs : List Char) :
    Alike (Follows Inv rules) (readShort rules p cs)
      (readShort (rules.map FlagRule.noting) q cs) := by
  induction cs generalizing p q with
  | nil => exact .done h
  | cons c rest ih =>
    unfold CommandLine.readShort
    simp only [find?_noting rules fun _ short => short == some c]
    cases hfind : rules.find? (·.short == some c) with
    | none => exact .stop _
    | some r =>
      have hr : r ∈ rules := List.mem_of_find?_eq_some hfind
      have harity : r.noting.arity = r.arity := rfl
      simp only [Option.map_some, harity]
      -- the cluster goes on behind a flag without a value, and ends with any other
      split
      · obtain ⟨_, hp, hq⟩ | ⟨_, _, hp, hq, hlone⟩ := (h.take hkeeps hr none).cases_of
        · rw [hp, hq]
          exact .stop _
        · rw [hp, hq]
          exact ih hlone
      · exact h.take hkeeps hr _
      · obtain ⟨_, hp, hq⟩ | ⟨_, _, hp, hq, hlone⟩ := (h.take hkeeps hr none).cases_of
        · rw [hp, hq]
          exact .stop _
        · rw [hp, hq]
          exact ih hlone
      · exact h.await hkeeps hr
      · exact h.take hkeeps hr _

/-- A level is read alike, up to its end or up to the same command. -/
theorem read {l : Level α} (hkeeps : Keeps Inv l.rules) (h : Follows Inv l.rules p q)
    (args : List String) :
    Alike (fun x y => Follows Inv l.rules x.1 y.1 ∧ y.2 = x.2) (l.read p args)
      (l.noting.read q args) := by
  induction args generalizing p q with
  | nil => exact .done ⟨h, rfl⟩
  | cons arg rest ih =>
    have hcommands : l.noting.commands = l.commands := rfl
    have hrules : l.noting.rules = l.rules.map FlagRule.noting := rfl
    unfold Level.read
    rw [h.isAwaiting, hcommands]
    split
    · exact .done ⟨h, rfl⟩
    -- the argument is a double hyphen, a long flag, short flags, or the value of a flag
    split
    · cases rest with
      | nil => exact .done ⟨h, rfl⟩
      | cons stray _ => exact .stop _
    · rename_i cs _ _
      obtain ⟨_, hp, hq⟩ | ⟨_, _, hp, hq, hflag⟩ := (h.readLong hkeeps cs).cases_of
      · rw [hp, hrules, hq]
        exact .stop _
      · rw [hp, hrules, hq]
        exact ih hflag
    · rename_i c cs _ _ _
      obtain ⟨_, hp, hq⟩ | ⟨_, _, hp, hq, hflag⟩ := (h.readShort hkeeps (c :: cs)).cases_of
      · rw [hp, hrules, hq]
        exact .stop _
      · rw [hp, hrules, hq]
        exact ih hflag
    · have hpending := h.pending
      rcases hp : p.pending with _ | ⟨r, _ | value⟩
      · rw [hp] at hpending
        rw [hpending]
        exact .stop _
      · rw [hp] at hpending
        rw [hpending]
        refine ih ⟨h.record, h.given, h.names, rfl, ?_⟩
        intro r' value hknown
        obtain ⟨rfl, -⟩ : r = r' ∧ some arg = value := by simpa using hknown
        exact h.known r none hp
      · rw [hp] at hpending
        rw [hpending]
        exact .stop _

end Follows

/-! ## Whole command lines -/

namespace Invocation

/-- The command of a command line and its flags, those behind the command before those in front
of it. -/
def flagTexts (args : List String) : Except Stop (Operation × FlagTexts) :=
  (readLevels outerLevel.noting (fun op => (innerLevel op).noting) [] [] args).map
    fun (op, front, behind) => (op, behind ++ front)

variable {outer : Level α} {inner : Operation → Level β} {Outer : α → FlagTexts → Prop}
  {Inner : Operation → β → FlagTexts → Prop} {first : α} {second : β}

/-- What follows a command is read alike. -/
theorem readCommand_alike (op : Operation) {level : Level β} {Behind : β → FlagTexts → Prop}
    {p : Progress α} {q : Progress FlagTexts} (houter : Keeps Outer outer.rules)
    (hlevel : Keeps Behind level.rules) (hp : Follows Outer outer.rules p q)
    (hsecond : Behind second []) (args : List String) :
    Alike (fun x y => x.1 = op ∧ y.1 = op ∧ Outer x.2.1 y.2.1 ∧ Behind x.2.2 y.2.2)
      (readCommand op p level second args) (readCommand op q level.noting [] args) := by
  have hstart : Follows Behind level.rules { record := second } { record := [] } :=
    ⟨hsecond, rfl, rfl, rfl, by simp⟩
  refine (hstart.read hlevel args).bind fun x y hread => ?_
  refine (hread.1.settle hlevel).bind fun _ _ hinner => ?_
  refine (hp.settle houter).bind fun _ _ houter' => ?_
  exact .done ⟨rfl, rfl, houter'.record, hinner.record⟩

/-- A command line is read alike at both of its levels. -/
theorem readLevels_alike (houter : Keeps Outer outer.rules)
    (hinner : ∀ op, Keeps (Inner op) (inner op).rules) (hfirst : Outer first [])
    (hsecond : ∀ op, Inner op second []) (args : List String) :
    Alike (fun x y => y.1 = x.1 ∧ Outer x.2.1 y.2.1 ∧ Inner x.1 x.2.2 y.2.2)
      (readLevels outer inner first second args)
      (readLevels outer.noting (fun op => (inner op).noting) [] [] args) := by
  have hstart : Follows Outer outer.rules { record := first } { record := [] } :=
    ⟨hfirst, rfl, rfl, rfl, by simp⟩
  refine (hstart.read houter args).bind fun (p, command) (q, command') hread => ?_
  obtain ⟨hfollows, rfl : command' = command⟩ := hread
  have hcommand (op : Operation) (rest : List String) :
      Alike (fun x y => y.1 = x.1 ∧ Outer x.2.1 y.2.1 ∧ Inner x.1 x.2.2 y.2.2)
        (readCommand op p (inner op) second rest)
        (readCommand op q (inner op).noting [] rest) := by
    obtain ⟨_, hx, hy⟩ | ⟨⟨_, x⟩, ⟨_, y⟩, hx, hy, rfl, rfl, hrecords⟩ :=
      (readCommand_alike op houter (hinner op) hfollows (hsecond op) rest).cases_of
    · rw [hx, hy]
      exact .stop _
    · rw [hx, hy]
      exact .done ⟨rfl, hrecords⟩
  -- flags in front of the command are settled behind it, or at the end if there is none
  rcases command' with _ | ⟨word, rest⟩
  · refine (hfollows.settle houter).bind fun p' q' hsettled => ?_
    rw [hsettled.given]
    exact .stop _
  · dsimp only
    split
    · exact hcommand .backup rest
    split
    · exact hcommand .restore rest
    · exact .stop _

end Invocation

end BackupControl.CommandLine
