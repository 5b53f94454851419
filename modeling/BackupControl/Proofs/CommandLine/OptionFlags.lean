/-
# Options and their flags

Which flag belongs to which option.  A command has flags for the options of its own sections
and no two of its options share a flag, so a command line gives each option the value that the
text behind its flag stands for, and gives an option nothing whose flag was not passed.
-/
import BackupControl.Proofs.CommandLine.FlagTexts
import BackupControl.Proofs.Options.Section
import Mathlib.Data.List.Nodup

namespace BackupControl

open CommandLine (FlagTexts GlobalFlags CommandFlags FlagRule)

/-! ## Flags of a section -/

namespace Section

/-- All sections. -/
def all : List Section :=
  [.app, .cluster, .scan, .changeFeed, .restore, .compression, .encryption, .secretAgent, .awsS3,
    .gcpStorage, .azureBlob, .localFiles]

/-- No section is left out. -/
theorem mem_all (n : Section) : n ∈ all := by
  cases n <;> decide

/-- A command has flags for a section. -/
def isOf (op : Operation) : Section → Bool
  | .scan | .changeFeed => op == .backup
  | .restore => op == .restore
  | _ => true

/-- The flag that a command has for an option. -/
def flag? (op : Operation) (n : Section) (s : Setting n.Group) : Option Flag :=
  if n.isOf op then s.flag.filter (CommandFlags.isInScope op) else none

end Section

namespace CommandLine

open Invocation (innerLevel outerLevel)

/-- An option of a section with its flag. -/
abbrev FlaggedOption : Type 1 := (Σ n : Section, Setting n.Group) × Flag

/-- The options that a command has flags for. -/
def flaggedOptions (op : Operation) : List FlaggedOption :=
  Section.all.flatMap fun n =>
    n.settings.filterMap fun s => (n.flag? op s).map fun f => (⟨n, s⟩, f)

/-- The long names of the flags of options. -/
def flagNames (op : Operation) : List String := (flaggedOptions op).map fun o => o.2.long

/-- The flag that asks for a change-feed backup and sets no option. -/
def feedFlag : String := "xdr"

variable {op : Operation} {n : Section} {s : Setting n.Group} {f : Flag}

/-- Every option with a flag is listed. -/
theorem mem_flaggedOptions (hs : s ∈ n.settings) (hf : n.flag? op s = some f) :
    (⟨⟨n, s⟩, f⟩ : FlaggedOption) ∈ flaggedOptions op := by
  rw [flaggedOptions, List.mem_flatMap]
  refine ⟨n, n.mem_all, ?_⟩
  rw [List.mem_filterMap]
  exact ⟨s, hs, by rw [hf, Option.map_some]⟩

/-- The name of the flag of an option is listed. -/
theorem long_mem_flagNames (hs : s ∈ n.settings) (hf : n.flag? op s = some f) :
    f.long ∈ flagNames op :=
  List.mem_map.2 ⟨_, mem_flaggedOptions hs hf, rfl⟩

/-- No two options of a command share the name of a flag. -/
theorem nodup_flagNames (op : Operation) : (flagNames op).Nodup := by
  cases op <;> decide +kernel

/-- The flag that asks for a change-feed backup is the flag of no option. -/
theorem feedFlag_notMem_flagNames (op : Operation) : feedFlag ∉ flagNames op := by
  cases op <;> decide +kernel

/-- An option is known by the name of its flag. -/
theorem eq_of_long_eq {m : Section} {t : Setting m.Group} {g : Flag} (hs : s ∈ n.settings)
    (hf : n.flag? op s = some f) (ht : t ∈ m.settings) (hg : m.flag? op t = some g)
    (hlong : f.long = g.long) : (⟨n, s⟩ : Σ n : Section, Setting n.Group) = ⟨m, t⟩ := by
  have hinj := List.inj_on_of_nodup_map (nodup_flagNames op)
  exact congrArg Prod.fst (hinj (mem_flaggedOptions hs hf) (mem_flaggedOptions ht hg) hlong)

/-! ## Texts of options -/

/-- The text behind the flag of an option, if it was passed. -/
def FlagTexts.text? (texts : FlagTexts) (op : Operation) (n : Section) (s : Setting n.Group) :
    Option String :=
  (n.flag? op s).bind fun f => texts.lookup f.long

/-- The flag was passed. -/
def FlagTexts.isPassed (texts : FlagTexts) (name : String) : Bool := (texts.lookup name).isSome

namespace FlagTexts

variable {texts : FlagTexts} {name : String}

/-- A flag that was passed last is found first. -/
theorem lookup_with_self (value : Option String) :
    (texts.with name value).lookup name = some (value.getD loneValue) :=
  List.lookup_cons_self

/-- A flag is found behind those with other names. -/
theorem lookup_with_of_ne {other : String} (h : other ≠ name) (value : Option String) :
    (texts.with name value).lookup other = texts.lookup other := by
  have hne : (other == name) = false := by simpa using h
  rw [FlagTexts.with, List.lookup_cons, hne]

/-- The text of an option is the one that was passed with its flag. -/
theorem text?_with_self (hf : n.flag? op s = some f) (value : Option String) :
    (texts.with f.long value).text? op n s = some (value.getD loneValue) := by
  rw [text?, hf, Option.bind_some, lookup_with_self]

/-- The text of an option does not depend on flags with other names. -/
theorem text?_with_of_ne (h : ∀ f, n.flag? op s = some f → f.long ≠ name)
    (value : Option String) : (texts.with name value).text? op n s = texts.text? op n s := by
  unfold text?
  cases hf : n.flag? op s with
  | none => rfl
  | some f => exact lookup_with_of_ne (h f hf) value

/-- Of two command lines, the first is heard first on every flag. -/
theorem text?_append (behind front : FlagTexts) (op : Operation) (n : Section)
    (s : Setting n.Group) :
    text? (behind ++ front) op n s = (behind.text? op n s).or (front.text? op n s) := by
  unfold text?
  cases n.flag? op s with
  | none => rfl
  | some f => exact List.lookup_append

end FlagTexts

/-! ## Records of flags -/

/-- What the flags behind a command have set. -/
abbrev FlagRecord : Type := GlobalFlags × CommandFlags

namespace FlagRecord

/-- What flags give for a section. -/
def get (r : FlagRecord) : (n : Section) → n.Group Given
  | .app => r.1.app
  | .cluster => r.2.cluster
  | .scan => r.2.scan
  | .changeFeed => r.2.changeFeed
  | .restore => r.2.restore
  | .compression => r.2.compression
  | .encryption => r.2.encryption
  | .secretAgent => r.2.secretAgent
  | .awsS3 => r.2.awsS3
  | .gcpStorage => r.2.gcpStorage
  | .azureBlob => r.2.azureBlob
  | .localFiles => r.2.localFiles

/-- A change to what flags give for a section. -/
def modify : (n : Section) → (n.Group Given → n.Group Given) → FlagRecord → FlagRecord
  | .app, change, r => ({ r.1 with app := change r.1.app }, r.2)
  | .cluster, change, r => (r.1, { r.2 with cluster := change r.2.cluster })
  | .scan, change, r => (r.1, { r.2 with scan := change r.2.scan })
  | .changeFeed, change, r => (r.1, { r.2 with changeFeed := change r.2.changeFeed })
  | .restore, change, r => (r.1, { r.2 with restore := change r.2.restore })
  | .compression, change, r => (r.1, { r.2 with compression := change r.2.compression })
  | .encryption, change, r => (r.1, { r.2 with encryption := change r.2.encryption })
  | .secretAgent, change, r => (r.1, { r.2 with secretAgent := change r.2.secretAgent })
  | .awsS3, change, r => (r.1, { r.2 with awsS3 := change r.2.awsS3 })
  | .gcpStorage, change, r => (r.1, { r.2 with gcpStorage := change r.2.gcpStorage })
  | .azureBlob, change, r => (r.1, { r.2 with azureBlob := change r.2.azureBlob })
  | .localFiles, change, r => (r.1, { r.2 with localFiles := change r.2.localFiles })

/-- The section that was changed. -/
theorem get_modify_self (n : Section) (change : n.Group Given → n.Group Given) (r : FlagRecord) :
    (modify n change r).get n = change (r.get n) := by
  cases n <;> rfl

/-- The other sections stay as they were. -/
theorem get_modify_of_ne {m n : Section} (h : m ≠ n) (change : n.Group Given → n.Group Given)
    (r : FlagRecord) : (modify n change r).get m = r.get m := by
  cases n <;> cases m <;> first | rfl | exact absurd rfl h

/-- No change to a section asks for a change-feed backup. -/
theorem askedForFeed_modify (n : Section) (change : n.Group Given → n.Group Given)
    (r : FlagRecord) : (modify n change r).2.askedForFeed = r.2.askedForFeed := by
  cases n <;> rfl

end FlagRecord

/-! ## What a command line explains -/

/-- The flags that were passed explain a record: an option is given the value that the text
behind its flag stands for, and nothing if its flag was not passed. -/
structure Explained (op : Operation) (r : FlagRecord) (texts : FlagTexts) : Prop where
  options : ∀ n : Section, ∀ s ∈ n.settings,
    (s.get (r.get n)).map Except.ok = (texts.text? op n s).map (flagValue s.kind)
  askedForFeed : r.2.askedForFeed = texts.isPassed feedFlag

/-- An option whose flag was not passed is not set. -/
theorem Explained.get_of_text?_eq_none {r : FlagRecord} {texts : FlagTexts}
    (h : Explained op r texts) (hs : s ∈ n.settings) (htext : texts.text? op n s = none) :
    s.get (r.get n) = none := by
  have hget := h.options n s hs
  rw [htext, Option.map_none, Option.map_eq_none_iff] at hget
  exact hget

/-- An option whose flag was passed has the value that its text stands for. -/
theorem Explained.get_of_text?_eq_some {r : FlagRecord} {texts : FlagTexts}
    (h : Explained op r texts) (hs : s ∈ n.settings) {text : String}
    (htext : texts.text? op n s = some text) :
    ∃ v, flagValue s.kind text = .ok v ∧ s.get (r.get n) = some v := by
  have hget := h.options n s hs
  rw [htext, Option.map_some, Option.map_eq_some_iff] at hget
  obtain ⟨v, hv, hvalue⟩ := hget
  exact ⟨v, hvalue.symm, hv⟩

/-- What is given for an option, read off the text behind its flag. -/
theorem Explained.get_eq {r : FlagRecord} {texts : FlagTexts} (h : Explained op r texts)
    (hs : s ∈ n.settings) :
    s.get (r.get n) = (texts.text? op n s).bind fun text => (flagValue s.kind text).toOption := by
  cases htext : texts.text? op n s with
  | none => exact h.get_of_text?_eq_none hs htext
  | some text =>
    obtain ⟨v, hv, hget⟩ := h.get_of_text?_eq_some hs htext
    rw [hget, Option.bind_some, hv]
    rfl

/-- An option is set just if its flag was passed. -/
theorem Explained.isSome_get {r : FlagRecord} {texts : FlagTexts} (h : Explained op r texts)
    (hs : s ∈ n.settings) : (s.get (r.get n)).isSome = (texts.text? op n s).isSome := by
  have hget := congrArg Option.isSome (h.options n s hs)
  rwa [Option.isSome_map, Option.isSome_map] at hget

/-- Without any flags, nothing is set. -/
theorem explained_start (op : Operation) : Explained op ({}, {}) [] where
  options n s hs := by
    have hget : FlagRecord.get ({}, {}) n = OptionGroup.unset := by
      cases n <;> rfl
    have htext : FlagTexts.text? [] op n s = none := by
      unfold FlagTexts.text?
      cases n.flag? op s <;> rfl
    rw [hget, OptionGroup.get_unset hs, htext]
    rfl
  askedForFeed := rfl

/-! ## Rules -/

/-- A rule for a part of a larger record is the rule of an option of that part. -/
theorem within_ofSetting {α β : Type} {G : (Type → Type) → Type} (outer : (α → α) → β → β)
    (update : (G Given → G Given) → α → α) (s : Setting G) (f : Flag) :
    (FlagRule.ofSetting update s f).within outer =
      FlagRule.ofSetting (fun change => outer (update change)) s f := by
  rw [FlagRule.within, FlagRule.ofSetting, FlagRule.ofSetting, FlagRule.mk.injEq]
  refine ⟨rfl, rfl, rfl, ?_⟩
  funext value
  dsimp only
  cases flagValue s.kind (value.getD loneValue) <;> rfl

/-- The rule of the flag of an option. -/
def IsOptionRule (op : Operation) (r : FlagRule FlagRecord) : Prop :=
  ∃ n : Section, ∃ s ∈ n.settings, ∃ f, n.flag? op s = some f ∧
    r = .ofSetting (FlagRecord.modify n) s f

/-- The rule of a flag that sets no option. -/
structure SetsNoOption (op : Operation) (r : FlagRule FlagRecord) : Prop where
  get : ∀ value change, r.read value = .ok change → ∀ (record : FlagRecord) (n : Section),
    FlagRecord.get (change record) n = record.get n
  askedForFeed : ∀ value change, r.read value = .ok change → ∀ record : FlagRecord,
    (change record).2.askedForFeed = (record.2.askedForFeed || r.long == feedFlag)
  name : r.long ∉ flagNames op

/-- The rules of a group are those of the flags of its options. -/
theorem isOptionRule_of_mem_groupRules (n : Section) (hn : n.isOf op = true)
    {update : (n.Group Given → n.Group Given) → CommandFlags → CommandFlags}
    (hupdate : ∀ change (record : FlagRecord),
      (record.1, update change record.2) = record.modify n change)
    {r : FlagRule CommandFlags} (hr : r ∈ CommandFlags.groupRules op update) :
    IsOptionRule op (r.within fun change record => (record.1, change record.2)) := by
  rw [CommandFlags.groupRules, List.mem_filterMap] at hr
  obtain ⟨s, hs, hr⟩ := hr
  obtain ⟨f, hf, rfl⟩ := Option.map_eq_some_iff.1 hr
  refine ⟨n, s, hs, f, ?_, ?_⟩
  · rw [Section.flag?, hn, if_pos rfl, hf]
  · rw [within_ofSetting]
    congr
    funext change record
    exact hupdate change record

/-- The rule that asks for a change-feed backup sets no option. -/
theorem setsNoOption_feed (op : Operation) :
    SetsNoOption op ((FlagRule.lone feedFlag none
      (.ok fun g : CommandFlags => { g with askedForFeed := true })).within
        fun change record => (record.1, change record.2)) where
  get value change hread record n := by
    obtain rfl := Except.ok.inj hread
    cases n <;> rfl
  askedForFeed value change hread record := by
    obtain rfl := Except.ok.inj hread
    exact (Bool.or_true _).symm
  name := feedFlag_notMem_flagNames op

/-- The flags of every level that set no option. -/
def settingFlags : List String := ["config", "engine", "print-config", "help"]

/-- The flags of every level that set no option have names of their own. -/
theorem settingFlags_notMem (op : Operation) :
    ∀ name ∈ settingFlags, name ∉ flagNames op ∧ name ≠ feedFlag := by
  cases op <;> decide +kernel

/-- A rule of every level sets no option if it leaves the logging options as they were. -/
theorem setsNoOption_global (op : Operation) {r : FlagRule GlobalFlags}
    (hname : r.long ∈ settingFlags)
    (happ : ∀ value change, r.read value = .ok change → ∀ g, (change g).app = g.app) :
    SetsNoOption op (r.within fun change record => (change record.1, record.2)) where
  get value change hread record n := by
    cases hchange : r.read value with
    | error reason => simp [FlagRule.within, hchange, Except.map] at hread
    | ok inner =>
      simp only [FlagRule.within, hchange, Except.map, Except.ok.injEq] at hread
      subst hread
      cases n with
      | app => exact happ value inner hchange record.1
      | cluster | scan | changeFeed | restore | compression | encryption | secretAgent | awsS3
      | gcpStorage | azureBlob | localFiles => rfl
  askedForFeed value change hread record := by
    have hfeed : (r.long == feedFlag) = false := by
      simpa using (settingFlags_notMem op r.long hname).2
    cases hchange : r.read value with
    | error reason => simp [FlagRule.within, hchange, Except.map] at hread
    | ok inner =>
      simp only [FlagRule.within, hchange, Except.map, Except.ok.injEq] at hread
      subst hread
      simp only [FlagRule.within, hfeed, Bool.or_false]
  name := (settingFlags_notMem op r.long hname).1

/-- A rule of every level is that of a logging option, or it sets no option. -/
theorem isOptionRule_or_setsNoOption_global {r : FlagRule GlobalFlags}
    (hr : r ∈ GlobalFlags.rules) :
    IsOptionRule op (r.within fun change record => (change record.1, record.2)) ∨
      SetsNoOption op (r.within fun change record => (change record.1, record.2)) := by
  rw [GlobalFlags.rules, List.mem_append, List.mem_filterMap] at hr
  obtain ⟨s, hs, hr⟩ | hr := hr
  · obtain ⟨f, hf, rfl⟩ := Option.map_eq_some_iff.1 hr
    refine .inl ⟨.app, s, hs, f, ?_, ?_⟩
    · have hn : Section.isOf op .app = true := rfl
      have hscope : ∀ t ∈ App.settings, t.flag.filter (CommandFlags.isInScope op) = t.flag := by
        simp [App.settings, CommandFlags.isInScope]
      rw [Section.flag?, if_pos hn, hscope s hs, hf]
    · rw [within_ofSetting]
      rfl
  · right
    simp only [List.mem_cons, List.not_mem_nil, or_false] at hr
    -- the config file, the engine, printing the config, and help, which stops the reading
    obtain rfl | rfl | rfl | rfl := hr
    · refine setsNoOption_global op (by decide) ?_
      intro value change hread g
      simp only [FlagRule.withText, GlobalFlags.readPath] at hread
      split at hread
      · cases hread
      · obtain rfl := Except.ok.inj hread
        rfl
    · refine setsNoOption_global op (by decide) ?_
      intro value change hread g
      obtain rfl := Except.ok.inj hread
      rfl
    · refine setsNoOption_global op (by decide) ?_
      intro value change hread g
      obtain rfl := Except.ok.inj hread
      rfl
    · refine setsNoOption_global op (by decide) ?_
      intro value change hread g
      cases hread

/-- A rule of a command is that of one of its options, or it sets no option. -/
theorem isOptionRule_or_setsNoOption_command {r : FlagRule CommandFlags}
    (hr : r ∈ CommandFlags.rules op) :
    IsOptionRule op (r.within fun change record => (record.1, change record.2)) ∨
      SetsNoOption op (r.within fun change record => (record.1, change record.2)) := by
  simp only [CommandFlags.rules, List.mem_append] at hr
  obtain (((((((hr | hr) | hr) | hr) | hr) | hr) | hr) | hr) | hr := hr
  · exact .inl (isOptionRule_of_mem_groupRules .cluster rfl (fun _ _ => rfl) hr)
  · cases op with
    | backup =>
      simp only [CommandFlags.ownRules, List.mem_append, List.mem_cons] at hr
      obtain hr | rfl | hr := hr
      · exact .inl (isOptionRule_of_mem_groupRules .scan rfl (fun _ _ => rfl) hr)
      · exact .inr (setsNoOption_feed .backup)
      · exact .inl (isOptionRule_of_mem_groupRules .changeFeed rfl (fun _ _ => rfl) hr)
    | restore => exact .inl (isOptionRule_of_mem_groupRules .restore rfl (fun _ _ => rfl) hr)
  · exact .inl (isOptionRule_of_mem_groupRules .compression rfl (fun _ _ => rfl) hr)
  · exact .inl (isOptionRule_of_mem_groupRules .encryption rfl (fun _ _ => rfl) hr)
  · exact .inl (isOptionRule_of_mem_groupRules .secretAgent rfl (fun _ _ => rfl) hr)
  · exact .inl (isOptionRule_of_mem_groupRules .awsS3 rfl (fun _ _ => rfl) hr)
  · exact .inl (isOptionRule_of_mem_groupRules .gcpStorage rfl (fun _ _ => rfl) hr)
  · exact .inl (isOptionRule_of_mem_groupRules .azureBlob rfl (fun _ _ => rfl) hr)
  · exact .inl (isOptionRule_of_mem_groupRules .localFiles rfl (fun _ _ => rfl) hr)

/-! ## One flag more -/

/-- The rule of an option keeps the explanation: the option has the value of the text, and the
others have flags with other names. -/
theorem Explained.of_isOptionRule {r : FlagRule FlagRecord} (hr : IsOptionRule op r)
    {value : Option String} {change : FlagRecord → FlagRecord}
    (hread : r.read value = .ok change) {record : FlagRecord} {texts : FlagTexts}
    (h : Explained op record texts) :
    Explained op (change record) (texts.with r.long value) := by
  obtain ⟨n, s, hs, f, hf, rfl⟩ := hr
  have hlong : (FlagRule.ofSetting (FlagRecord.modify n) s f).long = f.long := rfl
  rw [hlong]
  cases hvalue : flagValue s.kind (value.getD loneValue) with
  | error reason =>
    simp only [FlagRule.ofSetting, hvalue] at hread
    exact absurd hread nofun
  | ok v =>
    simp only [FlagRule.ofSetting, hvalue] at hread
    obtain rfl := Except.ok.inj hread
    constructor
    · intro m t ht
      by_cases hsame : (⟨m, t⟩ : Σ n : Section, Setting n.Group) = ⟨n, s⟩
      · -- the option itself reads what was written to it
        cases hsame
        rw [FlagRecord.get_modify_self, (LawfulOptionGroup.lawful s hs).get_put,
          FlagTexts.text?_with_self hf, Option.map_some, Option.map_some, hvalue]
      · -- any other option has a flag of its own and a place of its own
        have htext : (texts.with f.long value).text? op m t = texts.text? op m t := by
          apply FlagTexts.text?_with_of_ne
          intro g hg hlong
          exact hsame (eq_of_long_eq ht hg hs hf hlong)
        rw [htext, ← h.options m t ht]
        congr 1
        by_cases hmn : m = n
        · subst hmn
          have hne : t ≠ s := fun heq => hsame (by rw [heq])
          rw [FlagRecord.get_modify_self, OptionGroup.get_put_of_ne hs ht hne]
        · rw [FlagRecord.get_modify_of_ne hmn]
    · have hne : feedFlag ≠ f.long := by
        intro heq
        exact feedFlag_notMem_flagNames op (heq ▸ long_mem_flagNames hs hf)
      rw [FlagRecord.askedForFeed_modify, h.askedForFeed, FlagTexts.isPassed,
        FlagTexts.isPassed, FlagTexts.lookup_with_of_ne hne]

/-- A rule that sets no option keeps the explanation. -/
theorem Explained.of_setsNoOption {r : FlagRule FlagRecord} (hr : SetsNoOption op r)
    {value : Option String} {change : FlagRecord → FlagRecord}
    (hread : r.read value = .ok change) {record : FlagRecord} {texts : FlagTexts}
    (h : Explained op record texts) :
    Explained op (change record) (texts.with r.long value) := by
  constructor
  · intro m t ht
    have htext : (texts.with r.long value).text? op m t = texts.text? op m t := by
      apply FlagTexts.text?_with_of_ne
      intro g hg hlong
      exact hr.name (hlong ▸ long_mem_flagNames ht hg)
    rw [htext, ← h.options m t ht, hr.get value change hread]
  · rw [hr.askedForFeed value change hread, h.askedForFeed, FlagTexts.isPassed,
      FlagTexts.isPassed]
    by_cases hfeed : r.long = feedFlag
    · rw [hfeed, FlagTexts.lookup_with_self, beq_self_eq_true, Bool.or_true]
      rfl
    · have hbeq : (r.long == feedFlag) = false := by simpa using hfeed
      rw [FlagTexts.lookup_with_of_ne (Ne.symm hfeed), hbeq, Bool.or_false]

/-- Every rule of the level behind a command keeps the explanation. -/
theorem keeps_explained (op : Operation) : Keeps (Explained op) (innerLevel op).rules := by
  intro r hr value change record texts hread h _
  have hrule : IsOptionRule op r ∨ SetsNoOption op r := by
    rw [innerLevel, List.mem_append, List.mem_map, List.mem_map] at hr
    obtain ⟨r, hr, rfl⟩ | ⟨r, hr, rfl⟩ := hr
    · exact isOptionRule_or_setsNoOption_command hr
    · exact isOptionRule_or_setsNoOption_global hr
  obtain hoption | hnone := hrule
  · exact h.of_isOptionRule hoption hread
  · exact h.of_setsNoOption hnone hread

/-- Every rule of the level in front of a command keeps the explanation, for either command. -/
theorem keeps_explained_outer :
    Keeps (fun g texts => ∀ op, Explained op (g, {}) texts) outerLevel.rules := by
  intro r hr value change g texts hread h hnew op
  rw [outerLevel, List.mem_append, List.mem_singleton] at hr
  obtain hr | rfl := hr
  · -- the rule also stands behind the command, where it acts on a larger record
    have hinner : r.within (fun change record => (change record.1, record.2)) ∈
        (innerLevel op).rules :=
      List.mem_append_right _ (List.mem_map_of_mem hr)
    refine keeps_explained op _ hinner value (fun record => (change record.1, record.2)) (g, {})
      texts ?_ (h op) hnew
    simp only [FlagRule.within, hread]
    rfl
  · exact absurd hread nofun

/-! ## Whole command lines -/

/-- What flags give at both levels: those behind the command are heard first. -/
theorem FlagRecord.get_overlay (g : GlobalFlags) (r : FlagRecord) (hs : s ∈ n.settings) :
    s.get (get (g.overlay r.1, r.2) n) = (s.get (r.get n)).or (s.get (get (g, {}) n)) := by
  cases n with
  | app => exact OptionGroup.get_overlay hs g.app r.1.app
  | cluster | scan | changeFeed | restore | compression | encryption | secretAgent | awsS3
  | gcpStorage | azureBlob | localFiles =>
    have hfront : s.get (get (g, {}) _) = none := OptionGroup.get_unset hs
    rw [hfront, Option.or_none]
    rfl

/-- The flags of both levels together explain what both have set. -/
theorem Explained.overlay {g : GlobalFlags} {r : FlagRecord} {front behind : FlagTexts}
    (hfront : Explained op (g, {}) front) (hbehind : Explained op r behind) :
    Explained op (g.overlay r.1, r.2) (behind ++ front) where
  options n s hs := by
    rw [FlagRecord.get_overlay g r hs, FlagTexts.text?_append, Option.map_or, Option.map_or,
      hbehind.options n s hs, hfront.options n s hs]
  askedForFeed := by
    have hnone : front.lookup feedFlag = none := by
      simpa [FlagTexts.isPassed] using hfront.askedForFeed.symm
    rw [FlagTexts.isPassed, List.lookup_append, hnone, Option.or_none]
    exact hbehind.askedForFeed

/-- The flags that were passed explain what an invocation has set. -/
theorem explained_ofArguments {args : List String} {i : Invocation}
    (h : Invocation.ofArguments args = .ok i) :
    ∃ texts, Invocation.flagTexts args = .ok (i.op, texts) ∧
      Explained i.op (i.globals, i.flags) texts := by
  have hlevels := Invocation.readLevels_alike keeps_explained_outer keeps_explained
    explained_start explained_start args
  rw [Invocation.ofArguments] at h
  obtain ⟨_, hx, hy⟩ | ⟨⟨op, g, r⟩, ⟨_, front, behind⟩, hx, hy, rfl, hfront, hbehind⟩ :=
    hlevels.cases_of
  · rw [hx] at h
    exact absurd h nofun
  · rw [hx] at h
    obtain rfl := Except.ok.inj h
    refine ⟨behind ++ front, ?_, (hfront _).overlay hbehind⟩
    rw [Invocation.flagTexts, hy]
    rfl

end CommandLine

end BackupControl
