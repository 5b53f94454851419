/-
# The command line over a config file

A command line is an exact overlay: what it sets is what its flags say, and everything else is
as the config file has it.  A command line always has the sections of its command, but sections
that set nothing do not show; only the change-feed section does, so it is there just if a flag
of its group was passed.
-/
import BackupControl.Launch.Files
import BackupControl.Proofs.CommandLine.FlagTable
import BackupControl.Proofs.CommandLine.StorageFlags
import BackupControl.Proofs.Rules.Check
import BackupControl.Proofs.Service.Sections

namespace BackupControl.CommandLine

variable {i : Invocation} {texts : FlagTexts} {n : Section} {s : Setting n.Group}

/-! ## Options over a file -/

/-- The layer of a run: its config file, with the logging flags over it and the flags of the
command over both. -/
def Invocation.over (i : Invocation) (file : Layer) : Layer :=
  i.wholeLayer (file.overlay i.appLayer)

/-- What the flags of an invocation give for every section. -/
def Invocation.given (i : Invocation) : FlagRecord := (i.globals, i.flags)

/-- A feed section that is left out sets nothing. -/
theorem CommandFlags.bind_get_feedSection (f : CommandFlags) {s : Setting ChangeFeed}
    (hs : s ∈ ChangeFeed.settings) : f.feedSection.bind s.get = s.get f.changeFeed := by
  unfold feedSection
  split
  · rfl
  · rename_i hleft
    rw [Bool.or_eq_true, not_or, Bool.not_eq_true, Bool.not_eq_true, Bool.not_eq_false'] at hleft
    exact ((OptionGroup.isUnset_iff f.changeFeed).1 hleft.2 s hs).symm

/-- An option of a section that a command has no flags for is not set. -/
theorem Explained.get_of_isOf_eq_false {op : Operation} {r : FlagRecord}
    (h : Explained op r texts) (hs : s ∈ n.settings) (hop : n.isOf op = false) :
    s.get (r.get n) = none := by
  apply h.get_of_text?_eq_none hs
  rw [FlagTexts.text?, Section.flag?, if_neg (by rw [hop]; exact Bool.false_ne_true),
    Option.bind_none]

/-- The layers of an invocation set what its flags give. -/
theorem Explained.value?_layer (h : Explained i.op i.given texts) (hs : s ∈ n.settings) :
    (i.appLayer.overlay i.layer).value? n s = s.get (i.given.get n) := by
  rw [Layer.value?_overlay _ _ hs]
  -- the sections of the other command are missing, and nothing was given for them
  have hor (g : Option s.kind.Value) : g.or none = g := Option.or_none
  cases n with
  | app => rfl
  | scan =>
    cases hop : i.op with
    | backup =>
      simp only [Layer.value?, Layer.get, Invocation.layer, CommandFlags.layer, hop, if_true]
      exact hor _
    | restore =>
      rw [h.get_of_isOf_eq_false hs (by rw [hop]; rfl)]
      simp only [Layer.value?, Layer.get, Invocation.layer, CommandFlags.layer, hop]
      rfl
  | restore =>
    cases hop : i.op with
    | backup =>
      rw [h.get_of_isOf_eq_false hs (by rw [hop]; rfl)]
      simp only [Layer.value?, Layer.get, Invocation.layer, CommandFlags.layer, hop]
      rfl
    | restore =>
      simp only [Layer.value?, Layer.get, Invocation.layer, CommandFlags.layer, hop, if_true]
      exact hor _
  | changeFeed =>
    cases hop : i.op with
    | backup =>
      simp only [Layer.value?, Layer.get, Invocation.layer, CommandFlags.layer, hop, if_true]
      rw [CommandFlags.bind_get_feedSection i.flags hs]
      exact hor _
    | restore =>
      rw [h.get_of_isOf_eq_false hs (by rw [hop]; rfl)]
      simp only [Layer.value?, Layer.get, Invocation.layer, CommandFlags.layer, hop]
      rfl
  | cluster | compression | encryption | secretAgent | awsS3 | gcpStorage | azureBlob
  | localFiles => exact hor _

/-- Over a config file, an option has what the flags give for it, and otherwise what the file
sets. -/
theorem Explained.value?_over (h : Explained i.op i.given texts) (file : Layer)
    (hs : s ∈ n.settings) :
    (i.over file).value? n s = (s.get (i.given.get n)).or (file.value? n s) := by
  rw [Invocation.over, Invocation.wholeLayer, Layer.overlay_assoc, Layer.value?_overlay _ _ hs,
    h.value?_layer hs]

/-! ## Settled options -/

/-- The options of a section are settled by the flags that were passed, the config file and the
built-in values, in this order. -/
def FlagTexts.Settles (texts : FlagTexts) (op : Operation) (file : Layer) (d : Defaults)
    (n : Section) (values : n.Group Settled) : Prop :=
  ∀ s ∈ n.settings,
    match texts.text? op n s with
    | some text => flagValue s.kind text = .ok (s.get values)
    | none => s.get values = (file.value? n s).getD (s.get (d.get n))

/-- A section over a config file is settled by flags, file and built-in values. -/
theorem Explained.settles (h : Explained i.op i.given texts) (file : Layer) (d : Defaults)
    (n : Section) :
    texts.Settles i.op file d n (settleSection ((i.over file).get n) (d.get n)) := by
  intro s hs
  have hvalue : s.get (settleSection ((i.over file).get n) (d.get n)) =
      ((s.get (i.given.get n)).or (file.value? n s)).getD (s.get (d.get n)) := by
    rw [get_settleSection hs, ← h.value?_over file hs]
    rfl
  cases htext : texts.text? i.op n s with
  | none =>
    rw [hvalue, h.get_of_text?_eq_none hs htext, Option.none_or]
  | some text =>
    obtain ⟨v, hv, hget⟩ := h.get_of_text?_eq_some hs htext
    rw [hvalue, hget, Option.some_or, Option.getD_some]
    exact hv

/-! ## Command lines without flags of the command -/

/-- None of the flags of the command was passed. -/
def FlagTexts.NoneOfCommand (texts : FlagTexts) (op : Operation) : Prop :=
  ∀ r ∈ CommandFlags.rules op, texts.isPassed r.long = false

/-- The flags of options have rules, those of the logging options at every level and the others
behind their command. -/
theorem flaggedOptions_have_rules (op : Operation) :
    ∀ o ∈ flaggedOptions op, o.1.1 ≠ .app → o.2.long ∈ (CommandFlags.rules op).map (·.long) := by
  cases op <;> decide +kernel

namespace FlagTexts.NoneOfCommand

/-- No flag of an option was passed, except for the logging options. -/
theorem text?_eq_none {op : Operation} (h : texts.NoneOfCommand op) (hn : n ≠ .app)
    (hs : s ∈ n.settings) : texts.text? op n s = none := by
  unfold FlagTexts.text?
  cases hf : n.flag? op s with
  | none => rfl
  | some f =>
    have hlong := flaggedOptions_have_rules op _ (mem_flaggedOptions hs hf) hn
    obtain ⟨r, hr, hlong⟩ := List.mem_map.1 hlong
    have hpassed := h r hr
    rw [hlong, FlagTexts.isPassed, Option.isSome_eq_false_iff, Option.isNone_iff_eq_none]
      at hpassed
    exact hpassed

/-- No change-feed backup was asked for. -/
theorem isPassed_feedFlag (h : texts.NoneOfCommand .backup) : texts.isPassed feedFlag = false := by
  have hmem : feedFlag ∈ (CommandFlags.rules .backup).map (·.long) := by
    decide +kernel
  obtain ⟨r, hr, hlong⟩ := List.mem_map.1 hmem
  rw [← hlong]
  exact h r hr

end FlagTexts.NoneOfCommand

/-- Without flags of the command, the layer of a run sets what the config file sets. -/
theorem Explained.setSame_over (h : Explained i.op i.given texts)
    (hnone : texts.NoneOfCommand i.op) (file : Layer) : (i.over file).SetSame file := by
  apply Layer.SetSame.of_value?
  intro n hn s hs
  rw [h.value?_over file hs, h.get_of_text?_eq_none hs (hnone.text?_eq_none hn hs),
    Option.none_or]

/-! ## The kind of a backup -/

/-- The flags that ask for a change-feed backup: its own flag, and those of its options. -/
def feedFlags : List String :=
  feedFlag :: ChangeFeed.settings.filterMap fun s => s.flag.map (·.long)

/-- Beside the flag that only asks, these are the flags of the table. -/
theorem feedFlags_eq (g : ChangeFeed Given) :
    feedFlags = "xdr" :: (ChangeFeed.flagLines g).map (·.long) := rfl

/-- The flag of a change-feed option belongs to a backup. -/
theorem flag?_changeFeed {s : Setting ChangeFeed} (hs : s ∈ ChangeFeed.settings) :
    Section.flag? .backup .changeFeed s = s.flag := by
  have hscope : ∀ t ∈ ChangeFeed.settings,
      t.flag.filter (CommandFlags.isInScope .backup) = t.flag := by
    simp [ChangeFeed.settings, CommandFlags.isInScope]
  have hop : Section.isOf .backup .changeFeed = true := rfl
  rw [Section.flag?, if_pos hop, hscope s hs]

/-- The flags of a backup make a change-feed section just if one of its flags was passed. -/
theorem Explained.isSome_feedSection {f : CommandFlags} {globals : GlobalFlags}
    (h : Explained .backup (globals, f) texts) :
    f.feedSection.isSome = true ↔ ∃ name ∈ feedFlags, texts.isPassed name = true := by
  have hasked : f.askedForFeed = texts.isPassed feedFlag := h.askedForFeed
  -- a flag counts by being passed: whatever its text, its option is then set
  have hset : OptionGroup.isUnset f.changeFeed = false ↔
      ∃ s ∈ ChangeFeed.settings, ∃ g, s.flag = some g ∧ texts.isPassed g.long = true := by
    rw [← Bool.not_eq_true, OptionGroup.isUnset_iff]
    simp only [not_forall, exists_prop]
    refine exists_congr fun s => and_congr_right fun hs => ?_
    have hget : (s.get f.changeFeed).isSome = (texts.text? .backup .changeFeed s).isSome :=
      h.isSome_get (n := .changeFeed) hs
    rw [← ne_eq, ← Option.isSome_iff_ne_none, hget, FlagTexts.text?, flag?_changeFeed hs]
    cases s.flag with
    | none => simp
    | some g => simp [FlagTexts.isPassed]
  have hsection : f.feedSection.isSome = (f.askedForFeed || !OptionGroup.isUnset f.changeFeed) := by
    unfold CommandFlags.feedSection
    split
    · rename_i hthere
      exact hthere.symm
    · rename_i hmissing
      exact (Bool.not_eq_true _ ▸ hmissing).symm
  rw [hsection, Bool.or_eq_true, Bool.not_eq_true', hset, hasked]
  simp only [feedFlags, List.mem_cons, List.mem_filterMap, Option.map_eq_some_iff]
  constructor
  · rintro (hfeed | ⟨s, hs, g, hg, hpassed⟩)
    · exact ⟨feedFlag, .inl rfl, hfeed⟩
    · exact ⟨g.long, .inr ⟨s, hs, g, hg, rfl⟩, hpassed⟩
  · rintro ⟨name, rfl | ⟨s, hs, g, hg, rfl⟩, hpassed⟩
    · exact .inl hpassed
    · exact .inr ⟨s, hs, g, hg, hpassed⟩

/-- The change-feed section of a run is that of the flags over that of the config file. -/
theorem changeFeed_over (i : Invocation) (file : Layer) :
    (i.over file).changeFeed = overlaySection file.changeFeed i.layer.changeFeed := by
  have hbase : (file.overlay i.appLayer).changeFeed = file.changeFeed :=
    overlaySection_none_right file.changeFeed
  rw [← hbase]
  rfl

/-- The change-feed section of the flags of a backup. -/
theorem changeFeed_layer (hop : i.op = .backup) : i.layer.changeFeed = i.flags.feedSection := by
  rw [Invocation.layer, CommandFlags.layer, hop]
  rfl

/-- A run has a change-feed section just if its config file has one or a flag of the section was
passed. -/
theorem Explained.isSome_changeFeed_over (h : Explained i.op i.given texts) (hop : i.op = .backup)
    (file : Layer) :
    (i.over file).changeFeed.isSome = true ↔
      file.changeFeed.isSome = true ∨ ∃ name ∈ feedFlags, texts.isPassed name = true := by
  rw [hop] at h
  rw [changeFeed_over, changeFeed_layer hop, isSome_overlaySection, Bool.or_eq_true,
    h.isSome_feedSection]

/-- Without flags of the command, the change-feed section is that of the config file. -/
theorem Explained.changeFeed_over_of_none (h : Explained i.op i.given texts)
    (hnone : texts.NoneOfCommand i.op) (file : Layer) :
    (i.over file).changeFeed = file.changeFeed := by
  have hlayer : i.layer.changeFeed = none := by
    cases hop : i.op with
    | restore =>
      rw [Invocation.layer, CommandFlags.layer, hop]
      rfl
    | backup =>
      rw [hop] at h hnone
      rw [changeFeed_layer hop, ← Option.not_isSome_iff_eq_none, h.isSome_feedSection]
      rintro ⟨name, hname, hpassed⟩
      rw [feedFlags, List.mem_cons, List.mem_filterMap] at hname
      obtain rfl | ⟨s, hs, hname⟩ := hname
      · rw [hnone.isPassed_feedFlag] at hpassed
        exact absurd hpassed Bool.false_ne_true
      · obtain ⟨f, hf, rfl⟩ := Option.map_eq_some_iff.1 hname
        have htext := hnone.text?_eq_none (n := .changeFeed) nofun hs
        rw [FlagTexts.text?, flag?_changeFeed hs, hf, Option.bind_some] at htext
        rw [FlagTexts.isPassed, htext] at hpassed
        exact absurd hpassed Bool.false_ne_true
  rw [changeFeed_over, hlayer, overlaySection_none_right]

/-! ## The exact overlay -/

/-- The session of a run: its options, if they meet the rules, and the path of its config file. -/
theorem Invocation.session_eq (i : Invocation) (d : Defaults) (file : Layer) :
    i.session d (file.overlay i.appLayer) =
      Result.during .configuring
        (((settleSection ((i.over file).get .app) d.app).check.map fun _ =>
          ({ options := settleSection ((i.over file).get .app) d.app
             configPath := i.globals.configPath.getD "" } : Session)).mapError .violation) := by
  have happ : (i.over file).get .app = (file.overlay i.appLayer).app :=
    overlaySection_none_right _
  rw [happ, Invocation.session, Session.ofLayer, Session.settle]
  cases (settleSection (file.overlay i.appLayer).app d.app).check <;> rfl

open CommandFlags (assignStorage ownScope withoutStorage)

/-- What it means that a command line is an exact overlay of every config file. -/
structure ExactOverlay (i : Invocation) (texts : FlagTexts) : Prop where
  /-- The flags set the options of the table, each by the text behind its flag, and no others. -/
  flags :
    (∀ line ∈ flagLines i.op i.given,
      line.given.map Except.ok = (texts.lookup line.long).map (flagValue line.kind)) ∧
    ∀ (n : Section), ∀ s ∈ n.settings, ∀ v, s.get (i.given.get n) = some v →
      ∃ long, ⟨long, s.kind, some v⟩ ∈ flagLines i.op i.given
  /-- Over a config file, an option is as the flags have it, and otherwise as the file has it. -/
  value (file : Layer) (n : Section) : ∀ s ∈ n.settings,
    (i.over file).value? n s = (s.get (i.given.get n)).or (file.value? n s)
  /-- The logging options of a run, which it keeps if they meet their rules. -/
  session (d : Defaults) (file : Layer) :
    ∃ options : App Settled, texts.Settles i.op file d .app options ∧
      i.session d (file.overlay i.appLayer) =
        Result.during .configuring ((options.check.map fun _ =>
          ({ options, configPath := i.globals.configPath.getD "" } : Session)).mapError .violation)
  /-- The options of a restore. -/
  restore (d : Defaults) (file : Layer) (n : Section) (values : n.Group Settled) :
    (RestoreService.ofLayer d (i.over file)).get n = some values →
      texts.Settles i.op file d n values
  /-- The options of a backup that has no change-feed section. -/
  scan (d : Defaults) (file : Layer) :
    (i.over file).changeFeed = none →
      ∃ s : BackupService, BackupService.ofLayer d (i.over file) = .ok s ∧
        s.scan.isSome = true ∧ s.changeFeed = none ∧
        ∀ (n : Section) (values : n.Group Settled), s.get n = some values →
          texts.Settles i.op file d n values
  /-- Without flags of the command, services are those of the config file alone. -/
  fileAlone (d : Defaults) (file : Layer) :
    texts.NoneOfCommand i.op →
      RestoreService.ofLayer d (i.over file) = RestoreService.ofLayer d file ∧
        BackupService.ofLayer d (i.over file) = BackupService.ofLayer d file
  /-- A change-feed backup is asked for by the config file or by a flag, whatever its text. -/
  changeFeed (d : Defaults) (file : Layer) :
    i.op = .backup →
      ((i.over file).changeFeed.isSome = true ↔
        file.changeFeed.isSome = true ∨ ∃ name ∈ feedFlags, texts.isPassed name = true) ∧
      ∀ s, BackupService.ofLayer d (i.over file) = .ok s →
        s.isChangeFeed = (i.over file).changeFeed.isSome
  /-- The flags that ask for one are a flag of its own and those of the table. -/
  asking : feedFlags = "xdr" :: (ChangeFeed.flagLines i.flags.changeFeed).map (·.long)
  /-- The storage sections come of assigning the options of both commands and those of one, which
  may be done in any order, for any flags and onto any layer. -/
  storage :
    i.layer = assignStorage i.flags (ownScope i.op)
      (assignStorage i.flags .both (withoutStorage i.layer)) ∧
    ∀ (flags : Scope → CommandFlags) (scopes others : List Scope) (l : Layer),
      scopes.Perm others →
        scopes.foldl (fun l scope => assignStorage (flags scope) scope l) l =
          others.foldl (fun l scope => assignStorage (flags scope) scope l) l

end BackupControl.CommandLine
