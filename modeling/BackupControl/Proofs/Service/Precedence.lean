/-
# Precedence in a change-feed backup

Who decides an option that a change-feed backup shares with a scan backup.  A command line can
set such an option in the scan section only, and the change-feed section inherits it from there
where it leaves it unset.  So the change-feed section of the config file is heard before the
flag, and the flag is heard first just where that section does not contradict it.
-/
import BackupControl.Proofs.CommandLine.Overlay
import BackupControl.Proofs.Rules.Check

namespace BackupControl

open CommandLine (CommandFlags Explained FlagRecord FlagTexts Invocation flagValue)

/-! ## Shared options -/

/-- An option that a change-feed backup shares with a scan backup: its key, which is the name of
its flag, its kind, and its places in both groups. -/
structure SharedOption where
  key : String
  kind : Kind
  scan : {F : Type → Type} → Scan F → F kind.Value
  feed : {F : Type → Type} → ChangeFeed F → F kind.Value

/-- The options that a change-feed backup shares with a scan backup. -/
def SharedOption.all : List SharedOption := [
  ⟨"namespace", .text, (·.transfer.nameSpace), (·.nameSpace)⟩,
  ⟨"directory", .text, (·.transfer.directory), (·.directory)⟩,
  ⟨"file-limit", .word64, (·.fileLimit), (·.fileLimit)⟩,
  ⟨"remove-files", .switch, (·.removeFiles), (·.removeFiles)⟩,
  ⟨"info-timeout", .word64, (·.transfer.infoTimeout), (·.infoTimeout)⟩,
  ⟨"info-max-retries", .word32, (·.transfer.infoMaxRetries), (·.infoMaxRetries)⟩,
  ⟨"info-retries-multiplier", .real, (·.transfer.infoRetriesMultiplier),
    (·.infoRetriesMultiplier)⟩,
  ⟨"info-retry-interval", .word64, (·.transfer.infoRetryInterval), (·.infoRetryInterval)⟩]

/-- The shared options are those whose key stands in both sections. -/
theorem SharedOption.keys_all : all.map (·.key) =
    (ChangeFeed.settings.map (·.key)).filter fun key => Scan.settings.any (·.key == key) := by
  decide +kernel

/-- The value that the flag of a shared option has, if it was passed. -/
def CommandLine.FlagTexts.value? (texts : FlagTexts) (o : SharedOption) : Option o.kind.Value :=
  (texts.lookup o.key).bind fun text => (flagValue o.kind text).toOption

/-- What a layer sets for a shared option in its change-feed section. -/
def Layer.feedValue? (l : Layer) (o : SharedOption) : Option o.kind.Value :=
  l.changeFeed.bind o.feed

/-- What a layer sets for a shared option in its scan section. -/
def Layer.scanValue? (l : Layer) (o : SharedOption) : Option o.kind.Value :=
  l.scan.bind o.scan

/-! ## Inheritance -/

/-- A missing scan section sets no shared option. -/
theorem SharedOption.scan_getD_unset {o : SharedOption} (ho : o ∈ all)
    (given : Option (Scan Given)) : o.scan (given.getD OptionGroup.unset) = given.bind o.scan := by
  cases given with
  | some g => rfl
  | none =>
    revert o
    simp only [all, List.forall_mem_cons]
    exact ⟨rfl, rfl, rfl, rfl, rfl, rfl, rfl, rfl, List.forall_mem_nil _⟩

/-- An inherited option has the value of the change-feed section, then that of the scan section,
then the built-in one. -/
theorem SharedOption.feed_settle_inherit {o : SharedOption} (ho : o ∈ all)
    (feed : ChangeFeed Given) (scan : Scan Given) (values : ChangeFeed Settled) :
    o.feed (OptionGroup.settle (feed.inherit scan) values) =
      ((o.feed feed).or (o.scan scan)).getD (o.feed values) := by
  revert o
  simp only [all, List.forall_mem_cons]
  exact ⟨rfl, rfl, rfl, rfl, rfl, rfl, rfl, rfl, List.forall_mem_nil _⟩

/-- A shared option of a change-feed backup. -/
theorem SharedOption.feed_ofLayer {o : SharedOption} (ho : o ∈ all) {d : Defaults} {l : Layer}
    {s : BackupService} (hfeed : l.changeFeed.isSome = true)
    (hs : BackupService.ofLayer d l = .ok s) :
    ∃ g, s.changeFeed = some g ∧
      o.feed g = ((l.feedValue? o).or (l.scanValue? o)).getD (o.feed d.changeFeed) := by
  obtain ⟨feed, hfeed⟩ := Option.isSome_iff_exists.1 hfeed
  obtain ⟨-, rfl⟩ := BackupService.ofLayer_of_changeFeed_eq_some hfeed hs
  refine ⟨_, rfl, ?_⟩
  rw [feed_settle_inherit ho, scan_getD_unset ho, Layer.feedValue?, hfeed]
  rfl

/-! ## Flags -/

section Flags

variable {i : Invocation} {texts : FlagTexts}

/-- Over a config file, a scan option has the value of its flag, then that of the file. -/
theorem CommandLine.Explained.scan_over (h : Explained i.op i.given texts) (hop : i.op = .backup)
    (file : Layer) (key : String) {s : Setting Scan}
    (hs : Scan.settings.find? (·.key == key) = some s) :
    (i.over file).scan.bind s.get =
      ((texts.text? .backup .scan s).bind fun text => (flagValue s.kind text).toOption).or
        (file.scan.bind s.get) := by
  have hmem : s ∈ Section.scan.settings := List.mem_of_find?_eq_some hs
  have hvalue := h.value?_over file hmem
  rw [h.get_eq hmem, hop] at hvalue
  exact hvalue

/-- Over a config file, a change-feed option without a flag has the value of the file. -/
theorem CommandLine.Explained.feed_over (h : Explained i.op i.given texts) (file : Layer)
    (key : String) {s : Setting ChangeFeed}
    (hs : ChangeFeed.settings.find? (·.key == key) = some s) (hflag : s.flag = none) :
    (i.over file).changeFeed.bind s.get = file.changeFeed.bind s.get := by
  have hmem : s ∈ Section.changeFeed.settings := List.mem_of_find?_eq_some hs
  have htext : texts.text? i.op .changeFeed s = none := by
    rw [FlagTexts.text?, Section.flag?, hflag, Option.filter_none, ite_self, Option.bind_none]
  have hvalue := h.value?_over file hmem
  rw [h.get_of_text?_eq_none hmem htext, Option.none_or] at hvalue
  exact hvalue

/-- The flag of a shared option reaches the scan section and not the change-feed section. -/
theorem SharedOption.over {o : SharedOption} (ho : o ∈ all) (h : Explained i.op i.given texts)
    (hop : i.op = .backup) (file : Layer) :
    (i.over file).scanValue? o = (texts.value? o).or (file.scanValue? o) ∧
      (i.over file).feedValue? o = file.feedValue? o := by
  have hscan (key : String) {s : Setting Scan}
      (hs : Scan.settings.find? (·.key == key) = some s) := h.scan_over hop file key hs
  have hfeed (key : String) {s : Setting ChangeFeed}
      (hs : ChangeFeed.settings.find? (·.key == key) = some s) := h.feed_over file key hs
  -- either group lists the option under its key, and only the scan option has a flag
  revert o
  simp only [all, List.forall_mem_cons]
  refine ⟨⟨(hscan "namespace" rfl :), (hfeed "namespace" rfl rfl :)⟩,
    ⟨(hscan "directory" rfl :), (hfeed "directory" rfl rfl :)⟩,
    ⟨(hscan "file-limit" rfl :), (hfeed "file-limit" rfl rfl :)⟩,
    ⟨(hscan "remove-files" rfl :), (hfeed "remove-files" rfl rfl :)⟩,
    ⟨(hscan "info-timeout" rfl :), (hfeed "info-timeout" rfl rfl :)⟩,
    ⟨(hscan "info-max-retries" rfl :), (hfeed "info-max-retries" rfl rfl :)⟩,
    ⟨(hscan "info-retries-multiplier" rfl :), (hfeed "info-retries-multiplier" rfl rfl :)⟩,
    ⟨(hscan "info-retry-interval" rfl :), (hfeed "info-retry-interval" rfl rfl :)⟩,
    List.forall_mem_nil _⟩

/-- The text of a flag that was passed stands for a value. -/
theorem CommandLine.Explained.isSome_value (h : Explained i.op i.given texts) (hop : i.op = .backup)
    (key : String) {s : Setting Scan} (hs : Scan.settings.find? (·.key == key) = some s) :
    ((texts.text? .backup .scan s).bind fun text => (flagValue s.kind text).toOption).isSome =
      (texts.text? .backup .scan s).isSome := by
  have hmem : s ∈ Section.scan.settings := List.mem_of_find?_eq_some hs
  have hget := h.isSome_get hmem
  rw [h.get_eq hmem, hop] at hget
  exact hget

/-- A shared option has a value from the command line just if its flag was passed. -/
theorem SharedOption.isSome_value? {o : SharedOption} (ho : o ∈ all)
    (h : Explained i.op i.given texts) (hop : i.op = .backup) :
    (texts.value? o).isSome = texts.isPassed o.key := by
  have hvalue (key : String) {s : Setting Scan}
      (hs : Scan.settings.find? (·.key == key) = some s) := h.isSome_value hop key hs
  revert o
  simp only [all, List.forall_mem_cons]
  exact ⟨(hvalue "namespace" rfl :), (hvalue "directory" rfl :), (hvalue "file-limit" rfl :),
    (hvalue "remove-files" rfl :), (hvalue "info-timeout" rfl :),
    (hvalue "info-max-retries" rfl :), (hvalue "info-retries-multiplier" rfl :),
    (hvalue "info-retry-interval" rfl :), List.forall_mem_nil _⟩

end Flags

/-! ## Precedence -/

/-- The first of three sources to set an option decides it, unless it is the built-in value. -/
def firstOf {α : Type} (first second third : Option α) (builtIn : α) : α :=
  ((first.or second).or third).getD builtIn

/-- Whether the first or the second source is heard first matters just where both set an option
and disagree. -/
theorem firstOf_comm_iff {α : Type} (first second third : Option α) (builtIn : α) :
    firstOf first second third builtIn = firstOf second first third builtIn ↔
      ∀ v w, first = some v → second = some w → v = w := by
  unfold firstOf
  cases first with
  | none => simp
  | some v =>
    cases second with
    | none => simp
    | some w => simp

/-- In a change-feed backup, the change-feed section of the config file decides a shared option
before its flag does.  The flag decides first, as it does in every other section, just where the
file does not set the option to another value. -/
theorem sharedOption_precedence {args : List String} {i : Invocation} {d : Defaults} {file : Layer}
    {s : BackupService} (hargs : Invocation.ofArguments args = .ok i) (hop : i.op = .backup)
    (hfeed : (i.over file).changeFeed.isSome = true)
    (hs : BackupService.ofLayer d (i.over file) = .ok s) :
    ∃ texts g, Invocation.flagTexts args = .ok (.backup, texts) ∧ s.changeFeed = some g ∧
      ∀ o ∈ SharedOption.all,
        (texts.value? o).isSome = texts.isPassed o.key ∧
        o.feed g = firstOf (file.feedValue? o) (texts.value? o) (file.scanValue? o)
          (o.feed d.changeFeed) ∧
        (o.feed g = firstOf (texts.value? o) (file.feedValue? o) (file.scanValue? o)
            (o.feed d.changeFeed) ↔
          ∀ v w, file.feedValue? o = some v → texts.value? o = some w → v = w) := by
  obtain ⟨texts, htexts, h⟩ := CommandLine.explained_ofArguments hargs
  have hgroup : ∃ g, s.changeFeed = some g := by
    rw [← Option.isSome_iff_exists]
    obtain ⟨feed, hfeed⟩ := Option.isSome_iff_exists.1 hfeed
    obtain ⟨-, rfl⟩ := BackupService.ofLayer_of_changeFeed_eq_some hfeed hs
    rfl
  obtain ⟨g, hg⟩ := hgroup
  rw [hop] at htexts
  refine ⟨texts, g, htexts, hg, ?_⟩
  intro o ho
  have hvalue : o.feed g = firstOf (file.feedValue? o) (texts.value? o) (file.scanValue? o)
      (o.feed d.changeFeed) := by
    obtain ⟨g', hg', hget⟩ := SharedOption.feed_ofLayer ho hfeed hs
    obtain ⟨hscanValue, hfeedValue⟩ := SharedOption.over ho h hop file
    obtain rfl : g = g' := Option.some.inj (hg.symm.trans hg')
    rw [hget, hscanValue, hfeedValue, firstOf, Option.or_assoc]
  refine ⟨SharedOption.isSome_value? ho h hop, hvalue, ?_⟩
  rw [hvalue]
  exact firstOf_comm_iff _ _ _ _

/-- A config file whose change-feed section names a folder. -/
def folderFile : Layer :=
  { changeFeed := some { (OptionGroup.unset : ChangeFeed Given) with
      nameSpace := some "test"
      directory := some "/file" } }

/-- A command line that names another folder. -/
def folderArguments : List String := ["backup", "-d", "/flag"]

/-- The backup of a command line over a config file, if both are accepted. -/
def backupOf (args : List String) (file : Layer) : Option (Invocation × BackupService) :=
  (Invocation.ofArguments args).toOption.bind fun i =>
    (BackupService.ofLayer .builtIn (i.over file)).toOption.map fun s => (i, s)

/-- A backup of a command line over a config file comes of both. -/
theorem of_backupOf_eq_some {args : List String} {file : Layer} {i : Invocation}
    {s : BackupService} (h : backupOf args file = some (i, s)) :
    Invocation.ofArguments args = .ok i ∧ BackupService.ofLayer .builtIn (i.over file) = .ok s := by
  obtain ⟨j, hargs, h⟩ := Option.bind_eq_some_iff.1 h
  obtain ⟨t, ht, hpair⟩ := Option.map_eq_some_iff.1 h
  obtain ⟨rfl, rfl⟩ := Prod.mk.inj hpair
  exact ⟨toOption_eq_some_iff.1 hargs, toOption_eq_some_iff.1 ht⟩

/-- The folder of a change-feed backup is not that of the flag if the config file names another. -/
theorem flag_is_not_heard_over_changeFeed_section :
    Invocation.flagTexts folderArguments = .ok (.backup, [("directory", "/flag")]) ∧
      ((backupOf folderArguments folderFile).bind fun run => run.2.changeFeed.map (·.directory)) =
        some "/file" := by
  constructor <;> decide +kernel

/-- The folder that the config file names is the folder of the backup. -/
theorem sharedOption_precedence_of_folder :
    ∃ i s texts g, Invocation.ofArguments folderArguments = .ok i ∧ i.op = .backup ∧
      (i.over folderFile).changeFeed.isSome = true ∧
      BackupService.ofLayer .builtIn (i.over folderFile) = .ok s ∧
      Invocation.flagTexts folderArguments = .ok (.backup, texts) ∧ s.changeFeed = some g ∧
      ∀ o ∈ SharedOption.all, o.feed g = firstOf (folderFile.feedValue? o) (texts.value? o)
        (folderFile.scanValue? o) (o.feed Defaults.builtIn.changeFeed) := by
  have hrun : (backupOf folderArguments folderFile).any (fun run =>
      run.1.op == .backup && (run.1.over folderFile).changeFeed.isSome) = true := by
    decide +kernel
  obtain ⟨⟨i, s⟩, hbackup, hrun⟩ := (Option.any_eq_true ..).1 hrun
  obtain ⟨hargs, hs⟩ := of_backupOf_eq_some hbackup
  rw [Bool.and_eq_true, beq_iff_eq] at hrun
  obtain ⟨texts, g, htexts, hg, hshared⟩ :=
    sharedOption_precedence hargs hrun.1 hrun.2 hs
  exact ⟨i, s, texts, g, hargs, hrun.1, hrun.2, hs, htexts, hg,
    fun o ho => (hshared o ho).2.1⟩

end BackupControl
