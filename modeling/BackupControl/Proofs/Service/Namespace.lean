/-
# The namespace of a backup

Which namespace a backup addresses, and which texts are taken for it.  A scan shares its rule
with a restore, so it takes a source and a destination with a comma between, and a change feed
takes any text; either hands the text on as it is.
-/
import BackupControl.Proofs.Rules.Restore
import BackupControl.Proofs.Service.Job
import BackupControl.Proofs.Service.Sections
import BackupControl.Proofs.Text.Commas

namespace BackupControl

/-! ## Texts of the option -/

/-- A text names one namespace. -/
def NamesOne (s : String) : Prop := s ≠ "" ∧ ',' ∉ s.toList

/-- A text names two namespaces, with a comma between. -/
def NamesTwo (s : String) : Prop :=
  ∃ source destination, NamesOne source ∧ NamesOne destination ∧
    s = source ++ "," ++ destination

/-- A text has a pair of namespaces just if it names one or two. -/
theorem isSome_namespacePair?_iff (s : String) :
    (namespacePair? s).isSome = true ↔ NamesOne s ∨ NamesTwo s := by
  rw [Option.isSome_iff_exists, Prod.exists]
  simp only [namespacePair?_eq_some_iff]
  constructor
  · rintro ⟨source, destination, hsource, hdestination, hitems | ⟨hitems, -⟩⟩
    · obtain ⟨hcomma, hcomma', hs⟩ := splitCommas_eq_pair_iff.1 hitems
      exact .inr ⟨source, destination, ⟨hsource, hcomma⟩, ⟨hdestination, hcomma'⟩, hs⟩
    · obtain ⟨hs, hcomma, -⟩ := splitCommas_eq_singleton_iff.1 hitems
      exact .inl ⟨hs, hcomma⟩
  · rintro (⟨hs, hcomma⟩ | ⟨source, destination, hsource, hdestination, hs⟩)
    · have hitems : splitCommas s = [s] := splitCommas_eq_singleton_iff.2 ⟨hs, hcomma, rfl⟩
      exact ⟨s, s, hs, hs, .inr ⟨hitems, rfl⟩⟩
    · have hitems : splitCommas s = [source, destination] :=
        splitCommas_eq_pair_iff.2 ⟨hsource.2, hdestination.2, hs⟩
      exact ⟨source, destination, hsource.1, hdestination.1, .inl hitems⟩

/-- A text of two namespaces has a comma. -/
theorem NamesTwo.mem {s : String} (h : NamesTwo s) : ',' ∈ s.toList := by
  obtain ⟨source, destination, -, -, rfl⟩ := h
  simp only [String.toList_append, List.mem_append]
  exact .inl (.inr (List.mem_singleton.2 rfl))

/-! ## Another namespace -/

/-- The same scan of another namespace. -/
def Scan.addressing {F : Type → Type} (name : F String) (g : Scan F) : Scan F :=
  { g with transfer := { g.transfer with nameSpace := name } }

/-- The same change feed of another namespace. -/
def ChangeFeed.addressing {F : Type → Type} (name : F String) (g : ChangeFeed F) : ChangeFeed F :=
  { g with nameSpace := name }

/-- The rules of a scan ask of its namespace that it names one or two. -/
theorem Scan.check_addressing_iff {g : Scan Settled} (hcheck : g.check = .ok ()) (name : String) :
    (g.addressing name).check = .ok () ↔ NamesOne name ∨ NamesTwo name := by
  have hrules := (Scan.check_eq_ok_iff g).1 hcheck
  rw [Transfer.check_eq_ok_iff] at hrules
  rw [Scan.check_eq_ok_iff, Transfer.check_eq_ok_iff, ← isSome_namespacePair?_iff]
  constructor
  · rintro ⟨-, -, -, -, -, -, -, -, -, -, hpair, -⟩
    exact hpair
  · intro hpair
    have hname : name ≠ "" := by
      rintro rfl
      exact absurd hpair Bool.false_ne_true
    obtain ⟨houtput, hone, hprefix, hfile, hfilters, hstate, hclear, hmax, hestimate, -, -,
      hparallel⟩ := hrules
    exact ⟨houtput, hone, hprefix, hfile, hfilters, hstate, hclear, hmax, hestimate, hname, hpair,
      hparallel⟩

/-- The rules of a change feed ask of its namespace that it is not empty. -/
theorem ChangeFeed.check_addressing_iff {g : ChangeFeed Settled} (hcheck : g.check = .ok ())
    (name : String) : (g.addressing name).check = .ok () ↔ name ≠ "" := by
  have hrules := (ChangeFeed.check_eq_ok_iff g).1 hcheck
  rw [ChangeFeed.check_eq_ok_iff]
  exact ⟨(·.1), fun hname => ⟨hname, hrules.2⟩⟩

/-! ## Backups of a layer -/

namespace Layer

/-- The namespace that the backup of a layer addresses: a change feed takes it from its own
section first, then from the scan section, and a scan from the scan section. -/
def backupNamespace (d : Defaults) (l : Layer) : String :=
  let scan := l.scan.bind (·.transfer.nameSpace)
  match l.changeFeed with
  | some feed => (feed.nameSpace.or scan).getD d.changeFeed.nameSpace
  | none => scan.getD d.scan.transfer.nameSpace

/-- The same layer with another namespace to back up, in the section of its backup. -/
def addressing (name : String) (l : Layer) : Layer :=
  match l.changeFeed with
  | some feed => { l with changeFeed := some (feed.addressing (some name)) }
  | none => { l with scan := some ((l.scan.getD OptionGroup.unset).addressing (some name)) }

end Layer

namespace BackupService

variable {d : Defaults} {resolver : SecretResolver} {l : Layer} {m : Machine} {s : BackupService}
  {j : BackupJob}

/-- The scan of a layer has its namespace. -/
theorem nameSpace_settle_scan (h : l.changeFeed = none) (d : Defaults) :
    (settleSection l.scan d.scan).transfer.nameSpace = l.backupNamespace d := by
  rw [Layer.backupNamespace, h]
  cases l.scan <;> rfl

/-- The change feed of a layer has its namespace. -/
theorem nameSpace_settle_changeFeed {feed : ChangeFeed Given} (h : l.changeFeed = some feed)
    (d : Defaults) :
    (OptionGroup.settle (feed.inherit (l.scan.getD OptionGroup.unset)) d.changeFeed).nameSpace =
      l.backupNamespace d := by
  rw [Layer.backupNamespace, h]
  cases l.scan <;> rfl

/-- A scan that was loaded meets its rules under another namespace just if that names one or
two. -/
theorem exists_load_addressing_of_scan {name : String} (hfeed : l.changeFeed = none)
    (hload : (load d resolver l).result = .ok s) :
    (∃ t, (load d resolver (l.addressing name)).result = .ok t) ↔
      NamesOne name ∨ NamesTwo name := by
  obtain ⟨t, i, hlayer, hresolve, hcheck⟩ := exists_load_eq_ok_iff.1 ⟨s, hload⟩
  rw [ofLayer_of_changeFeed_eq_none hfeed] at hlayer
  obtain rfl := Except.ok.inj hlayer
  have hother : ofLayer d (l.addressing name) =
      .ok ⟨Infrastructure.ofLayer d l,
        some ((settleSection l.scan d.scan).addressing name), none⟩ := by
    simp only [Layer.addressing, hfeed, ofLayer]
    rfl
  obtain ⟨hkind, hcluster, hscan, hnone, hrest⟩ := (check_eq_ok_iff _).1 hcheck
  have hrules := Scan.check_addressing_iff (hscan _ rfl) name
  rw [exists_load_eq_ok_iff, ← hrules]
  constructor
  · rintro ⟨t, i', hlayer, -, hcheck⟩
    obtain rfl := Except.ok.inj (hother.symm.trans hlayer)
    exact ((check_eq_ok_iff _).1 hcheck).2.2.1 _ rfl
  · intro hcheck
    refine ⟨_, i, hother, hresolve, (check_eq_ok_iff _).2 ⟨hkind, hcluster, ?_, hnone, hrest⟩⟩
    rintro g hg
    obtain rfl := Option.some.inj hg
    exact hcheck

/-- A change feed that was loaded meets its rules under every other namespace that is not
empty. -/
theorem exists_load_addressing_of_changeFeed {name : String} (hfeed : l.changeFeed.isSome = true)
    (hload : (load d resolver l).result = .ok s) :
    (∃ t, (load d resolver (l.addressing name)).result = .ok t) ↔ name ≠ "" := by
  obtain ⟨feed, hfeed⟩ := Option.isSome_iff_exists.1 hfeed
  obtain ⟨t, i, hlayer, hresolve, hcheck⟩ := exists_load_eq_ok_iff.1 ⟨s, hload⟩
  obtain ⟨hscanOnly, rfl⟩ := ofLayer_of_changeFeed_eq_some hfeed hlayer
  have hother : ofLayer d (l.addressing name) =
      .ok ⟨Infrastructure.ofLayer d l, none,
        some ((OptionGroup.settle (feed.inherit (l.scan.getD OptionGroup.unset))
          d.changeFeed).addressing name)⟩ := by
    have hother : (l.addressing name).changeFeed = some (feed.addressing (some name)) := by
      rw [Layer.addressing, hfeed]
    have hscan : (l.addressing name).scan = l.scan := by
      rw [Layer.addressing, hfeed]
    rw [← hscan] at hscanOnly
    rw [ofLayer_of_scanOnly_eq_nil hother hscanOnly, hscan, Layer.addressing, hfeed]
    rfl
  obtain ⟨hkind, hcluster, hnone, hfeedRules, hrest⟩ := (check_eq_ok_iff _).1 hcheck
  have hrules := ChangeFeed.check_addressing_iff (hfeedRules _ rfl) name
  rw [exists_load_eq_ok_iff, ← hrules]
  constructor
  · rintro ⟨t, i', hlayer, -, hcheck⟩
    obtain rfl := Except.ok.inj (hother.symm.trans hlayer)
    exact ((check_eq_ok_iff _).1 hcheck).2.2.2.1 _ rfl
  · intro hcheck
    refine ⟨_, i, hother, hresolve, (check_eq_ok_iff _).2 ⟨hkind, hcluster, hnone, ?_, hrest⟩⟩
    rintro g hg
    obtain rfl := Option.some.inj hg
    exact hcheck

/-! ## Jobs -/

/-- The namespace that a job hands over is that of its layer, in a scan and along a change feed;
it is not empty, and in a scan it names one or two. -/
theorem nameSpace_of_job (hload : (load d resolver l).result = .ok s) (hjob : s.job m = .ok j) :
    j.scan.nameSpace = l.backupNamespace d ∧
      (∀ feed, j.changeFeed = some feed → feed.nameSpace = l.backupNamespace d) ∧
      l.backupNamespace d ≠ "" ∧
      (l.changeFeed = none →
        NamesOne (l.backupNamespace d) ∨ NamesTwo (l.backupNamespace d)) := by
  obtain ⟨t, hlayer, hcomplete⟩ := of_load_eq_ok hload
  obtain ⟨hscan, hchangeFeed, -, hcheck⟩ := of_complete_eq_ok hcomplete
  obtain ⟨-, -, hscanRules, hfeedRules, -⟩ := (check_eq_ok_iff s).1 hcheck
  cases hfeed : l.changeFeed with
  | none =>
    rw [ofLayer_of_changeFeed_eq_none hfeed] at hlayer
    obtain rfl := Except.ok.inj hlayer
    have hj := ofScan_of_job hscan hchangeFeed hjob
    have hrules := (Scan.check_eq_ok_iff _).1 (hscanRules _ hscan)
    rw [Transfer.check_eq_ok_iff, isSome_namespacePair?_iff, nameSpace_settle_scan hfeed]
      at hrules
    obtain ⟨-, -, -, -, -, -, -, -, -, hname, hpair, -⟩ := hrules
    rw [(ScanConfig.carries_of_scanConfig hj.scan).nameSpace, nameSpace_settle_scan hfeed,
      hj.changeFeed]
    exact ⟨rfl, fun _ hconfig => absurd hconfig nofun, hname, fun _ => hpair⟩
  | some feed =>
    obtain ⟨-, rfl⟩ := ofLayer_of_changeFeed_eq_some hfeed hlayer
    obtain ⟨k, hk, hj⟩ := job_of_changeFeed hscan hchangeFeed m
    obtain rfl := Except.ok.inj (hjob.symm.trans hk)
    have hname := ((ChangeFeed.check_eq_ok_iff _).1 (hfeedRules _ hchangeFeed)).1
    have hvalue := nameSpace_settle_changeFeed hfeed d
    rw [hvalue] at hname
    rw [hj.scan, hj.changeFeed]
    refine ⟨hvalue, ?_, hname, fun hnone => absurd hnone nofun⟩
    intro config hconfig
    obtain rfl := Option.some.inj hconfig
    exact hvalue

/-- **The namespace of a backup.**  The job of a loaded backup hands over the namespace of its
layer as it is.  Every place where it stands names one namespace just if the text has no comma:
the rules do not ask for that, for a scan that was loaded is accepted just as well under any text
that names one namespace or two, and a change feed under any text at all but the empty one. -/
theorem backup_namespace (hload : (load d resolver l).result = .ok s) :
    (∀ m j, s.job m = .ok j →
      j.scan.nameSpace = l.backupNamespace d ∧
      (∀ feed, j.changeFeed = some feed → feed.nameSpace = l.backupNamespace d) ∧
      ((NamesOne j.scan.nameSpace ∧ ∀ feed, j.changeFeed = some feed → NamesOne feed.nameSpace) ↔
        ',' ∉ (l.backupNamespace d).toList)) ∧
    ∀ name, (∃ t, (load d resolver (l.addressing name)).result = .ok t) ↔
      name ≠ "" ∧ (l.changeFeed = none → NamesOne name ∨ NamesTwo name) := by
  constructor
  · intro m j hjob
    obtain ⟨hscan, hfeed, hname, -⟩ := nameSpace_of_job hload hjob
    refine ⟨hscan, hfeed, ?_⟩
    rw [hscan]
    constructor
    · exact fun h => h.1.2
    · intro hcomma
      refine ⟨⟨hname, hcomma⟩, fun feed hconfig => ?_⟩
      rw [hfeed feed hconfig]
      exact ⟨hname, hcomma⟩
  · intro name
    cases hfeed : l.changeFeed with
    | none =>
      rw [exists_load_addressing_of_scan hfeed hload]
      constructor
      · refine fun h => ⟨?_, fun _ => h⟩
        rintro rfl
        rcases h with h | h
        · exact h.1 rfl
        · exact absurd h.mem List.not_mem_nil
      · exact fun h => h.2 rfl
    | some feed =>
      rw [exists_load_addressing_of_changeFeed (Option.isSome_of_eq_some hfeed) hload]
      exact ⟨fun h => ⟨h, nofun⟩, (·.1)⟩

/-- A scan of a namespace, into a folder. -/
def scanLayer (name : String) : Layer :=
  { scan := some { (OptionGroup.unset : Scan Given) with
      transfer := { (OptionGroup.unset : Transfer Given) with
        nameSpace := some name
        directory := some "/b" } } }

/-- A change feed of a namespace, into a folder. -/
def feedLayer (name : String) : Layer :=
  { changeFeed := some { (OptionGroup.unset : ChangeFeed Given) with
      nameSpace := some name
      directory := some "/b"
      dc := some "dc"
      localAddress := some "127.0.0.1" } }

/-- The namespace of a scan is handed over as it is, and any that names one or two is taken in its
place. -/
theorem backup_namespace_of_scan :
    ∃ s j, (load .builtIn silentResolver (scanLayer "test")).result = .ok s ∧
      s.job smallMachine = .ok j ∧ NamesOne j.scan.nameSpace ∧
      ∀ name,
        (∃ t, (load .builtIn silentResolver ((scanLayer "test").addressing name)).result = .ok t) ↔
          name ≠ "" ∧ ((scanLayer "test").changeFeed = none → NamesOne name ∨ NamesTwo name) := by
  have hrun : (accepted (scanLayer "test")).isSome = true := by
    decide +kernel
  obtain ⟨⟨s, j⟩, haccepted⟩ := Option.isSome_iff_exists.1 hrun
  obtain ⟨hload, hjob⟩ := of_accepted_eq_some haccepted
  obtain ⟨hnamespace, hother⟩ := backup_namespace hload
  obtain ⟨-, -, hone⟩ := hnamespace smallMachine j hjob
  exact ⟨s, j, hload, hjob, (hone.2 (by decide)).1, hother⟩

/-- Two namespaces are taken as one, in a scan and along a change feed. -/
theorem pair_of_namespaces_is_accepted :
    (∃ s j, (load .builtIn silentResolver (scanLayer "a,b")).result = .ok s ∧
      s.job smallMachine = .ok j ∧ j.scan.nameSpace = "a,b" ∧ ¬ NamesOne j.scan.nameSpace) ∧
    ∃ s j feed, (load .builtIn silentResolver (feedLayer "a,b")).result = .ok s ∧
      s.job smallMachine = .ok j ∧ j.changeFeed = some feed ∧ feed.nameSpace = "a,b" ∧
      ¬ NamesOne feed.nameSpace := by
  have hpair : ¬ NamesOne "a,b" := fun h => h.2 (by decide)
  constructor
  · have hrun : (accepted (scanLayer "a,b")).any (fun run =>
        run.2.scan.nameSpace == "a,b") = true := by
      decide +kernel
    obtain ⟨⟨s, j⟩, haccepted, hname⟩ := (Option.any_eq_true ..).1 hrun
    obtain ⟨hload, hjob⟩ := of_accepted_eq_some haccepted
    rw [beq_iff_eq] at hname
    exact ⟨s, j, hload, hjob, hname, hname ▸ hpair⟩
  · have hrun : (accepted (feedLayer "a,b")).any (fun run =>
        run.2.changeFeed.any (·.nameSpace == "a,b")) = true := by
      decide +kernel
    obtain ⟨⟨s, j⟩, haccepted, hname⟩ := (Option.any_eq_true ..).1 hrun
    obtain ⟨hload, hjob⟩ := of_accepted_eq_some haccepted
    obtain ⟨feed, hfeed, hname⟩ := (Option.any_eq_true ..).1 hname
    rw [beq_iff_eq] at hname
    exact ⟨s, j, feed, hload, hjob, hfeed, hname, hname ▸ hpair⟩

end BackupService

end BackupControl
