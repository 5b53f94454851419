/-
# The constraints of a scan, in order

A scan backup has one output, at most one filter of partitions, nodes or racks, and a few
options that exclude each other.  The constraints are listed in a fixed order; a scan is accepted
just if it meets all of them, and is refused with the violation of the first that it breaks.

Main statement: `check_decides_documented`.
-/
import BackupControl.Proofs.Rules.FilePrefix
import BackupControl.Proofs.Rules.Restore

namespace BackupControl

/-! ## Namespaces -/

/-- A text has one or two items, none of them empty. -/
def NamesOneOrTwo (s : String) : Prop :=
  ((splitCommas s).length = 1 ∨ (splitCommas s).length = 2) ∧ ∀ item ∈ splitCommas s, item ≠ ""

/-- The texts that name one or two namespaces are those of one or two items. -/
theorem isSome_namespacePair?_iff_items {s : String} :
    (namespacePair? s).isSome = true ↔ NamesOneOrTwo s := by
  rw [Option.isSome_iff_exists, Prod.exists]
  simp only [namespacePair?_eq_some_iff]
  constructor
  · rintro ⟨source, destination, hsource, hdestination, hitems | ⟨hitems, -⟩⟩
    · rw [NamesOneOrTwo, hitems]
      exact ⟨.inr rfl, by simp [hsource, hdestination]⟩
    · rw [NamesOneOrTwo, hitems]
      exact ⟨.inl rfl, by simp [hsource]⟩
  · rintro ⟨hone | htwo, hitems⟩
    · obtain ⟨item, hsplit⟩ := List.length_eq_one_iff.1 hone
      rw [hsplit] at hitems
      have hitem : item ≠ "" := hitems item List.mem_cons_self
      exact ⟨item, item, hitem, hitem, .inr ⟨hsplit, rfl⟩⟩
    · obtain ⟨source, destination, hsplit⟩ := List.length_eq_two.1 htwo
      rw [hsplit] at hitems
      exact ⟨source, destination, hitems _ List.mem_cons_self,
        hitems _ (List.mem_cons_of_mem _ List.mem_cons_self), .inl hsplit⟩

namespace Scan

/-! ## Constraints -/

/-- What the options of a scan must meet. -/
inductive Constraint where
  /-- There is an estimate, an output file or a folder. -/
  | someOutput
  /-- There is no output file beside a folder. -/
  | oneOutput
  /-- File names may begin with the prefix. -/
  | safePrefix
  /-- There is no prefix for an output file. -/
  | folderPrefix
  /-- One filter of places at most is set. -/
  | onePlaceFilter
  /-- A scan that resumes saves to the state file it resumes from. -/
  | oneStateFile
  /-- A scan that resumes keeps the files that are there. -/
  | keptFiles
  /-- The number of records is capped for a single worker only. -/
  | cappedWorker
  /-- An estimate covers every record. -/
  | wholeEstimate
  /-- An estimate is written nowhere. -/
  | unwrittenEstimate
  /-- The number of samples is not negative in an estimate. -/
  | someSamples
  /-- A namespace is given. -/
  | givenNamespace
  /-- One or two namespaces are named. -/
  | namedNamespaces
  /-- A worker runs. -/
  | someWorker

namespace Constraint

/-- The constraints in the order in which they are documented. -/
def all : List Constraint := [
  someOutput, oneOutput, safePrefix, folderPrefix, onePlaceFilter, oneStateFile, keptFiles,
  cappedWorker, wholeEstimate, unwrittenEstimate, someSamples, givenNamespace, namedNamespaces,
  someWorker]

end Constraint

variable (g : Scan Settled)

/-- No option of the scan keeps back records. -/
structure CoversAll : Prop where
  afterDigest : g.afterDigest = ""
  partitionList : g.partitionList = ""
  nodeList : g.nodeList = ""
  rackList : g.rackList = ""
  filterExpression : g.filterExpression = ""
  modifiedBefore : g.modifiedBefore = ""
  modifiedAfter : g.modifiedAfter = ""
  noTtlOnly : g.noTtlOnly = false

/-- How many filters of places are set. -/
def placeFilterCount : Nat :=
  [g.afterDigest, g.partitionList, g.nodeList, g.rackList].countP (· ≠ "")

/-- The scan meets a constraint. -/
def Meets : Constraint → Prop
  | .someOutput => g.estimate = true ∨ g.outputFile ≠ "" ∨ g.transfer.directory ≠ ""
  | .oneOutput => g.transfer.directory = "" ∨ g.outputFile = ""
  | .safePrefix => SafePrefix g.outputFilePrefix
  | .folderPrefix => g.outputFile = "" ∨ g.outputFilePrefix = ""
  | .onePlaceFilter => g.placeFilterCount ≤ 1
  | .oneStateFile => g.continueFrom = "" ∨ g.stateFileDst = ""
  | .keptFiles => g.continueFrom = "" ∨ g.removeFiles = false
  | .cappedWorker => g.maxRecords = 0 ∨ g.transfer.parallel = 1
  | .wholeEstimate => g.estimate = true → g.CoversAll
  | .unwrittenEstimate => g.estimate = true → g.outputFile = "" ∧ g.transfer.directory = ""
  | .someSamples => g.estimate = true → 0 ≤ g.estimateSamples
  | .givenNamespace => g.transfer.nameSpace ≠ ""
  | .namedNamespaces => NamesOneOrTwo g.transfer.nameSpace
  | .someWorker => 1 ≤ g.transfer.parallel

/-- The violation that is reported of a constraint which the scan does not meet. -/
def Reports : Constraint → Violation → Prop
  | .someOutput, v => v = .missingOutputTarget
  | .oneOutput, v => v = .outputFileWithDirectory
  | .safePrefix, v =>
    ∃ fault, checkFilePrefix g.outputFilePrefix = .error fault ∧ v = .filePrefix fault
  | .folderPrefix, v => v = .filePrefixWithOutputFile
  | .onePlaceFilter, v => v = .multipleFilters g.setPlaceFilters
  | .oneStateFile, v => v = .continueWithStateFile
  | .keptFiles, v => v = .continueWithRemoveFiles
  | .cappedWorker, v => v = .maxRecordsWithParallel
  | .wholeEstimate, v => v = .estimateWithFilter
  | .unwrittenEstimate, v => v = .estimateWithOutput
  | .someSamples, v => v = .negativeEstimateSamples
  | .givenNamespace, v => v = .required "namespace"
  | .namedNamespaces, v => v = .badNamespace g.transfer.nameSpace
  | .someWorker, v => v = .tooSmall "parallel" 1

/-- The check of a constraint alone. -/
def checkConstraint : Constraint → Check
  | .someOutput => refuseIf (g.estimate = false ∧ g.outputFile = "" ∧ g.transfer.directory = "")
    .missingOutputTarget
  | .oneOutput => refuseIf (g.transfer.directory ≠ "" ∧ g.outputFile ≠ "") .outputFileWithDirectory
  | .safePrefix => (checkFilePrefix g.outputFilePrefix).mapError .filePrefix
  | .folderPrefix =>
    refuseIf (g.outputFile ≠ "" ∧ g.outputFilePrefix ≠ "") .filePrefixWithOutputFile
  | .onePlaceFilter =>
    refuseIf (1 < g.setPlaceFilters.length) (.multipleFilters g.setPlaceFilters)
  | .oneStateFile => refuseIf (g.continueFrom ≠ "" ∧ g.stateFileDst ≠ "") .continueWithStateFile
  | .keptFiles =>
    refuseIf (g.continueFrom ≠ "" ∧ g.removeFiles = true) .continueWithRemoveFiles
  | .cappedWorker =>
    refuseIf (g.maxRecords ≠ 0 ∧ g.transfer.parallel ≠ 1) .maxRecordsWithParallel
  | .wholeEstimate =>
    if g.estimate then refuseIf (g.keepsBackRecords = true) .estimateWithFilter else pure ()
  | .unwrittenEstimate =>
    if g.estimate then
      refuseIf (g.outputFile ≠ "" ∨ g.transfer.directory ≠ "") .estimateWithOutput
    else pure ()
  | .someSamples =>
    if g.estimate then refuseIf (g.estimateSamples < 0) .negativeEstimateSamples else pure ()
  | .givenNamespace => refuseIf (g.transfer.nameSpace = "") (.required "namespace")
  | .namedNamespaces =>
    refuseIf (namespacePair? g.transfer.nameSpace = none) (.badNamespace g.transfer.nameSpace)
  | .someWorker => refuseIf (g.transfer.parallel < 1) (.tooSmall "parallel" 1)

/-- The rules of a scan are the checks of its constraints, one after another. -/
theorem check_eq_forM : g.check = forM Constraint.all g.checkConstraint := by
  have hpure : ∀ c : Check, (c >>= fun _ => pure ()) = c := fun c => bind_pure c
  simp only [Constraint.all, List.forM_cons, List.forM_nil, checkConstraint, hpure]
  rw [check]
  -- The constraints of an estimate pass by themselves where there is none.
  cases g.estimate with
  | false => rfl
  | true => simp only [if_true, checkEstimate, Transfer.check, bind_assoc]

/-! ## One constraint -/

variable {g}

/-- Nothing is kept back just if each of the options that do is left out. -/
theorem keepsBackRecords_eq_false_iff : g.keepsBackRecords = false ↔ g.CoversAll := by
  simp only [keepsBackRecords, Bool.or_eq_false_iff, List.any_cons, List.any_nil,
    bne_eq_false_iff_eq]
  constructor
  · rintro ⟨⟨hlist, hnodes, hdigest, hracks, hexpression, hafter, hbefore, -⟩, hexpiring⟩
    exact ⟨hdigest, hlist, hnodes, hracks, hexpression, hbefore, hafter, hexpiring⟩
  · rintro ⟨hdigest, hlist, hnodes, hracks, hexpression, hbefore, hafter, hexpiring⟩
    exact ⟨⟨hlist, hnodes, hdigest, hracks, hexpression, hafter, hbefore, trivial⟩, hexpiring⟩

/-- As many names are listed as filters of places are set. -/
theorem length_setPlaceFilters : g.setPlaceFilters.length = g.placeFilterCount := by
  have hvalues : [g.afterDigest, g.partitionList, g.nodeList, g.rackList] =
      g.placeFilters.map (·.2) := rfl
  rw [setPlaceFilters, List.length_map, placeFilterCount, hvalues, List.countP_map,
    List.countP_eq_length_filter]
  congr 1
  apply List.filter_congr
  intro option _
  exact (decide_not ..).symm

/-- The check of a constraint passes just if the scan meets it. -/
theorem checkConstraint_eq_ok_iff {c : Constraint} :
    g.checkConstraint c = .ok () ↔ g.Meets c := by
  cases c with
  | safePrefix => exact mapError_eq_ok_iff.trans checkFilePrefix_eq_ok_iff
  | onePlaceFilter =>
    rw [checkConstraint, refuseIf_eq_ok_iff, Nat.not_lt, length_setPlaceFilters]
    rfl
  | wholeEstimate =>
    rw [checkConstraint, ite_pure_eq_ok_iff, refuseIf_eq_ok_iff, Bool.not_eq_true,
      keepsBackRecords_eq_false_iff]
    rfl
  | namedNamespaces =>
    rw [checkConstraint, refuseIf_eq_ok_iff, Meets, ← isSome_namespacePair?_iff_items,
      Option.isSome_iff_ne_none]
  | _ =>
    simp only [checkConstraint, Meets, refuseIf_eq_ok_iff, ite_pure_eq_ok_iff, not_and_or, not_or,
      ne_eq, Classical.not_not, Bool.not_eq_true, Bool.not_eq_false, Int64.not_lt, UInt64.not_lt]

/-- A check that fails reports its constraint. -/
theorem reports_of_checkConstraint {c : Constraint} {v : Violation}
    (h : g.checkConstraint c = .error v) : g.Reports c v := by
  cases c with
  | safePrefix =>
    obtain ⟨fault, hfault, hv⟩ := mapError_eq_error_iff.1 h
    exact ⟨fault, hfault, hv.symm⟩
  | wholeEstimate | unwrittenEstimate | someSamples =>
    exact (refuseIf_eq_error_iff.1 (ite_pure_eq_error_iff.1 h).2).2.symm
  | _ => exact (refuseIf_eq_error_iff.1 h).2.symm

/-- Of each constraint one violation is reported. -/
theorem Reports.unique {c : Constraint} {v w : Violation} (h : g.Reports c v)
    (h' : g.Reports c w) : v = w := by
  cases c with
  | safePrefix =>
    obtain ⟨fault, hfault, rfl⟩ := h
    obtain ⟨fault', hfault', rfl⟩ := h'
    rw [Except.error.inj (hfault.symm.trans hfault')]
  | _ => exact Eq.trans h (Eq.symm h')

/-- The check of a constraint fails just if the scan does not meet it, with its violation. -/
theorem checkConstraint_eq_error_iff {c : Constraint} {v : Violation} :
    g.checkConstraint c = .error v ↔ ¬ g.Meets c ∧ g.Reports c v := by
  rw [← checkConstraint_eq_ok_iff]
  cases hcheck : g.checkConstraint c with
  | ok u => exact ⟨nofun, fun h => absurd rfl h.1⟩
  | error w =>
    have hw := reports_of_checkConstraint hcheck
    constructor
    · intro h
      obtain rfl := Except.error.inj h
      exact ⟨nofun, hw⟩
    · rintro ⟨-, hv⟩
      rw [hw.unique hv]

/-! ## All constraints -/

variable (g)

/-- The first constraint in order that the scan does not meet. -/
def FirstBroken (c : Constraint) : Prop :=
  ∃ front back, Constraint.all = front ++ c :: back ∧ (∀ earlier ∈ front, g.Meets earlier) ∧
    ¬ g.Meets c

/-- The names are those of the filters of places that are set, in the order of declaration. -/
structure ListsSetFilters (names : List String) : Prop where
  inOrder : names.Sublist ["after-digest", "partition-list", "node-list", "rack-list"]
  afterDigest : "after-digest" ∈ names ↔ g.afterDigest ≠ ""
  partitionList : "partition-list" ∈ names ↔ g.partitionList ≠ ""
  nodeList : "node-list" ∈ names ↔ g.nodeList ≠ ""
  rackList : "rack-list" ∈ names ↔ g.rackList ≠ ""

/-- The options of a scan that are documented as acceptable. -/
structure Documented : Prop where
  output : [g.estimate, decide (g.outputFile ≠ ""), decide (g.transfer.directory ≠ "")].count true = 1
  safePrefix : SafePrefix g.outputFilePrefix
  folderPrefix : ¬ (g.outputFilePrefix ≠ "" ∧ g.outputFile ≠ "")
  onePlaceFilter : g.placeFilterCount ≤ 1
  resumed : g.continueFrom ≠ "" → g.stateFileDst = "" ∧ g.removeFiles = false
  capped : g.maxRecords = 0 ∨ g.transfer.parallel = 1
  estimated : g.estimate = true → g.CoversAll ∧ 0 ≤ g.estimateSamples
  nameSpace : NamesOneOrTwo g.transfer.nameSpace
  workers : 1 ≤ g.transfer.parallel

/-- The names that a refusal lists are those of the filters that are set. -/
theorem listsSetFilters_setPlaceFilters : g.ListsSetFilters g.setPlaceFilters where
  inOrder := by
    show ((g.placeFilters.filter (·.2 != "")).map (·.1)).Sublist (g.placeFilters.map (·.1))
    exact List.filter_sublist.map _
  afterDigest := by simp [setPlaceFilters, placeFilters]
  partitionList := by simp [setPlaceFilters, placeFilters]
  nodeList := by simp [setPlaceFilters, placeFilters]
  rackList := by simp [setPlaceFilters, placeFilters]

/-- There is exactly one output just if there is one, and no two of them. -/
theorem count_outputs_eq_one_iff :
    [g.estimate, decide (g.outputFile ≠ ""), decide (g.transfer.directory ≠ "")].count true = 1 ↔
      g.Meets .someOutput ∧ g.Meets .oneOutput ∧ g.Meets .unwrittenEstimate := by
  simp only [Meets]
  by_cases hfile : g.outputFile = ""
  · by_cases hdirectory : g.transfer.directory = ""
    · cases hestimate : g.estimate <;> simp [hfile, hdirectory]
    · cases hestimate : g.estimate <;> simp [hfile, hdirectory]
  · by_cases hdirectory : g.transfer.directory = ""
    · cases hestimate : g.estimate <;> simp [hfile, hdirectory]
    · cases hestimate : g.estimate <;> simp [hfile, hdirectory]

/-- The documented options are those that meet every constraint. -/
theorem documented_iff : g.Documented ↔ ∀ c ∈ Constraint.all, g.Meets c := by
  have hgiven : NamesOneOrTwo g.transfer.nameSpace → g.transfer.nameSpace ≠ "" := by
    intro hnames hempty
    rw [NamesOneOrTwo, hempty] at hnames
    exact absurd hnames.1 (by decide)
  simp only [Constraint.all, List.forall_mem_cons, List.not_mem_nil, false_imp_iff, implies_true]
  constructor
  · intro h
    obtain ⟨hsome, hone, hunwritten⟩ := (count_outputs_eq_one_iff g).1 h.output
    refine ⟨hsome, hone, h.safePrefix, ?_, h.onePlaceFilter, ?_, ?_, h.capped,
      fun hestimate => (h.estimated hestimate).1, hunwritten,
      fun hestimate => (h.estimated hestimate).2, hgiven h.nameSpace, h.nameSpace, h.workers, trivial⟩
    · have hprefix := h.folderPrefix
      show g.outputFile = "" ∨ g.outputFilePrefix = ""
      tauto
    · have hresumed := h.resumed
      show g.continueFrom = "" ∨ g.stateFileDst = ""
      tauto
    · have hresumed := h.resumed
      show g.continueFrom = "" ∨ g.removeFiles = false
      tauto
  · rintro ⟨hsome, hone, hsafe, hprefix, hplaces, hstate, hfiles, hcapped, hwhole, hunwritten,
      hsamples, -, hnames, hworkers, -⟩
    exact {
      output := (count_outputs_eq_one_iff g).2 ⟨hsome, hone, hunwritten⟩
      safePrefix := hsafe
      folderPrefix := fun hboth => hprefix.elim hboth.2 hboth.1
      onePlaceFilter := hplaces
      resumed := fun hresumed => ⟨hstate.resolve_left hresumed, hfiles.resolve_left hresumed⟩
      capped := hcapped
      estimated := fun hestimate => ⟨hwhole hestimate, hsamples hestimate⟩
      nameSpace := hnames
      workers := hworkers }

/-- The rules of a scan accept the documented options.  Other options are refused with the
violation of the first constraint that they break, and the names in a refusal of several filters
of places are those of the filters that are set. -/
theorem check_decides_documented :
    (g.check = .ok () ↔ g.Documented) ∧
      (∀ v, g.check = .error v ↔ ∃ c, g.FirstBroken c ∧ g.Reports c v) ∧
      g.ListsSetFilters g.setPlaceFilters := by
  refine ⟨?_, fun v => ?_, g.listsSetFilters_setPlaceFilters⟩
  · rw [check_eq_forM, forM_check_eq_ok_iff, documented_iff]
    simp only [checkConstraint_eq_ok_iff]
  · rw [check_eq_forM, forM_check_eq_error_iff]
    simp only [checkConstraint_eq_ok_iff, checkConstraint_eq_error_iff]
    constructor
    · rintro ⟨front, c, back, hall, hfront, hbroken, hreports⟩
      exact ⟨c, ⟨front, back, hall, hfront, hbroken⟩, hreports⟩
    · rintro ⟨c, ⟨front, back, hall, hfront, hbroken⟩, hreports⟩
      exact ⟨front, c, back, hall, hfront, hbroken, hreports⟩

end Scan

end BackupControl
