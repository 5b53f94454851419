/-
# Racks to prefer and the buffer of the standard output

A job tells only that some racks are preferred, and only where neither racks nor nodes are listed.
Which racks they are and how large the buffer is, the engine never hears: scans that differ in
nothing else are accepted alike and have the same job.
-/
import BackupControl.Proofs.Service.Job
import BackupControl.Proofs.Text.Commas

namespace BackupControl

/-! ## Scans that differ in one option -/

namespace Scan

/-- The scan with other racks to prefer. -/
def preferring (racks : String) (g : Scan Settled) : Scan Settled := { g with preferRacks := racks }

/-- The scan with a buffer of another size. -/
def buffering (size : UInt64) (g : Scan Settled) : Scan Settled :=
  { g with transfer := { g.transfer with stdBufferSize := size } }

/-- No list of racks or nodes pins reads to the master copy. -/
def Unpinned (g : Scan Settled) : Prop := splitCommas g.rackList = [] ∧ splitCommas g.nodeList = []

variable (g : Scan Settled) (racks : String)

/-- The rules of a scan do not look at the racks to prefer. -/
theorem check_preferring : (g.preferring racks).check = g.check := rfl

/-- The rules of a scan do not look at the size of the buffer. -/
theorem check_buffering (size : UInt64) : (g.buffering size).check = g.check := rfl

/-- Other racks leave the copies that are read just if reads are pinned, or both or neither of the
old and the new racks are none. -/
theorem replica_preferring_eq_iff :
    g.replica = (g.preferring racks).replica ↔
      (g.Unpinned → (splitCommas g.preferRacks = [] ↔ splitCommas racks = [])) := by
  rw [Unpinned, splitCommas_eq_nil_iff, splitCommas_eq_nil_iff, splitCommas_eq_nil_iff,
    splitCommas_eq_nil_iff]
  have hreplica : (g.preferring racks).replica =
      if g.rackList ≠ "" ∨ g.nodeList ≠ "" then .master
      else if racks ≠ "" then .preferRack
      else .sequence := rfl
  rw [hreplica, replica]
  by_cases hpinned : g.rackList ≠ "" ∨ g.nodeList ≠ ""
  · rw [if_pos hpinned, if_pos hpinned]
    refine ⟨fun _ hunpinned => ?_, fun _ => rfl⟩
    exact absurd hpinned (by rw [hunpinned.1, hunpinned.2]; simp)
  · rw [if_neg hpinned, if_neg hpinned]
    have hunpinned : g.rackList = "" ∧ g.nodeList = "" := by
      simpa only [not_or, not_not] using hpinned
    rw [forall_prop_of_true hunpinned]
    by_cases hold : g.preferRacks = "" <;> by_cases hnew : racks = "" <;> simp [hold, hnew]

end Scan

/-! ## The job -/

/-- The config of a scan that reads other copies. -/
def ScanConfig.reading (replica : ReplicaPolicy) (c : ScanConfig) : ScanConfig :=
  { c with scanPolicy := { c.scanPolicy with replica := replica } }

/-- The job of a scan that reads other copies. -/
def BackupJob.reading (replica : ReplicaPolicy) (j : BackupJob) : BackupJob :=
  { j with scan := j.scan.reading replica }

/-- A job stays as it is just if the copies that are read do. -/
theorem BackupJob.eq_reading_iff {replica : ReplicaPolicy} {j : BackupJob} :
    j = j.reading replica ↔ j.scan.scanPolicy.replica = replica := by
  constructor
  · intro h
    exact congrArg (·.scan.scanPolicy.replica) h
  · rintro rfl
    rfl

/-- A scan with other racks to prefer is read with the same filter. -/
theorem Scan.scanPolicy_preferring (g : Scan Settled) (racks : String) :
    (g.preferring racks).scanPolicy =
      g.scanPolicy.map fun p => { p with replica := (g.preferring racks).replica } := by
  have hbytes : (g.preferring racks).filterBytes = g.filterBytes := rfl
  rw [scanPolicy, scanPolicy, hbytes]
  cases g.filterBytes with
  | error fault => rfl
  | ok bytes => rfl

/-- The policy of a scan tells which copies are read. -/
theorem Scan.replica_of_scanPolicy {g : Scan Settled} {p : ScanPolicy} (h : g.scanPolicy = .ok p) :
    p.replica = g.replica := by
  rw [scanPolicy, map_eq_ok_iff] at h
  obtain ⟨_, -, rfl⟩ := h
  rfl

namespace BackupService

variable (m : Machine)

/-- The config of a scan with other racks to prefer differs in the copies that are read only. -/
theorem scanConfig_preferring (i : Infrastructure) (g : Scan Settled) (racks : String) :
    scanConfig m i (g.preferring racks) =
      (scanConfig m i g).map (·.reading (g.preferring racks).replica) := by
  have hracks : (g.preferring racks).racks = g.racks := rfl
  have hfilters : (g.preferring racks).partitionFilters = g.partitionFilters := rfl
  have hbefore : (g.preferring racks).modifiedBefore = g.modifiedBefore := rfl
  have hafter : (g.preferring racks).modifiedAfter = g.modifiedAfter := rfl
  rw [scanConfig, scanConfig, hracks, hfilters, hbefore, hafter, g.scanPolicy_preferring racks]
  -- the literals are read in a row, and each of them may fail
  cases g.racks with
  | error fault => rfl
  | ok ids =>
    cases g.partitionFilters with
    | error failure => rfl
    | ok filters =>
      cases g.scanPolicy with
      | error fault => rfl
      | ok policy =>
        cases m.readTime? g.modifiedBefore with
        | error fault => rfl
        | ok before =>
          cases m.readTime? g.modifiedAfter with
          | error fault => rfl
          | ok after => rfl

/-- The backup with another scan. -/
def onScan (f : Scan Settled → Scan Settled) (s : BackupService) : BackupService :=
  { s with scan := s.scan.map f }

variable {s : BackupService} {g : Scan Settled} (hscan : s.scan = some g)

include hscan

/-- A scan with other options that passes the rules alike leaves the rules of the backup. -/
theorem check_onScan {f : Scan Settled → Scan Settled} (hcheck : (f g).check = g.check) :
    (s.onScan f).check = s.check := by
  obtain ⟨infrastructure, scan, changeFeed⟩ := s
  dsimp only at hscan
  subst hscan
  rw [check, check, onScan]
  simp only [Option.map_some, Option.isSome_some, checkOption, hcheck]

/-- The size of the buffer does not touch the job. -/
theorem job_buffering (size : UInt64) : (s.onScan (Scan.buffering size)).job m = s.job m := by
  obtain ⟨infrastructure, scan, changeFeed⟩ := s
  dsimp only at hscan
  subst hscan
  rfl

/-- The job with other racks to prefer differs in the copies that are read only. -/
theorem job_preferring (racks : String) :
    (s.onScan (Scan.preferring racks)).job m =
      (s.job m).map (·.reading (g.preferring racks).replica) := by
  obtain ⟨infrastructure, scan, changeFeed⟩ := s
  dsimp only at hscan
  subst hscan
  have hconfig := scanConfig_preferring m infrastructure g racks
  simp only [job, configs, onScan, Option.map_some, hconfig]
  cases scanConfig m infrastructure g with
  | error failure => rfl
  | ok c => rfl

/-- The copies that the job of a scan reads. -/
theorem replica_of_job {j : BackupJob} (h : s.job m = .ok j) :
    j.scan.scanPolicy.replica = g.replica := by
  have hfrom := ScanConfig.from_of_scanConfig (scanConfig_of_job hscan h)
  exact Scan.replica_of_scanPolicy hfrom.policy

/-! ## What the engine does not hear -/

/-- **What a job does not tell of a scan.**

* With a buffer of another size, a scan is accepted alike and has the same job.
* With other racks to prefer, a scan is accepted alike, and its job differs in the copies that are
  read only.  The two jobs are equal unless reads are not pinned and just one of the two lists of
  racks has none; so which racks are preferred makes no difference. -/
theorem preferred_racks_and_buffer_are_unheard :
    (∀ size, (s.onScan (Scan.buffering size)).check = s.check ∧
      (s.onScan (Scan.buffering size)).job m = s.job m) ∧
    ∀ racks, (s.onScan (Scan.preferring racks)).check = s.check ∧
      (s.onScan (Scan.preferring racks)).job m =
        (s.job m).map (·.reading (g.preferring racks).replica) ∧
      ∀ j j', s.job m = .ok j → (s.onScan (Scan.preferring racks)).job m = .ok j' →
        (j = j' ↔ (g.Unpinned → (splitCommas g.preferRacks = [] ↔ splitCommas racks = []))) := by
  refine ⟨fun size => ⟨check_onScan hscan (g.check_buffering size), job_buffering m hscan size⟩,
    fun racks => ?_⟩
  refine ⟨check_onScan hscan (g.check_preferring racks), job_preferring m hscan racks,
    fun j j' hjob hjob' => ?_⟩
  rw [job_preferring m hscan, hjob] at hjob'
  obtain rfl := Except.ok.inj hjob'
  rw [BackupJob.eq_reading_iff, replica_of_job m hscan hjob]
  exact g.replica_preferring_eq_iff racks

omit hscan

/-- A scan into a folder or a file, with racks to prefer and a buffer. -/
def tunedService (directory outputFile racks : String) (size : UInt64) : BackupService where
  infrastructure := .ofLayer .builtIn .empty
  scan := some { Defaults.builtIn.scan with
    transfer := { Defaults.builtIn.scan.transfer with
      nameSpace := "test"
      directory := directory
      stdBufferSize := size }
    outputFile := outputFile
    preferRacks := racks }
  changeFeed := none

/-- The job of a scan that prefers a rack is that of one that prefers another, and not that of one
that prefers none. -/
theorem preferred_racks_and_buffer_are_unheard_of_rack :
    ∃ j j', (tunedService "/b" "" "1" 4).job smallMachine = .ok j ∧
      (tunedService "/b" "" "2" 4).job smallMachine = .ok j ∧
      (tunedService "/b" "" "" 4).job smallMachine = .ok j' ∧ j ≠ j' := by
  obtain ⟨-, hpreferring⟩ :=
    preferred_racks_and_buffer_are_unheard smallMachine (s := tunedService "/b" "" "1" 4) rfl
  obtain ⟨-, -, hsame⟩ := hpreferring "2"
  obtain ⟨-, -, hother⟩ := hpreferring ""
  have hjob : ∀ racks ∈ ["1", "2", ""],
      ((tunedService "/b" "" racks 4).job smallMachine).toOption.isSome = true := by
    decide +kernel
  have hone := Option.isSome_iff_exists.1 (hjob "1" (by decide))
  have htwo := Option.isSome_iff_exists.1 (hjob "2" (by decide))
  have hnone := Option.isSome_iff_exists.1 (hjob "" (by decide))
  simp only [toOption_eq_some_iff] at hone htwo hnone
  obtain ⟨j, hj⟩ := hone
  obtain ⟨k, hk⟩ := htwo
  obtain ⟨j', hj'⟩ := hnone
  obtain rfl : j = k := (hsame j k hj hk).2 fun _ => by decide
  refine ⟨j, j', hj, hk, hj', fun h => ?_⟩
  exact absurd ((hother j j' hj hj').1 h ⟨rfl, rfl⟩) (by decide)

/-- Scans that prefer different racks, and scans with different buffers for the standard output,
are accepted and have the same job. -/
theorem other_racks_and_other_buffer_have_the_same_job :
    (splitCommas "1" = ["1"] ∧ splitCommas "2" = ["2"] ∧
      (tunedService "/b" "" "1" 4).check = .ok () ∧ (tunedService "/b" "" "2" 4).check = .ok () ∧
      ∃ j, (tunedService "/b" "" "1" 4).job smallMachine = .ok j ∧
        (tunedService "/b" "" "2" 4).job smallMachine = .ok j) ∧
    ((tunedService "" outputMark "" 4).check = .ok () ∧
      (tunedService "" outputMark "" 8).check = .ok () ∧
      ∃ j, j.writesToOutput = true ∧ (tunedService "" outputMark "" 4).job smallMachine = .ok j ∧
        (tunedService "" outputMark "" 8).job smallMachine = .ok j) := by
  refine ⟨⟨by decide, by decide, rfl, rfl, ?_⟩, rfl, rfl, ?_⟩
  · have hrun : ((tunedService "/b" "" "1" 4).job smallMachine).toOption.any
        (·.scan.scanPolicy.replica = .preferRack) = true := by
      decide +kernel
    obtain ⟨j, hjob, hreplica⟩ := (Option.any_eq_true ..).1 hrun
    have hjob := toOption_eq_some_iff.1 hjob
    refine ⟨j, hjob, ?_⟩
    have hother := job_preferring smallMachine (s := tunedService "/b" "" "1" 4) rfl "2"
    rw [hjob] at hother
    refine hother.trans (congrArg Except.ok ?_)
    exact (BackupJob.eq_reading_iff.2 (of_decide_eq_true hreplica)).symm
  · have hrun : ((tunedService "" outputMark "" 4).job smallMachine).toOption.any
        (·.writesToOutput) = true := by
      decide +kernel
    obtain ⟨j, hjob, houtput⟩ := (Option.any_eq_true ..).1 hrun
    have hjob := toOption_eq_some_iff.1 hjob
    have hother := job_buffering smallMachine (s := tunedService "" outputMark "" 4) rfl 8
    exact ⟨j, houtput, hjob, hother.trans hjob⟩

end BackupService

end BackupControl
