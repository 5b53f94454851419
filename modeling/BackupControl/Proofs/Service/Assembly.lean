/-
# Jobs fail on literals only

The rules of a backup look at few of its texts.  Five of them are read while a scan is put
together, one after another, and the first that cannot be read is the failure of the job.
Nothing else can fail once a backup was loaded.
-/
import BackupControl.Proofs.Calendar.TimeLiteral
import BackupControl.Proofs.Partition.Selection
import BackupControl.Proofs.Rules.Racks
import BackupControl.Proofs.Service.Coherence

namespace BackupControl

/-! ## Literals of a scan -/

/-- A time option is empty, or its literal denotes a local time that the zone has. -/
def Machine.TimeReadable (m : Machine) (input : String) : Prop :=
  input ≠ "" → ∃ d c, LocalTimeText m.today input.toList d c ∧ d.isValid = true ∧
    (m.zone.resolve (localSeconds d c)).isSome = true

/-- A time option is read just if it is readable. -/
theorem Machine.exists_readTime?_iff {m : Machine} {input : String} :
    (∃ t, m.readTime? input = .ok t) ↔ m.TimeReadable input := by
  unfold readTime? TimeReadable
  split
  · rename_i hempty
    exact ⟨fun _ h => absurd hempty h, fun _ => ⟨none, rfl⟩⟩
  · rename_i hset
    rw [forall_prop_of_true hset]
    constructor
    · rintro ⟨t, h⟩
      split at h
      · rename_i t' hread
        obtain ⟨d, c, htext, hvalid, hresolve, -⟩ := readTime_eq_ok_iff.1 hread
        exact ⟨d, c, htext, hvalid, by rw [hresolve]; rfl⟩
      · exact absurd h nofun
    · rintro ⟨d, c, htext, hvalid, hresolve⟩
      obtain ⟨seconds, hseconds⟩ := Option.isSome_iff_exists.1 hresolve
      have hread : BackupControl.readTime m.zone m.today input = .ok ⟨seconds, c.isLeap⟩ :=
        readTime_eq_ok_iff.2 ⟨d, c, htext, hvalid, hseconds, rfl⟩
      exact ⟨some ⟨seconds, c.isLeap⟩, by rw [hread]⟩

namespace Scan

variable {g : Scan Settled} {m : Machine}

/-- The items of the rack list are literals of numbers up to the limit. -/
def RacksReadable (g : Scan Settled) : Prop :=
  ∀ item ∈ splitCommas g.rackList,
    ∃ id : Int, IntegerLiteral item.toList id ∧ 0 ≤ id ∧ id ≤ rackLimit

/-- The filter expression is the base64 of some bytes, or empty, which is that of none. -/
def FilterReadable (g : Scan Settled) : Prop := ∃ bytes, Base64.encode bytes = g.filterExpression

/-- The racks are read just if they are readable. -/
theorem exists_racks_iff : (∃ racks, g.racks = .ok racks) ↔ g.RacksReadable := by
  simp only [racks, mapError_eq_ok_iff, exists_readRacks_iff, RacksReadable]

/-- The filter expression is read just if it is readable. -/
theorem exists_filterBytes_iff : (∃ bytes, g.filterBytes = .ok bytes) ↔ g.FilterReadable := by
  unfold filterBytes FilterReadable
  split
  · rename_i hempty
    rw [hempty]
    exact ⟨fun _ => ⟨[], rfl⟩, fun _ => ⟨none, rfl⟩⟩
  · split
    · rename_i bytes hread
      exact ⟨fun _ => ⟨bytes, Base64.decode_eq_ok_iff.1 hread⟩, fun _ => ⟨some bytes, rfl⟩⟩
    · rename_i fault hfault
      refine ⟨fun ⟨_, h⟩ => absurd h nofun, fun ⟨bytes, hspelled⟩ => ?_⟩
      exact absurd (hfault.symm.trans (Base64.decode_eq_ok_iff.2 hspelled)) nofun

/-- The first literal of a scan that cannot be read, in the order in which they are, and the
failure that it causes. -/
inductive FirstFault (m : Machine) (g : Scan Settled) : Failure → Prop where
  | racks {fault : LiteralFault} (h : g.racks = .error fault) : FirstFault m g (.literal fault)
  | partitions {failure : Failure} (hracks : g.RacksReadable)
      (h : g.partitionFilters = .error failure) : FirstFault m g failure
  | filterExpression {fault : LiteralFault} (hracks : g.RacksReadable)
      (hpartitions : g.PartitionsReadable) (h : g.filterBytes = .error fault) :
      FirstFault m g (.literal fault)
  | before {fault : LiteralFault} (hracks : g.RacksReadable)
      (hpartitions : g.PartitionsReadable) (hfilter : g.FilterReadable)
      (h : m.readTime? g.modifiedBefore = .error fault) :
      FirstFault m g (.during .readingModifiedBefore (.literal fault))
  | after {fault : LiteralFault} (hracks : g.RacksReadable)
      (hpartitions : g.PartitionsReadable) (hfilter : g.FilterReadable)
      (hbefore : m.TimeReadable g.modifiedBefore)
      (h : m.readTime? g.modifiedAfter = .error fault) :
      FirstFault m g (.during .readingModifiedAfter (.literal fault))

end Scan

namespace BackupService

variable {m : Machine} {i : Infrastructure} {g : Scan Settled} {s : BackupService}

/-- The config of a scan is complete just if each of its literals is read. -/
theorem exists_scanConfig_iff (hsingle : g.afterDigest = "" ∨ g.partitionList = "") :
    (∃ c, scanConfig m i g = .ok c) ↔
      g.RacksReadable ∧ g.PartitionsReadable ∧ g.FilterReadable ∧
        m.TimeReadable g.modifiedBefore ∧ m.TimeReadable g.modifiedAfter := by
  rw [← Scan.exists_racks_iff, ← Scan.exists_partitionFilters_iff hsingle,
    ← Scan.exists_filterBytes_iff, ← Machine.exists_readTime?_iff, ← Machine.exists_readTime?_iff]
  simp only [scanConfig, bind_eq_ok_iff, mapError_eq_ok_iff, during_eq_ok_iff, Scan.scanPolicy,
    map_eq_ok_iff, pure_eq_ok_iff]
  constructor
  · rintro ⟨_, racks, hracks, filters, hfilters, _, ⟨bytes, hbytes, -⟩, before, hbefore, after,
      hafter, -⟩
    exact ⟨⟨racks, hracks⟩, ⟨filters, hfilters⟩, ⟨bytes, hbytes⟩, ⟨before, hbefore⟩, after, hafter⟩
  · rintro ⟨⟨racks, hracks⟩, ⟨filters, hfilters⟩, ⟨bytes, hbytes⟩, ⟨before, hbefore⟩, after, hafter⟩
    exact ⟨_, racks, hracks, filters, hfilters, _, ⟨bytes, hbytes, rfl⟩, before, hbefore, after,
      hafter, rfl⟩

/-- The config of a scan is missing just for its first literal that cannot be read. -/
theorem scanConfig_eq_error_iff (hsingle : g.afterDigest = "" ∨ g.partitionList = "")
    {failure : Failure} : scanConfig m i g = .error failure ↔ g.FirstFault m failure := by
  simp only [scanConfig, bind_eq_error_iff, mapError_eq_ok_iff, during_eq_ok_iff, Scan.scanPolicy,
    map_eq_ok_iff, mapError_eq_error_iff, during_eq_error_iff, map_eq_error_iff]
  constructor
  · -- either a step fails, or it was read and the failure is further on
    rintro (⟨fault, hracks, rfl⟩ | ⟨racks, hracks, hrest⟩)
    · exact .racks hracks
    have hracks := Scan.exists_racks_iff.1 ⟨racks, hracks⟩
    rcases hrest with hpartitions | ⟨filters, hpartitions, hrest⟩
    · exact .partitions hracks hpartitions
    have hpartitions := (Scan.exists_partitionFilters_iff hsingle).1 ⟨filters, hpartitions⟩
    rcases hrest with ⟨fault, hfilter, rfl⟩ | ⟨_, ⟨bytes, hfilter, -⟩, hrest⟩
    · exact .filterExpression hracks hpartitions hfilter
    have hfilter := Scan.exists_filterBytes_iff.1 ⟨bytes, hfilter⟩
    rcases hrest with ⟨_, ⟨fault, hbefore, rfl⟩, rfl⟩ | ⟨before, hbefore, hrest⟩
    · exact .before hracks hpartitions hfilter hbefore
    have hbefore := Machine.exists_readTime?_iff.1 ⟨before, hbefore⟩
    rcases hrest with ⟨_, ⟨fault, hafter, rfl⟩, rfl⟩ | ⟨_, -, h⟩
    · exact .after hracks hpartitions hfilter hbefore hafter
    · exact absurd h pure_ne_error
  · -- what stands before the fault is readable, so it is read
    intro h
    cases h with
    | racks h => exact .inl ⟨_, h, rfl⟩
    | partitions hracks h =>
      obtain ⟨racks, hracks⟩ := Scan.exists_racks_iff.2 hracks
      exact .inr ⟨racks, hracks, .inl h⟩
    | filterExpression hracks hpartitions h =>
      obtain ⟨racks, hracks⟩ := Scan.exists_racks_iff.2 hracks
      obtain ⟨filters, hfilters⟩ := (Scan.exists_partitionFilters_iff hsingle).2 hpartitions
      exact .inr ⟨racks, hracks, .inr ⟨filters, hfilters, .inl ⟨_, h, rfl⟩⟩⟩
    | before hracks hpartitions hfilter h =>
      obtain ⟨racks, hracks⟩ := Scan.exists_racks_iff.2 hracks
      obtain ⟨filters, hfilters⟩ := (Scan.exists_partitionFilters_iff hsingle).2 hpartitions
      obtain ⟨bytes, hbytes⟩ := Scan.exists_filterBytes_iff.2 hfilter
      exact .inr ⟨racks, hracks, .inr ⟨filters, hfilters, .inr ⟨_, ⟨bytes, hbytes, rfl⟩,
        .inl ⟨_, ⟨_, h, rfl⟩, rfl⟩⟩⟩⟩
    | after hracks hpartitions hfilter hbefore h =>
      obtain ⟨racks, hracks⟩ := Scan.exists_racks_iff.2 hracks
      obtain ⟨filters, hfilters⟩ := (Scan.exists_partitionFilters_iff hsingle).2 hpartitions
      obtain ⟨bytes, hbytes⟩ := Scan.exists_filterBytes_iff.2 hfilter
      obtain ⟨before, hbefore⟩ := Machine.exists_readTime?_iff.2 hbefore
      exact .inr ⟨racks, hracks, .inr ⟨filters, hfilters, .inr ⟨_, ⟨bytes, hbytes, rfl⟩,
        .inr ⟨before, hbefore, .inl ⟨_, ⟨_, h, rfl⟩, rfl⟩⟩⟩⟩⟩

end BackupService

/-! ## Routing -/

/-- Nodes and racks that are set pin a scan to the master copies of all partitions, and racks are
preferred only without them. -/
structure ScanConfig.Routed (g : Scan Settled) (c : ScanConfig) : Prop where
  pinned : g.nodeList ≠ "" ∨ g.rackList ≠ "" →
    c.partitionFilters = [.all] ∧ c.scanPolicy.replica = .master
  preferred : g.nodeList = "" → g.rackList = "" →
    (c.scanPolicy.replica = .preferRack ↔ g.preferRacks ≠ "")

namespace Scan

variable {g : Scan Settled} {m : Machine} {i : Infrastructure} {c : ScanConfig}

/-- A scan with at most one place filter has no digest beside a list, and neither beside nodes or
racks. -/
theorem of_setPlaceFilters_length (h : g.setPlaceFilters.length ≤ 1) :
    (g.afterDigest = "" ∨ g.partitionList = "") ∧
      (g.nodeList ≠ "" ∨ g.rackList ≠ "" → g.afterDigest = "" ∧ g.partitionList = "") := by
  by_cases hdigest : g.afterDigest = "" <;> by_cases hlist : g.partitionList = "" <;>
    by_cases hnodes : g.nodeList = "" <;> by_cases hracks : g.rackList = "" <;>
    simp_all [setPlaceFilters, placeFilters]

/-- The policy of a config has the replica of its scan. -/
theorem replica_of_from (hc : c.From m g) : c.scanPolicy.replica = g.replica := by
  obtain ⟨bytes, -, hpolicy⟩ := map_eq_ok_iff.1 hc.policy
  rw [← hpolicy]

/-- The config of a scan with at most one place filter is routed by its nodes and racks. -/
theorem routed_of_from (hc : c.From m g) (hfilters : g.setPlaceFilters.length ≤ 1) :
    c.Routed g where
  pinned := by
    intro hset
    obtain ⟨hdigest, hlist⟩ := (of_setPlaceFilters_length hfilters).2 hset
    refine ⟨?_, ?_⟩
    · exact Except.ok.inj (hc.partitions.symm.trans (partitionFilters_of_unset hdigest hlist))
    · rw [replica_of_from hc, replica, if_pos hset.symm]
  preferred := by
    intro hnodes hracks
    have hunset : ¬ (g.rackList ≠ "" ∨ g.nodeList ≠ "") := fun h => h.elim (· hracks) (· hnodes)
    rw [replica_of_from hc, replica, if_neg hunset]
    split
    · rename_i hset
      exact ⟨fun _ => hset, fun _ => rfl⟩
    · rename_i hempty
      exact ⟨nofun, fun h => absurd h hempty⟩

end Scan

/-! ## Accepted backups -/

namespace BackupService

variable {d : Defaults} {resolver : SecretResolver} {l : Layer} {s : BackupService}

/-- A backup that was loaded has a job if it follows a change feed.  A scan has one just if its
literals are readable; otherwise the job fails with the first that is not. -/
theorem accepted_backup_fails_on_literals_only (hload : (load d resolver l).result = .ok s)
    (m : Machine) :
    (s.changeFeed.isSome = true → ∃ j, s.job m = .ok j) ∧
      ∀ g, s.scan = some g →
        ((∃ j, s.job m = .ok j) ↔
          g.RacksReadable ∧ g.PartitionsReadable ∧ g.FilterReadable ∧
            m.TimeReadable g.modifiedBefore ∧ m.TimeReadable g.modifiedAfter) ∧
        (∀ failure, s.job m = .error failure ↔
          ∃ cause, g.FirstFault m cause ∧ failure = .during .mappingBackup cause) ∧
        ∀ j, s.job m = .ok j → j.scan.Routed g := by
  have hkind := (kind_of_load hload).2
  obtain ⟨-, -, hscanCheck, -, -⟩ := (check_eq_ok_iff s).1 (check_of_load_eq_ok hload)
  constructor
  · intro hfeed
    rcases kind_cases hkind with ⟨g, -, hnone⟩ | ⟨g, hscan, hfeed⟩
    · rw [hnone] at hfeed
      exact absurd hfeed nofun
    · obtain ⟨j, hj, -⟩ := job_of_changeFeed hscan hfeed m
      exact ⟨j, hj⟩
  · intro g hscan
    obtain ⟨-, -, -, -, hfilters, -⟩ := (Scan.check_eq_ok_iff g).1 (hscanCheck g hscan)
    have hsingle := (Scan.of_setPlaceFilters_length hfilters).1
    have hfeed : s.changeFeed = none := by
      rw [hscan] at hkind
      cases hfeed : s.changeFeed with
      | none => rfl
      | some feed =>
        rw [hfeed] at hkind
        exact absurd hkind nofun
    refine ⟨?_, fun failure => ?_, fun j hjob => ?_⟩
    · rw [exists_job_iff hscan hfeed, exists_scanConfig_iff hsingle]
    · rw [job_eq_error_iff hscan]
      simp only [scanConfig_eq_error_iff hsingle]
    · have hj := ofScan_of_job hscan hfeed hjob
      exact Scan.routed_of_from (ScanConfig.from_of_scanConfig hj.scan) hfilters

/-- A scan of a rack that is no number. -/
def unreadableLayer : Layer :=
  { scan := some { (OptionGroup.unset : Scan Given) with
      transfer := { (OptionGroup.unset : Transfer Given) with
        nameSpace := some "test"
        directory := some "/backups" }
      rackList := some "x" } }

/-- A scan of a rack that is no number is accepted, and has no job. -/
theorem accepted_scan_fails_on_rack :
    ∃ s, (load .builtIn silentResolver unreadableLayer).result = .ok s ∧
      ¬ ∃ j, s.job smallMachine = .ok j := by
  have hrun : (load .builtIn silentResolver unreadableLayer).result.toOption.any
      (fun s => s.scan.any fun g => g.rackList == "x") = true := by
    decide +kernel
  obtain ⟨s, hs, hrun⟩ := (Option.any_eq_true ..).1 hrun
  obtain ⟨g, hscan, hrack⟩ := (Option.any_eq_true ..).1 hrun
  have hload := toOption_eq_some_iff.1 hs
  refine ⟨s, hload, fun hjob => ?_⟩
  obtain ⟨-, haccepted⟩ := accepted_backup_fails_on_literals_only hload smallMachine
  obtain ⟨hracks, -⟩ := (haccepted g hscan).1.1 hjob
  have hitem : "x" ∈ splitCommas g.rackList := by
    rw [beq_iff_eq.1 hrack]
    decide
  obtain ⟨id, hliteral, -⟩ := hracks "x" hitem
  -- the only item would have to be digits
  obtain ⟨hdigits, -⟩ := hliteral.isDigits (by decide) (.inl (by decide))
  exact absurd (hdigits.digits 'x' (by decide)) (by decide)

end BackupService

end BackupControl
