/-
# Limits and times

Options count limits in MiB and times in milliseconds, and a job counts bytes, and seconds with
nanoseconds.  A limit is cut off at the largest number of sixty-four bits, so none turns into
zero, which would be no limit at all.  A time is the same time in either unit.

Main statement: `jobs_keep_limits_and_times`.
-/
import BackupControl.Proofs.Service.Job
import BackupControl.Service.Restore
import Mathlib.Algebra.Group.Nat.Defs

namespace BackupControl

/-! ## Units -/

/-- A number of bytes is that of a number of MiB, or the largest number of sixty-four bits when
that has more of them. -/
structure InBytes (mib bytes : UInt64) : Prop where
  exact : mib.toNat * 1048576 < 2 ^ 64 → bytes.toNat = mib.toNat * 1048576
  capped : 2 ^ 64 ≤ mib.toNat * 1048576 → bytes.toNat = 2 ^ 64 - 1

/-- A span is that of a number of milliseconds. -/
structure Span.Lasts (span : Span) (ms : UInt64) : Prop where
  millis : span.seconds * 1000 + span.nanos / 1000000 = ms.toNat
  whole : 1000000 ∣ span.nanos
  nanos_lt : span.nanos < 10 ^ 9

section Units

variable {mib bytes mib' bytes' : UInt64}

/-- Bytes are as many as those of the MiB, up to the largest number. -/
theorem InBytes.toNat_eq (h : InBytes mib bytes) :
    bytes.toNat = min (mib.toNat * 1048576) (2 ^ 64 - 1) := by
  by_cases hfits : mib.toNat * 1048576 < 2 ^ 64
  · rw [h.exact hfits, Nat.min_eq_left (by omega)]
  · rw [h.capped (by omega), Nat.min_eq_right (by omega)]

/-- A limit in bytes is none just if it was none. -/
theorem InBytes.eq_zero_iff (h : InBytes mib bytes) : bytes = 0 ↔ mib = 0 := by
  rw [← UInt64.toNat_inj, ← UInt64.toNat_inj, h.toNat_eq, UInt64.toNat_zero]
  omega

/-- A limit that is not lower is not lower in bytes. -/
theorem InBytes.mono (h : InBytes mib bytes) (h' : InBytes mib' bytes') (hle : mib ≤ mib') :
    bytes ≤ bytes' := by
  rw [UInt64.le_iff_toNat_le] at hle ⊢
  rw [h.toNat_eq, h'.toNat_eq]
  omega

/-- A number of MiB is put into bytes. -/
theorem inBytes_bytesOfMiB (mib : UInt64) : InBytes mib (bytesOfMiB mib) := by
  have hvalue : (bytesOfMiB mib).toNat = min (mib.toNat * 1048576) (2 ^ 64 - 1) := by
    have hmib : twoTo 20 = 1048576 := rfl
    have hsize : twoTo 64 = 2 ^ 64 := rfl
    rw [bytesOfMiB, hmib, hsize]
    exact UInt64.toNat_ofNat_of_lt' (Nat.lt_of_le_of_lt (Nat.min_le_right _ _) (by decide))
  constructor
  · intro hfits
    rw [hvalue, Nat.min_eq_left (by omega)]
  · intro hlarge
    rw [hvalue, Nat.min_eq_right (by omega)]

/-- A number of milliseconds is a span. -/
theorem lasts_ofMillis (ms : UInt64) : (Span.ofMillis ms).Lasts ms where
  millis := by
    show ms.toNat / 1000 * 1000 + ms.toNat % 1000 * 1000000 / 1000000 = ms.toNat
    omega
  whole := Nat.dvd_mul_left _ _
  nanos_lt := by
    show ms.toNat % 1000 * 1000000 < 10 ^ 9
    omega

end Units

/-! ## Times -/

/-- The time options of a cluster, and what becomes of them. -/
def Cluster.times (g : Cluster Settled) (c : ClusterConfig) : List (UInt64 × Span) := [
  (g.clientTimeout, c.timeout),
  (g.clientIdleTimeout, c.idleTimeout),
  (g.clientLoginTimeout, c.loginTimeout)]

/-- The time options of a scan, and what becomes of them. -/
def Scan.times (g : Scan Settled) (c : ScanConfig) : List (UInt64 × Span) := [
  (g.transfer.totalTimeout, c.scanPolicy.totalTimeout),
  (g.transfer.socketTimeout, c.scanPolicy.socketTimeout),
  (g.transfer.infoTimeout, c.infoPolicy.timeout),
  (g.transfer.infoRetryInterval, c.infoRetryPolicy.baseTimeout),
  (g.sleepBetweenRetries, c.scanPolicy.sleepBetweenRetries)]

/-- The time options of a change feed, and what becomes of them. -/
def ChangeFeed.times (g : ChangeFeed Settled) (c : FeedConfig) : List (UInt64 × Span) := [
  (g.readTimeout, c.readTimeout),
  (g.writeTimeout, c.writeTimeout),
  (g.infoPollingPeriod, c.infoPollingPeriod),
  (g.startTimeout, c.startTimeout),
  (g.infoTimeout, c.infoPolicy.timeout),
  (g.infoRetryInterval, c.infoRetryPolicy.baseTimeout)]

/-- The time options of a restore, and what becomes of them. -/
def Restore.times (g : Restore Settled) (c : RestoreConfig) : List (UInt64 × Span) := [
  (g.transfer.totalTimeout, c.writePolicy.totalTimeout),
  (g.transfer.socketTimeout, c.writePolicy.socketTimeout),
  (g.transfer.infoTimeout, c.infoPolicy.timeout),
  (g.transfer.infoRetryInterval, c.infoRetryPolicy.baseTimeout),
  (g.retryBaseInterval, c.writeRetryPolicy.baseTimeout)]

/-- Each time is the span that becomes of it. -/
def KeepsTimes (times : List (UInt64 × Span)) : Prop :=
  ∀ time ∈ times, time.2.Lasts time.1

/-- Times that are put into spans one by one are kept. -/
theorem keepsTimes_of_ofMillis {times : List (UInt64 × Span)}
    (h : times.map (·.2) = times.map fun time => .ofMillis time.1) : KeepsTimes times := by
  intro time htime
  have hspan : time.2 = .ofMillis time.1 := List.map_inj_left.1 h time htime
  rw [hspan]
  exact lasts_ofMillis time.1

/-! ## Configs -/

/-- The limits and times of a scan are those of its options. -/
structure ScanConfig.KeepsUnits (g : Scan Settled) (c : ScanConfig) : Prop where
  bandwidth : InBytes g.transfer.bandwidth c.bandwidth
  fileLimit : g.outputFile = "" → InBytes g.fileLimit c.fileLimit
  times : KeepsTimes (g.times c)

/-- The limit and the times of a change feed are those of its options. -/
structure FeedConfig.KeepsUnits (g : ChangeFeed Settled) (c : FeedConfig) : Prop where
  fileLimit : InBytes g.fileLimit c.fileLimit
  times : KeepsTimes (g.times c)

/-- The limit and the times of a restore are those of its options. -/
structure RestoreConfig.KeepsUnits (g : Restore Settled) (c : RestoreConfig) : Prop where
  bandwidth : InBytes g.transfer.bandwidth c.bandwidth
  times : KeepsTimes (g.times c)

/-- The times of a cluster are kept. -/
theorem Cluster.keepsTimes_config (g : Cluster Settled) : KeepsTimes (g.times g.config) :=
  keepsTimes_of_ofMillis rfl

/-- The bandwidth of a scan config is that of its scan. -/
theorem ScanConfig.bandwidth_of_scanConfig {m : Machine} {i : Infrastructure} {g : Scan Settled}
    {c : ScanConfig} (h : BackupService.scanConfig m i g = .ok c) :
    c.bandwidth = bytesOfMiB g.transfer.bandwidth := by
  simp only [BackupService.scanConfig, bind_eq_ok_iff] at h
  obtain ⟨racks, -, filters, -, policy, -, before, -, after, -, h⟩ := h
  obtain rfl := pure_eq_ok_iff.1 h
  rfl

/-- A scan config that is complete keeps limits and times. -/
theorem ScanConfig.keepsUnits_of_scanConfig {m : Machine} {i : Infrastructure} {g : Scan Settled}
    {c : ScanConfig} (h : BackupService.scanConfig m i g = .ok c) : c.KeepsUnits g where
  bandwidth := by
    rw [bandwidth_of_scanConfig h]
    exact inBytes_bytesOfMiB _
  fileLimit := by
    intro hfile
    rw [(from_of_scanConfig h).fileLimit, BackupService.fileLimit, if_pos hfile]
    exact inBytes_bytesOfMiB _
  times := by
    obtain ⟨bytes, -, hpolicy⟩ := map_eq_ok_iff.1 (from_of_scanConfig h).policy
    have hcarries := carries_of_scanConfig h
    apply keepsTimes_of_ofMillis
    rw [Scan.times, ← hpolicy, hcarries.infoPolicy, hcarries.infoRetryPolicy]
    rfl

/-- The config of a change feed keeps its limit and its times. -/
theorem FeedConfig.keepsUnits_feedConfig (m : Machine) (i : Infrastructure)
    (g : ChangeFeed Settled) : (BackupService.feedConfig m i g).KeepsUnits g where
  fileLimit := inBytes_bytesOfMiB _
  times := keepsTimes_of_ofMillis rfl

/-- The config of a restore keeps its limit and its times. -/
theorem RestoreConfig.keepsUnits_of_config {s : RestoreService} {c : RestoreConfig}
    (h : s.config = .ok c) : c.KeepsUnits s.restore := by
  obtain ⟨warmUp, -, h⟩ := bind_eq_ok_iff.1 h
  obtain rfl := pure_eq_ok_iff.1 h
  exact { bandwidth := inBytes_bytesOfMiB _, times := keepsTimes_of_ofMillis rfl }

/-! ## Other limits -/

/-- The scan with other limits. -/
def Scan.limiting (bandwidth fileLimit : UInt64) (g : Scan Settled) : Scan Settled :=
  { g with transfer := { g.transfer with bandwidth := bandwidth }, fileLimit := fileLimit }

/-- The change feed with another limit. -/
def ChangeFeed.limiting (fileLimit : UInt64) (g : ChangeFeed Settled) : ChangeFeed Settled :=
  { g with fileLimit := fileLimit }

/-- The restore with another limit. -/
def Restore.limiting (bandwidth : UInt64) (g : Restore Settled) : Restore Settled :=
  { g with transfer := { g.transfer with bandwidth := bandwidth } }

namespace BackupService

variable (m : Machine)

/-- The backup with other limits. -/
def limiting (bandwidth fileLimit : UInt64) (s : BackupService) : BackupService :=
  { s with
    scan := s.scan.map (Scan.limiting bandwidth fileLimit)
    changeFeed := s.changeFeed.map (ChangeFeed.limiting fileLimit) }

/-- The rules of a backup do not look at its limits. -/
theorem check_limiting (bandwidth fileLimit : UInt64) (s : BackupService) :
    (s.limiting bandwidth fileLimit).check = s.check := by
  obtain ⟨infrastructure, scan, changeFeed⟩ := s
  cases scan <;> cases changeFeed <;> rfl

/-- The config of a scan fails alike whatever its limits are. -/
theorem scanConfig_limiting_eq_error_iff {i : Infrastructure} {g : Scan Settled}
    {bandwidth fileLimit : UInt64} {failure : Failure} :
    scanConfig m i (g.limiting bandwidth fileLimit) = .error failure ↔
      scanConfig m i g = .error failure := by
  simp only [scanConfig, bind_eq_error_iff, pure_ne_error]
  exact Iff.rfl

/-- The job of a backup fails alike whatever its limits are. -/
theorem job_limiting_eq_error_iff {s : BackupService} {bandwidth fileLimit : UInt64}
    {failure : Failure} :
    (s.limiting bandwidth fileLimit).job m = .error failure ↔ s.job m = .error failure := by
  cases hscan : s.scan with
  | some g =>
    have hother : (s.limiting bandwidth fileLimit).scan = some (g.limiting bandwidth fileLimit) := by
      rw [limiting, hscan, Option.map_some]
    rw [job_eq_error_iff hscan, job_eq_error_iff hother]
    simp only [limiting, scanConfig_limiting_eq_error_iff]
  | none =>
    obtain ⟨infrastructure, scan, changeFeed⟩ := s
    dsimp only at hscan
    subst hscan
    cases changeFeed with
    | some g => exact ⟨nofun, nofun⟩
    | none => exact Iff.rfl

end BackupService

namespace RestoreService

/-- The restore with another limit. -/
def limiting (bandwidth : UInt64) (s : RestoreService) : RestoreService :=
  { s with restore := s.restore.limiting bandwidth }

/-- The rules of a restore do not look at its limit. -/
theorem check_limiting (bandwidth : UInt64) (s : RestoreService) :
    (s.limiting bandwidth).check = s.check := rfl

/-- The job of a restore fails just if the number of connections to warm up is no count. -/
theorem job_eq_error_iff {s : RestoreService} {failure : Failure} :
    s.job = .error failure ↔
      (countOf s.restore.warmUp).during .mappingWarmUp = .error failure := by
  simp only [job, config, bind_eq_error_iff, pure_ne_error, and_false, exists_false, or_false]

/-- The job of a restore fails alike whatever its limit is. -/
theorem job_limiting_eq_error_iff {s : RestoreService} {bandwidth : UInt64} {failure : Failure} :
    (s.limiting bandwidth).job = .error failure ↔ s.job = .error failure := by
  rw [job_eq_error_iff, job_eq_error_iff]
  exact Iff.rfl

end RestoreService

/-! ## Jobs -/

/-- **A job keeps the limits and the times of its options.**

* A limit in bytes is none just if it was none, and a limit that is not lower stays so.
* The job of a backup has the times of its cluster; that of a scan has its limits, but none on the
  size of a single output file, and its times; that of a change feed has its limit and its times.
* The job of a restore has the times of its cluster, its limit and its times.
* Limits of any size pass the rules and go into a job: with others a backup or a restore is
  accepted, and its job fails, just as before. -/
theorem jobs_keep_limits_and_times :
    (∀ mib bytes, InBytes mib bytes → (bytes = 0 ↔ mib = 0)) ∧
    (∀ mib bytes mib' bytes', InBytes mib bytes → InBytes mib' bytes' → mib ≤ mib' →
      bytes ≤ bytes') ∧
    (∀ (m : Machine) (s : BackupService) (j : BackupJob), s.job m = .ok j →
      KeepsTimes (s.infrastructure.cluster.times j.cluster) ∧
      (∀ g, s.scan = some g → j.scan.KeepsUnits g) ∧
      ∀ g, s.scan = none → s.changeFeed = some g → ∃ c, j.changeFeed = some c ∧ c.KeepsUnits g) ∧
    (∀ (s : RestoreService) (j : RestoreJob), s.job = .ok j →
      KeepsTimes (s.infrastructure.cluster.times j.cluster) ∧ j.restore.KeepsUnits s.restore) ∧
    (∀ (m : Machine) (s : BackupService) (bandwidth fileLimit : UInt64),
      (s.limiting bandwidth fileLimit).check = s.check ∧
      ∀ failure, (s.limiting bandwidth fileLimit).job m = .error failure ↔
        s.job m = .error failure) ∧
    ∀ (s : RestoreService) (bandwidth : UInt64),
      (s.limiting bandwidth).check = s.check ∧
      ∀ failure, (s.limiting bandwidth).job = .error failure ↔ s.job = .error failure := by
  refine ⟨fun _ _ h => h.eq_zero_iff, fun _ _ _ _ h h' => h.mono h', fun m s j hjob => ?_,
    fun s j hjob => ?_, fun m s bandwidth fileLimit => ?_, fun s bandwidth => ?_⟩
  · refine ⟨?_, fun g hscan => ?_, fun g hscan hfeed => ?_⟩
    · rw [(BackupService.infrastructure_of_job hjob).1]
      exact s.infrastructure.cluster.keepsTimes_config
    · exact ScanConfig.keepsUnits_of_scanConfig (BackupService.scanConfig_of_job hscan hjob)
    · obtain ⟨k, hk, hj⟩ := BackupService.job_of_changeFeed hscan hfeed m
      obtain rfl := Except.ok.inj (hjob.symm.trans hk)
      exact ⟨_, hj.changeFeed, FeedConfig.keepsUnits_feedConfig m s.infrastructure g⟩
  · obtain ⟨c, hconfig, hjob⟩ := bind_eq_ok_iff.1 hjob
    obtain rfl := pure_eq_ok_iff.1 hjob
    exact ⟨s.infrastructure.cluster.keepsTimes_config, RestoreConfig.keepsUnits_of_config hconfig⟩
  · exact ⟨s.check_limiting bandwidth fileLimit, fun _ => BackupService.job_limiting_eq_error_iff m⟩
  · exact ⟨s.check_limiting bandwidth, fun _ => RestoreService.job_limiting_eq_error_iff⟩

/-- The least limit of which the bytes would wrap around to none is cut off instead. -/
example :
    (BackupService.accepted { scan := some { (OptionGroup.unset : Scan Given) with
      transfer := { (OptionGroup.unset : Transfer Given) with
        nameSpace := some "test"
        directory := some "/b"
        bandwidth := some 17592186044416 } } }).map (fun run => run.2.scan.bandwidth) =
      some 18446744073709551615 := by
  decide +kernel

end BackupControl
