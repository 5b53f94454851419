/-
# What the rules of a backup accept

The rules of a scan backup and of a change-feed backup as conditions on their options, and the
rules that a service meets which was loaded.
-/
import BackupControl.Proofs.Rules.Check
import BackupControl.Service.Load

namespace BackupControl

/-! ## Groups -/

/-- The transfer options that are accepted. -/
theorem Transfer.check_eq_ok_iff (g : Transfer Settled) :
    g.check = .ok () ↔
      g.nameSpace ≠ "" ∧ (namespacePair? g.nameSpace).isSome = true ∧ 1 ≤ g.parallel := by
  simp only [check, check_bind_eq_ok_iff, refuseIf_eq_ok_iff, Option.isSome_iff_ne_none, ne_eq,
    UInt64.not_lt]

/-- The options that an estimate allows. -/
theorem Scan.checkEstimate_eq_ok_iff (g : Scan Settled) :
    g.checkEstimate = .ok () ↔
      g.keepsBackRecords = false ∧ (g.outputFile = "" ∧ g.transfer.directory = "") ∧
        0 ≤ g.estimateSamples := by
  simp only [checkEstimate, check_bind_eq_ok_iff, refuseIf_eq_ok_iff, not_or, ne_eq,
    Classical.not_not, Bool.not_eq_true, Int64.not_lt]

/-- The options of a scan backup that are accepted. -/
theorem Scan.check_eq_ok_iff (g : Scan Settled) :
    g.check = .ok () ↔
      ¬ (g.estimate = false ∧ g.outputFile = "" ∧ g.transfer.directory = "") ∧
      ¬ (g.transfer.directory ≠ "" ∧ g.outputFile ≠ "") ∧
      checkFilePrefix g.outputFilePrefix = .ok () ∧
      ¬ (g.outputFile ≠ "" ∧ g.outputFilePrefix ≠ "") ∧
      g.setPlaceFilters.length ≤ 1 ∧
      ¬ (g.continueFrom ≠ "" ∧ g.stateFileDst ≠ "") ∧
      ¬ (g.continueFrom ≠ "" ∧ g.removeFiles = true) ∧
      ¬ (g.maxRecords ≠ 0 ∧ g.transfer.parallel ≠ 1) ∧
      (g.estimate = true → g.checkEstimate = .ok ()) ∧
      g.transfer.check = .ok () := by
  simp only [check, check_bind_eq_ok_iff, refuseIf_eq_ok_iff, mapError_eq_ok_iff,
    ite_check_eq_ok_iff, Nat.not_lt]

/-- The options of a change-feed backup that are accepted. -/
theorem ChangeFeed.check_eq_ok_iff (g : ChangeFeed Settled) :
    g.check = .ok () ↔
      g.nameSpace ≠ "" ∧ ¬ (g.stopXdr = true ∧ g.unblockMrt = true) ∧
      ¬ (g.writesFiles = true ∧ g.directory = "") ∧ g.dc ≠ "" ∧ g.localAddress ≠ "" ∧
      isRewind g.rewind = true ∧ 1 ≤ g.maxConnections := by
  simp only [check, check_bind_eq_ok_iff, refuseIf_eq_ok_iff, ne_eq, UInt64.not_lt,
    Bool.not_eq_false]

/-! ## Rules that leave the kind of a backup alone -/

/-- No rule of a cluster is about the kind of a backup. -/
theorem Cluster.check_ne_backupMode (g : Cluster Settled) : g.check ≠ .error .backupMode := by
  simp only [check, ne_eq, check_bind_eq_error_iff, refuseIf_eq_error_iff, reduceCtorEq,
    and_false, or_false, not_false_eq_true]

/-- No rule of a scan is about the kind of a backup. -/
theorem Scan.check_ne_backupMode (g : Scan Settled) : g.check ≠ .error .backupMode := by
  simp only [check, checkEstimate, Transfer.check, ne_eq, check_bind_eq_error_iff,
    refuseIf_eq_error_iff, ite_check_eq_error_iff, mapError_eq_error_iff, reduceCtorEq,
    and_false, or_false, exists_false, not_false_eq_true]

/-- No rule of a change feed is about the kind of a backup. -/
theorem ChangeFeed.check_ne_backupMode (g : ChangeFeed Settled) :
    g.check ≠ .error .backupMode := by
  simp only [check, ne_eq, check_bind_eq_error_iff, refuseIf_eq_error_iff, reduceCtorEq,
    and_false, or_false, not_false_eq_true]

/-- No rule of the infrastructure is about the kind of a backup; those of a store are reported
under the name of its provider. -/
theorem Infrastructure.checkRest_ne_backupMode (op : Operation) (i : Infrastructure) :
    i.checkRest op ≠ .error .backupMode := by
  simp only [checkRest, Compression.check, Encryption.check, SecretAgent.check, Stores.check,
    Stores.checkStore, checkMode, ne_eq, check_bind_eq_error_iff, refuseIf_eq_error_iff,
    ite_pure_eq_error_iff, mapError_eq_error_iff, reduceCtorEq, and_false, or_false,
    exists_false, not_false_eq_true]

/-! ## Services -/

namespace BackupService

/-- The backups that are accepted: one of the two kinds, with the rules of its groups and of the
infrastructure. -/
theorem check_eq_ok_iff (s : BackupService) :
    s.check = .ok () ↔
      ¬ s.scan.isSome = s.changeFeed.isSome ∧ s.infrastructure.cluster.check = .ok () ∧
      (∀ g, s.scan = some g → g.check = .ok ()) ∧
      (∀ g, s.changeFeed = some g → g.check = .ok ()) ∧
      s.infrastructure.checkRest .backup = .ok () := by
  simp only [check, check_bind_eq_ok_iff, refuseIf_eq_ok_iff, checkOption_eq_ok_iff]

/-- The kind of a backup is refused just if there is not exactly one. -/
theorem check_eq_backupMode_iff (s : BackupService) :
    s.check = .error .backupMode ↔ s.scan.isSome = s.changeFeed.isSome := by
  simp only [check, check_bind_eq_error_iff, refuseIf_eq_error_iff, checkOption_eq_error_iff,
    Cluster.check_ne_backupMode, Scan.check_ne_backupMode, ChangeFeed.check_ne_backupMode,
    Infrastructure.checkRest_ne_backupMode, and_false, exists_false, or_false, and_true]

/-- A backup that was completed has its own options, with secrets in its infrastructure, and
meets the rules. -/
theorem of_complete_eq_ok {resolver : SecretResolver} {s t : BackupService}
    (h : s.complete resolver = .ok t) :
    t.scan = s.scan ∧ t.changeFeed = s.changeFeed ∧
      s.infrastructure.resolve resolver = .ok t.infrastructure ∧ t.check = .ok () := by
  rw [complete, bind_eq_ok_iff] at h
  obtain ⟨infrastructure, hresolve, h⟩ := h
  rw [bind_eq_ok_iff] at h
  obtain ⟨_, hcheck, h⟩ := h
  rw [during_eq_ok_iff, ofCheck_eq_ok_iff] at hcheck
  obtain rfl := pure_eq_ok_iff.1 h
  exact ⟨rfl, rfl, hresolve, hcheck⟩

/-- A backup is completed with its references replaced if it then meets the rules. -/
theorem complete_eq_ok {resolver : SecretResolver} {s : BackupService} {i : Infrastructure}
    (hresolve : s.infrastructure.resolve resolver = .ok i)
    (hcheck : ({ s with infrastructure := i } : BackupService).check = .ok ()) :
    s.complete resolver = .ok { s with infrastructure := i } :=
  bind_eq_ok_iff.2 ⟨i, hresolve, bind_eq_ok_iff.2
    ⟨(), during_eq_ok_iff.2 (ofCheck_eq_ok_iff.2 hcheck), rfl⟩⟩

/-- A backup that cannot be completed has a reference that is not replaced, or violates a rule
after all were. -/
theorem of_complete_eq_error {resolver : SecretResolver} {s : BackupService} {failure : Failure}
    (h : s.complete resolver = .error failure) :
    s.infrastructure.resolve resolver = .error failure ∨
      ∃ (t : BackupService) (v : Violation), t.scan = s.scan ∧ t.changeFeed = s.changeFeed ∧
        t.check = .error v ∧ failure = .during .configuring (.violation v) := by
  rw [complete, bind_eq_error_iff] at h
  rcases h with hresolve | ⟨infrastructure, -, h⟩
  · exact .inl hresolve
  · rw [bind_eq_error_iff] at h
    rcases h with h | ⟨_, -, h⟩
    · obtain ⟨cause, h, hfailure⟩ := mapError_eq_error_iff.1 h
      obtain ⟨v, hcheck, rfl⟩ := mapError_eq_error_iff.1 h
      exact .inr ⟨{ s with infrastructure := infrastructure }, v, rfl, rfl, hcheck, hfailure.symm⟩
    · exact absurd h pure_ne_error

/-- A backup that was loaded is that of its layer, completed. -/
theorem of_load_eq_ok {d : Defaults} {resolver : SecretResolver} {l : Layer} {t : BackupService}
    (h : (load d resolver l).result = .ok t) :
    ∃ s, ofLayer d l = .ok s ∧ s.complete resolver = .ok t := by
  unfold load at h
  cases hlayer : ofLayer d l with
  | error v =>
    rw [hlayer] at h
    exact absurd h nofun
  | ok s =>
    rw [hlayer] at h
    exact ⟨s, rfl, h⟩

/-- A backup that was loaded meets the rules. -/
theorem check_of_load_eq_ok {d : Defaults} {resolver : SecretResolver} {l : Layer}
    {t : BackupService} (h : (load d resolver l).result = .ok t) : t.check = .ok () := by
  obtain ⟨s, -, hcomplete⟩ := of_load_eq_ok h
  exact (of_complete_eq_ok hcomplete).2.2.2

/-- A layer is accepted just if it has a service of which the references are replaced and the
rules are then met. -/
theorem exists_load_eq_ok_iff {d : Defaults} {resolver : SecretResolver} {l : Layer} :
    (∃ t, (load d resolver l).result = .ok t) ↔
      ∃ s i, ofLayer d l = .ok s ∧ s.infrastructure.resolve resolver = .ok i ∧
        ({ s with infrastructure := i } : BackupService).check = .ok () := by
  constructor
  · rintro ⟨t, hload⟩
    obtain ⟨s, hlayer, hcomplete⟩ := of_load_eq_ok hload
    obtain ⟨hscan, hfeed, hresolve, hcheck⟩ := of_complete_eq_ok hcomplete
    refine ⟨s, t.infrastructure, hlayer, hresolve, ?_⟩
    rw [← hscan, ← hfeed]
    exact hcheck
  · rintro ⟨s, i, hlayer, hresolve, hcheck⟩
    refine ⟨{ s with infrastructure := i }, ?_⟩
    unfold load
    rw [hlayer]
    exact complete_eq_ok hresolve hcheck

end BackupService

end BackupControl
