/-
# Canonical words reach the engine

Whatever spelling the words of an accepted layer have, the engine is told one of a few words for
each, the key of an encryption has exactly one place, and a certificate comes with its key.
-/
import BackupControl.Proofs.Service.Spelling

namespace BackupControl

/-! ## Policies -/

/-- The policies of a config that are there are told in canonical words. -/
structure CanonicalPolicies (compression : Option CompressionPolicy)
    (encryption : Option EncryptionPolicy) (agent : Option AgentConfig) : Prop where
  compression : ∀ p, compression = some p → p.Canonical
  encryption : ∀ p, encryption = some p → p.Canonical
  agent : ∀ a, agent = some a → a.Canonical

namespace Infrastructure

variable {i : Infrastructure} {op : Operation}

/-- The policies of an infrastructure that meets the rules. -/
theorem canonicalPolicies_of_check (h : i.checkRest op = .ok ()) :
    CanonicalPolicies i.compression.policy? i.encryption.policy? i.secretAgent.config? := by
  obtain ⟨hcompression, hencryption, hagent, -⟩ := checkRest_eq_ok_iff.1 h
  exact {
    compression := fun _ => Compression.canonical_of_check hcompression
    encryption := fun _ => Encryption.canonical_of_check hencryption
    agent := fun _ => SecretAgent.canonical_of_check hagent }

/-- The words that a layer sets, but for the log level, are ASCII if the infrastructure meets the
rules after its references are replaced. -/
theorem isAscii_given {d : Defaults} {resolver : SecretResolver} {l : Layer}
    (hi : (ofLayer d l).resolve resolver = .ok i) (hcluster : i.cluster.check = .ok ())
    (hrest : i.checkRest op = .ok ()) {w : Word} (hw : w ≠ .logLevel) {text : String}
    (htext : w.given l = some text) : IsAscii text := by
  obtain ⟨hcompression, hencryption, hagent, -⟩ := checkRest_eq_ok_iff.1 hrest
  have hwords : i.words = _ := (words_of_resolve hi).1.trans words_ofLayer
  -- a word that is set is the one that is settled
  have hsettled (value : String) : (w.given l).getD value = text := by rw [htext, Option.getD_some]
  cases w with
  | logLevel => exact absurd rfl hw
  | authMode =>
    have hword : i.cluster.authMode = text := (congrArg Words.authMode hwords).trans (hsettled _)
    exact hword ▸ Cluster.isAscii_of_check hcluster
  | compressionMode =>
    have hword : i.compression.mode = text :=
      (congrArg Words.compressionMode hwords).trans (hsettled _)
    exact hword ▸ Compression.isAscii_of_check hcompression
  | encryptionMode =>
    have hword : i.encryption.mode = text :=
      (congrArg Words.encryptionMode hwords).trans (hsettled _)
    exact hword ▸ Encryption.isAscii_of_check hencryption
  | connectionType =>
    have hword : i.secretAgent.connectionType = text :=
      (congrArg Words.connectionType hwords).trans (hsettled _)
    exact hword ▸ SecretAgent.isAscii_of_check hagent

end Infrastructure

/-! ## Jobs -/

/-- A backup is told to the engine in canonical words. -/
structure BackupJob.Canonical (j : BackupJob) : Prop where
  cluster : j.cluster.Canonical
  scan : CanonicalPolicies j.scan.compressionPolicy j.scan.encryptionPolicy j.scan.agent
  changeFeed : ∀ c, j.changeFeed = some c →
    CanonicalPolicies c.compressionPolicy c.encryptionPolicy c.agent

/-- A restore is told to the engine in canonical words. -/
structure RestoreJob.Canonical (j : RestoreJob) : Prop where
  cluster : j.cluster.Canonical
  restore : CanonicalPolicies j.restore.compressionPolicy j.restore.encryptionPolicy
    j.restore.agent

/-- The jobs of a backup that meets its rules. -/
theorem BackupService.canonical_of_job {s : BackupService} (hcheck : s.check = .ok ())
    {m : Machine} {j : BackupJob} (hjob : s.job m = .ok j) : j.Canonical := by
  obtain ⟨hkind, hcluster, -, -, hrest⟩ := (check_eq_ok_iff s).1 hcheck
  have hpolicies := Infrastructure.canonicalPolicies_of_check hrest
  have hcanonical : j.cluster.Canonical := by
    rw [(infrastructure_of_job hjob).1]
    exact Cluster.canonical_of_check hcluster
  have hkind : s.scan.isSome = !s.changeFeed.isSome := Bool.eq_not.2 hkind
  rcases kind_cases hkind with ⟨g, hscan, hfeed⟩ | ⟨g, hscan, hfeed⟩
  · have hj := ofScan_of_job hscan hfeed hjob
    have hcarries := ScanConfig.carries_of_scanConfig hj.scan
    refine ⟨hcanonical, ?_, fun c hc => absurd (hj.changeFeed.symm.trans hc) nofun⟩
    rw [hcarries.compressionPolicy, hcarries.encryptionPolicy, hcarries.agent]
    exact hpolicies
  · obtain ⟨j', hjob', hj⟩ := job_of_changeFeed hscan hfeed m
    obtain rfl := Except.ok.inj (hjob.symm.trans hjob')
    refine ⟨hcanonical, ?_, fun c hc => ?_⟩
    · -- beside a change feed, the scan has no policies
      rw [hj.scan]
      exact ⟨nofun, nofun, nofun⟩
    · obtain rfl := Option.some.inj (hj.changeFeed.symm.trans hc)
      exact hpolicies

/-- The job of a restore that meets its rules. -/
theorem RestoreService.canonical_of_job {s : RestoreService} (hcheck : s.check = .ok ())
    {j : RestoreJob} (hjob : s.job = .ok j) : j.Canonical := by
  obtain ⟨hcluster, -, hrest⟩ := (check_eq_ok_iff s).1 hcheck
  rw [job, bind_eq_ok_iff] at hjob
  obtain ⟨c, hc, hjob⟩ := hjob
  obtain rfl := pure_eq_ok_iff.1 hjob
  rw [config, bind_eq_ok_iff] at hc
  obtain ⟨warmUp, -, hc⟩ := hc
  obtain rfl := pure_eq_ok_iff.1 hc
  exact ⟨Cluster.canonical_of_check hcluster, Infrastructure.canonicalPolicies_of_check hrest⟩

/-- The filter of a session whose options meet their rule. -/
theorem Session.logFilter_mem {session : Session} (h : session.options.check = .ok ()) :
    session.logFilter ∈ logLevels := by
  unfold logFilter
  split
  · rename_i hverbose
    have hset := bne_iff_ne.1 (Bool.and_eq_true_iff.1 hverbose).2
    exact logLevels_writtenIn.mem lowerCase_keepsAgreement (App.check_eq_ok_iff.1 h hset)
  · decide

/-! ## Accepted layers -/

/-- **Only canonical words reach the engine.**

* The jobs of a backup and of a restore that are loaded are told in canonical words, and so is the
  filter of the log.
* Each word that an accepted layer sets is spelled in ASCII.
* With the words of a layer in another case of the letters A to Z, the layer is accepted just if it
  was, and has the same jobs and the same filter. -/
theorem words_reach_the_engine_canonically (d : Defaults) (resolver : SecretResolver)
    (path : Option String) (l : Layer) :
    (∀ s, (BackupService.load d resolver l).result = .ok s →
      (∀ m j, s.job m = .ok j → j.Canonical) ∧
        ∀ w ≠ Word.logLevel, ∀ text, w.given l = some text → IsAscii text) ∧
    (∀ s, (RestoreService.load d resolver l).result = .ok s →
      (∀ j, s.job = .ok j → j.Canonical) ∧
        ∀ w ≠ Word.logLevel, ∀ text, w.given l = some text → IsAscii text) ∧
    (∀ session, Session.ofLayer d path l = .ok session →
      session.logFilter ∈ logLevels ∧
        ∀ text, Word.logLevel.given l = some text → IsAscii text) ∧
    ∀ f, KeepsLetters f →
      SucceedAlike (fun s m => s.job m) (BackupService.load d resolver l).result
        (BackupService.load d resolver (l.respell f)).result ∧
      SucceedAlike RestoreService.job (RestoreService.load d resolver l).result
        (RestoreService.load d resolver (l.respell f)).result ∧
      SucceedAlike Session.logFilter (Session.ofLayer d path l)
        (Session.ofLayer d path (l.respell f)) := by
  refine ⟨fun s hload => ?_, fun s hload => ?_, fun session hsession => ?_, fun f hf => ?_⟩
  · obtain ⟨settled, hlayer, hcomplete⟩ := BackupService.of_load_eq_ok hload
    obtain ⟨-, -, hresolve, hcheck⟩ := BackupService.of_complete_eq_ok hcomplete
    obtain ⟨-, hcluster, -, -, hrest⟩ := (BackupService.check_eq_ok_iff s).1 hcheck
    rw [BackupService.infrastructure_of_ofLayer hlayer] at hresolve
    exact ⟨fun m j => BackupService.canonical_of_job hcheck,
      fun w hw text => Infrastructure.isAscii_given hresolve hcluster hrest hw⟩
  · obtain ⟨-, hresolve, hcheck⟩ := RestoreService.of_load_eq_ok hload
    obtain ⟨hcluster, -, hrest⟩ := (RestoreService.check_eq_ok_iff s).1 hcheck
    exact ⟨fun j => RestoreService.canonical_of_job hcheck,
      fun w hw text => Infrastructure.isAscii_given hresolve hcluster hrest hw⟩
  · obtain ⟨hcheck, rfl⟩ := Session.ofLayer_eq_ok_iff.1 hsession
    refine ⟨Session.logFilter_mem hcheck, fun text htext => ?_⟩
    have hlevel := App.isAscii_of_check hcheck
    rwa [Session.logLevel_settleSection, htext, Option.getD_some] at hlevel
  · exact ⟨BackupService.load_respell hf, RestoreService.load_respell hf,
      Session.ofLayer_respell hf⟩

/-- A backup with words in several spellings. -/
def spelledLayer : Layer :=
  { cluster := some { (OptionGroup.unset : Cluster Given) with authMode := some "pKi" }
    scan := some { (OptionGroup.unset : Scan Given) with
      transfer := { (OptionGroup.unset : Transfer Given) with
        nameSpace := some "test"
        directory := some "/backups" } }
    compression := some { (OptionGroup.unset : Compression Given) with mode := some "zstd" }
    encryption := some { (OptionGroup.unset : Encryption Given) with
      mode := some "Aes256"
      keyFile := some "/key" } }

/-- The words of a layer in small letters, where they were one of two words. -/
def inSmallLetters (_ : Word) (text : String) : String :=
  if text = "pKi" then "pki" else if text = "Aes256" then "aes256" else text

/-- The engine is told the canonical words under both spellings. -/
theorem words_reach_the_engine_canonically_of_backup :
    ∃ s j t, (BackupService.load .builtIn BackupService.silentResolver spelledLayer).result = .ok s ∧
      s.job BackupService.smallMachine = .ok j ∧ j.cluster.authMode = some "PKI" ∧
      j.scan.encryptionPolicy.map (·.mode) = some "AES256" ∧ j.Canonical ∧
      (BackupService.load .builtIn BackupService.silentResolver
        (spelledLayer.respell inSmallLetters)).result = .ok t ∧
      t.job BackupService.smallMachine = .ok j := by
  have hrun : (BackupService.accepted spelledLayer).any (fun run =>
      run.2.cluster.authMode == some "PKI" &&
        run.2.scan.encryptionPolicy.map (·.mode) == some "AES256") = true := by
    decide +kernel
  obtain ⟨⟨s, j⟩, haccepted, hrun⟩ := (Option.any_eq_true ..).1 hrun
  obtain ⟨hauth, hmode⟩ := Bool.and_eq_true_iff.1 hrun
  obtain ⟨hload, hjob⟩ := BackupService.of_accepted_eq_some haccepted
  obtain ⟨hbackup, -, -, hspelling⟩ := words_reach_the_engine_canonically .builtIn
    BackupService.silentResolver none spelledLayer
  have hletters : KeepsLetters inSmallLetters := by
    intro w text
    unfold inSmallLetters
    split
    · subst text
      decide
    · split
      · subst text
        decide
      · exact eqIgnoringAsciiCase_iff.2 rfl
  obtain ⟨hboth, hjobs⟩ := (hspelling inSmallLetters hletters).1
  obtain ⟨t, ht⟩ := hboth.1 ⟨s, hload⟩
  refine ⟨s, j, t, hload, hjob, beq_iff_eq.1 hauth, beq_iff_eq.1 hmode,
    (hbackup s hload).1 _ j hjob, ht, ?_⟩
  rw [← hjob]
  exact congrFun (hjobs s t hload ht) BackupService.smallMachine

end BackupControl
