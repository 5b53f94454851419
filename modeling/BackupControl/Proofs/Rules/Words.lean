/-
# Words in their canonical spelling

Modes, levels and kinds of connections are words from short lists.  The rules compare them
without regard to the case of the letters A to Z, and the engine is given them in one case.  A
word that meets its rule is spelled in ASCII, so the engine is given the word of the list, and
how it was spelled decides neither the rule nor what the engine is given.
-/
import BackupControl.Job.Policies
import BackupControl.Proofs.Rules.Check
import BackupControl.Proofs.Text.CaseMapping
import BackupControl.Service.Infrastructure

namespace BackupControl

/-! ## Lists of words -/

/-- The words are ASCII, in the case that a mapping gives them. -/
def WrittenIn (toCase : String → String) (words : List String) : Prop :=
  ∀ w ∈ words, IsAscii w ∧ toCase w = w

/-- ASCII words are in upper case if their letters are. -/
theorem writtenIn_upperCase {words : List String}
    (h : ∀ w ∈ words, IsAscii w ∧ String.ofList (w.toList.map Char.toUpper) = w) :
    WrittenIn upperCase words := by
  intro w hw
  obtain ⟨hascii, hupper⟩ := h w hw
  exact ⟨hascii, (upperCase_of_isAscii hascii).trans hupper⟩

/-- ASCII words are in lower case if their letters are. -/
theorem writtenIn_lowerCase {words : List String}
    (h : ∀ w ∈ words, IsAscii w ∧ String.ofList (w.toList.map Char.toLower) = w) :
    WrittenIn lowerCase words := by
  intro w hw
  obtain ⟨hascii, hlower⟩ := h w hw
  exact ⟨hascii, (lowerCase_of_isAscii hascii).trans hlower⟩

/-- Methods of compression are given to the engine in upper case, as they are listed. -/
theorem compressionModes_writtenIn : WrittenIn upperCase compressionModes :=
  writtenIn_upperCase (by decide)

/-- So are methods of encryption. -/
theorem encryptionModes_writtenIn : WrittenIn upperCase encryptionModes :=
  writtenIn_upperCase (by decide)

/-- So are authentication modes. -/
theorem authModes_writtenIn : WrittenIn upperCase authModes := writtenIn_upperCase (by decide)

/-- Kinds of connection are given to the engine in lower case, as they are listed. -/
theorem connectionTypes_writtenIn : WrittenIn lowerCase connectionTypes :=
  writtenIn_lowerCase (by decide)

/-- So are log levels to the log. -/
theorem logLevels_writtenIn : WrittenIn lowerCase logLevels := writtenIn_lowerCase (by decide)

section Words

variable {toCase : String → String} {words : List String} {s s' : String}

/-- A text is one of some words just if it agrees with one of them. -/
theorem isOneOf_iff : isOneOf words s = true ↔ ∃ w ∈ words, eqIgnoringAsciiCase s w = true := by
  simp only [isOneOf, List.any_eq_true, eqIgnoringAsciiCase_comm s]

/-- Which of two texts that agree is given, does not matter to a list of words. -/
theorem isOneOf_congr (h : eqIgnoringAsciiCase s' s = true) :
    isOneOf words s' = isOneOf words s := by
  simp only [isOneOf, eqIgnoringAsciiCase_congr h]

/-- What is one of some words is an ASCII text. -/
theorem WrittenIn.isAscii (hwords : WrittenIn toCase words) (h : isOneOf words s = true) :
    IsAscii s := by
  obtain ⟨w, hw, hagree⟩ := isOneOf_iff.1 h
  exact (hwords w hw).1.of_eqIgnoringAsciiCase hagree

/-- What is empty or one of some words is an ASCII text. -/
theorem WrittenIn.isAscii_of_optional (hwords : WrittenIn toCase words)
    (h : s ≠ "" → isOneOf words s = true) : IsAscii s := by
  by_cases hempty : s = ""
  · rw [hempty]
    exact nofun
  · exact hwords.isAscii (h hempty)

/-- What is one of some words is written like that word. -/
theorem WrittenIn.mem (hwords : WrittenIn toCase words) (hcase : KeepsAgreement toCase)
    (h : isOneOf words s = true) : toCase s ∈ words := by
  obtain ⟨w, hw, hagree⟩ := isOneOf_iff.1 h
  obtain ⟨hascii, hwritten⟩ := hwords w hw
  rwa [hcase s w hascii hagree, hwritten]

/-- An ASCII text that is given in one case, unless it is empty, is given alike in another
spelling. -/
theorem KeepsAgreement.map_nonEmpty? (hcase : KeepsAgreement toCase) (hs : IsAscii s)
    (h : eqIgnoringAsciiCase s' s = true) :
    (nonEmpty? s').map toCase = (nonEmpty? s).map toCase := by
  have hempty := eq_empty_iff_of_eqIgnoringAsciiCase h
  unfold nonEmpty?
  split
  · rename_i hs'
    rw [if_pos (hempty.1 hs')]
  · rename_i hs'
    have hset : s ≠ "" := mt hempty.2 hs'
    rw [if_neg hset, Option.map_some, Option.map_some, hcase s' s hs h]

end Words

/-! ## Modes -/

section Modes

variable {what mode mode' : String} {known : List String}

/-- A mode is accepted just if it is empty or known. -/
theorem checkMode_eq_ok_iff :
    checkMode what known mode = .ok () ↔ mode ≠ "" → isOneOf known mode = true := by
  rw [checkMode, refuseIf_eq_ok_iff, not_and, Bool.not_eq_false]

/-- Of two modes that agree, both ask for nothing or neither does. -/
theorem isNoneMode_congr (h : eqIgnoringAsciiCase mode' mode = true) :
    isNoneMode mode' = isNoneMode mode := by
  rw [isNoneMode, isNoneMode, beq_empty_congr h, eqIgnoringAsciiCase_comm mode',
    eqIgnoringAsciiCase_congr h, eqIgnoringAsciiCase_comm]

/-- A known mode that asks for something is written like one of the words behind that for
nothing. -/
theorem upperCase_mem_of_asks (hknown : WrittenIn upperCase (noneWord :: known))
    (hasks : isNoneMode mode = false) (h : mode ≠ "" → isOneOf (noneWord :: known) mode = true) :
    upperCase mode ∈ known := by
  have hset : mode ≠ "" := by
    rintro rfl
    exact absurd hasks (by decide)
  have hone := h hset
  have hword : eqIgnoringAsciiCase noneWord mode = false := by
    rw [eqIgnoringAsciiCase_comm]
    exact (Bool.or_eq_false_iff.1 hasks).2
  rw [isOneOf, List.any_cons, hword, Bool.false_or] at hone
  exact WrittenIn.mem (List.forall_mem_cons.1 hknown).2 upperCase_keepsAgreement hone

end Modes

/-! ## Compression -/

/-- The engine is asked for the one method of compression that there is. -/
def CompressionPolicy.Canonical (p : CompressionPolicy) : Prop := p.mode = "ZSTD"

namespace Compression

variable {g : Compression Settled} {mode : String}

/-- Compression that is accepted asks for its method under the canonical word. -/
theorem canonical_of_check (h : g.check = .ok ()) {p : CompressionPolicy}
    (hp : g.policy? = some p) : p.Canonical := by
  unfold policy? at hp
  split at hp
  · exact absurd hp nofun
  · rename_i hnone
    obtain rfl := Option.some.inj hp
    exact List.mem_singleton.1 (upperCase_mem_of_asks compressionModes_writtenIn
      (Bool.eq_false_iff.2 hnone) (checkMode_eq_ok_iff.1 h))

/-- A mode that compression accepts is spelled in ASCII. -/
theorem isAscii_of_check (h : g.check = .ok ()) : IsAscii g.mode :=
  compressionModes_writtenIn.isAscii_of_optional (checkMode_eq_ok_iff.1 h)

/-- Another spelling of the mode is accepted as well. -/
theorem check_respelled (hmode : eqIgnoringAsciiCase mode g.mode = true) :
    { g with mode := mode }.check = .ok () ↔ g.check = .ok () := by
  simp only [check, checkMode_eq_ok_iff, ne_eq, eq_empty_iff_of_eqIgnoringAsciiCase hmode,
    isOneOf_congr hmode]

/-- Another spelling of the mode asks for the same. -/
theorem policy?_respelled (h : g.check = .ok ()) (hmode : eqIgnoringAsciiCase mode g.mode = true) :
    { g with mode := mode }.policy? = g.policy? := by
  unfold policy?
  dsimp only
  rw [isNoneMode_congr hmode]
  split
  · rfl
  · rw [upperCase_keepsAgreement mode g.mode (isAscii_of_check h) hmode]

end Compression

/-! ## Encryption -/

/-- The engine is asked for one of the methods of encryption, with one place for the key. -/
structure EncryptionPolicy.Canonical (p : EncryptionPolicy) : Prop where
  mode : p.mode = "AES128" ∨ p.mode = "AES256"
  key : ([p.keyFile, p.keyEnv, p.keySecret].filter (·.isSome)).length = 1

namespace Encryption

variable {g : Encryption Settled} {mode : String}

/-- The options of encryption that are accepted. -/
theorem check_eq_ok_iff : g.check = .ok () ↔
    (g.mode ≠ "" → isOneOf encryptionModes g.mode = true) ∧
      (isNoneMode g.mode = false → g.keySources.length = 1) := by
  simp only [check, check_bind_eq_ok_iff, checkMode_eq_ok_iff, ite_pure_eq_ok_iff,
    refuseIf_eq_ok_iff, Bool.not_eq_true', Nat.not_lt]
  refine and_congr_right' (forall_congr' fun _ => ?_)
  omega

/-- The places of the key that the engine is told of are those that are set. -/
theorem length_keySources (g : Encryption Settled) :
    ([nonEmpty? g.keyFile, nonEmpty? g.keyEnv, nonEmpty? g.keySecret].filter (·.isSome)).length =
      g.keySources.length := by
  have hsome : (fun s => (nonEmpty? s).isSome) = fun s : String => s != "" := by
    funext s
    by_cases hs : s = ""
    · rw [nonEmpty?, if_pos hs, hs]
      rfl
    · rw [nonEmpty?, if_neg hs, bne_iff_ne.2 hs]
      rfl
  have hmap : [nonEmpty? g.keyFile, nonEmpty? g.keyEnv, nonEmpty? g.keySecret] =
      [g.keyFile, g.keyEnv, g.keySecret].map nonEmpty? := rfl
  rw [hmap, List.filter_map, List.length_map, Function.comp_def, hsome, keySources]

/-- Encryption that is accepted asks for its method under the canonical word, with one key. -/
theorem canonical_of_check (h : g.check = .ok ()) {p : EncryptionPolicy}
    (hp : g.policy? = some p) : p.Canonical := by
  obtain ⟨hmode, hkey⟩ := check_eq_ok_iff.1 h
  unfold policy? at hp
  split at hp
  · exact absurd hp nofun
  · rename_i hnone
    obtain rfl := Option.some.inj hp
    have hnone := Bool.eq_false_iff.2 hnone
    have hmem := upperCase_mem_of_asks encryptionModes_writtenIn hnone hmode
    exact ⟨List.mem_pair.1 hmem, (length_keySources g).trans (hkey hnone)⟩

/-- A mode that encryption accepts is spelled in ASCII. -/
theorem isAscii_of_check (h : g.check = .ok ()) : IsAscii g.mode :=
  encryptionModes_writtenIn.isAscii_of_optional (check_eq_ok_iff.1 h).1

/-- Another spelling of the mode is accepted as well. -/
theorem check_respelled (hmode : eqIgnoringAsciiCase mode g.mode = true) :
    { g with mode := mode }.check = .ok () ↔ g.check = .ok () := by
  simp only [check_eq_ok_iff, ne_eq, eq_empty_iff_of_eqIgnoringAsciiCase hmode,
    isOneOf_congr hmode, isNoneMode_congr hmode]
  rfl

/-- Another spelling of the mode asks for the same. -/
theorem policy?_respelled (h : g.check = .ok ()) (hmode : eqIgnoringAsciiCase mode g.mode = true) :
    { g with mode := mode }.policy? = g.policy? := by
  unfold policy?
  dsimp only
  rw [isNoneMode_congr hmode]
  split
  · rfl
  · rw [upperCase_keepsAgreement mode g.mode (isAscii_of_check h) hmode]

end Encryption

/-! ## The secret agent -/

/-- The engine is told one of the kinds of connection to the agent. -/
def AgentConfig.Canonical (a : AgentConfig) : Prop :=
  a.connectionType = some "tcp" ∨ a.connectionType = some "uds"

namespace SecretAgent

variable {g : SecretAgent Settled} {text : String}

/-- The options of the agent that are accepted. -/
theorem check_eq_ok_iff : g.check = .ok () ↔
    g.connectionType ≠ "" ∧ isOneOf connectionTypes g.connectionType = true := by
  simp only [check, check_bind_eq_ok_iff, refuseIf_eq_ok_iff, Bool.not_eq_false, ne_eq]

/-- An agent that is accepted is reached in one of the ways under the canonical word. -/
theorem canonical_of_check (h : g.check = .ok ()) {a : AgentConfig} (ha : g.config? = some a) :
    a.Canonical := by
  obtain ⟨hset, hone⟩ := check_eq_ok_iff.1 h
  unfold config? at ha
  split at ha
  · exact absurd ha nofun
  · obtain rfl := Option.some.inj ha
    have hmem := connectionTypes_writtenIn.mem lowerCase_keepsAgreement hone
    have htype : (nonEmpty? g.connectionType).map lowerCase = some (lowerCase g.connectionType) := by
      rw [nonEmpty?, if_neg hset, Option.map_some]
    exact (List.mem_pair.1 hmem).imp (fun hword => by rw [htype, hword])
      (fun hword => by rw [htype, hword])

/-- A kind of connection that is accepted is spelled in ASCII. -/
theorem isAscii_of_check (h : g.check = .ok ()) : IsAscii g.connectionType :=
  connectionTypes_writtenIn.isAscii (check_eq_ok_iff.1 h).2

/-- Another spelling of the kind is accepted as well. -/
theorem check_respelled (htext : eqIgnoringAsciiCase text g.connectionType = true) :
    { g with connectionType := text }.check = .ok () ↔ g.check = .ok () := by
  simp only [check_eq_ok_iff, ne_eq, eq_empty_iff_of_eqIgnoringAsciiCase htext,
    isOneOf_congr htext]

/-- Another spelling of the kind is the same agent. -/
theorem config?_respelled (h : g.check = .ok ())
    (htext : eqIgnoringAsciiCase text g.connectionType = true) :
    { g with connectionType := text }.config? = g.config? := by
  have htype := lowerCase_keepsAgreement.map_nonEmpty? (isAscii_of_check h) htext
  simp only [config?, htype]

end SecretAgent

/-! ## The cluster -/

/-- The engine is told one of the ways to prove who asks, or none, and the certificate of a secured
connection comes with its key. -/
structure ClusterConfig.Canonical (c : ClusterConfig) : Prop where
  authMode : ∀ word, c.authMode = some word → word ∈ ["INTERNAL", "EXTERNAL", "PKI"]
  certificate : ∀ tls, c.tls = some tls → (tls.certFile.isSome ↔ tls.keyFile.isSome)

namespace Cluster

variable {g : Cluster Settled} {text : String}

/-- The options of the cluster that are accepted. -/
theorem check_eq_ok_iff : g.check = .ok () ↔
    g.host ≠ "" ∧ (g.authMode ≠ "" → isOneOf authModes g.authMode = true) ∧
      (g.tlsCertFile = "" ↔ g.tlsKeyFile = "") := by
  simp only [check, check_bind_eq_ok_iff, refuseIf_eq_ok_iff, not_and, Bool.not_eq_false, ne_eq,
    Classical.not_not]

/-- A cluster that is accepted is reached under the canonical word. -/
theorem canonical_of_check (h : g.check = .ok ()) : g.config.Canonical where
  authMode := by
    intro word hword
    obtain ⟨-, hmode, -⟩ := check_eq_ok_iff.1 h
    obtain ⟨text, htext, rfl⟩ := Option.map_eq_some_iff.1 hword
    obtain ⟨hset, htext⟩ := Option.ite_none_left_eq_some.1 htext
    obtain rfl := Option.some.inj htext
    exact authModes_writtenIn.mem upperCase_keepsAgreement (hmode hset)
  certificate := by
    intro tls htls
    obtain ⟨-, -, hpaired⟩ := check_eq_ok_iff.1 h
    obtain ⟨-, htls⟩ := Option.ite_none_right_eq_some.1 htls
    obtain rfl := Option.some.inj htls
    have hsome (s : String) : (nonEmpty? s).isSome ↔ ¬ s = "" := by
      rw [nonEmpty?]
      split <;> simp [*]
    exact (hsome _).trans ((not_congr hpaired).trans (hsome _).symm)

/-- An authentication mode that is accepted is spelled in ASCII. -/
theorem isAscii_of_check (h : g.check = .ok ()) : IsAscii g.authMode :=
  authModes_writtenIn.isAscii_of_optional (check_eq_ok_iff.1 h).2.1

/-- Another spelling of the mode is accepted as well. -/
theorem check_respelled (htext : eqIgnoringAsciiCase text g.authMode = true) :
    { g with authMode := text }.check = .ok () ↔ g.check = .ok () := by
  simp only [check_eq_ok_iff, ne_eq, eq_empty_iff_of_eqIgnoringAsciiCase htext,
    isOneOf_congr htext]

/-- Another spelling of the mode reaches the cluster in the same way. -/
theorem config_respelled (h : g.check = .ok ())
    (htext : eqIgnoringAsciiCase text g.authMode = true) :
    { g with authMode := text }.config = g.config := by
  have hmode := upperCase_keepsAgreement.map_nonEmpty? (isAscii_of_check h) htext
  simp only [config, hmode]
  rfl

end Cluster

/-! ## The log level -/

namespace App

variable {g : App Settled} {text : String}

/-- The options of the program that are accepted. -/
theorem check_eq_ok_iff : g.check = .ok () ↔
    (g.logLevel ≠ "" → isOneOf logLevels g.logLevel = true) := by
  rw [check, refuseIf_eq_ok_iff, not_and, Bool.not_eq_false]

/-- A log level that is accepted is spelled in ASCII. -/
theorem isAscii_of_check (h : g.check = .ok ()) : IsAscii g.logLevel :=
  logLevels_writtenIn.isAscii_of_optional (check_eq_ok_iff.1 h)

/-- Another spelling of the level is accepted as well. -/
theorem check_respelled (htext : eqIgnoringAsciiCase text g.logLevel = true) :
    { g with logLevel := text }.check = .ok () ↔ g.check = .ok () := by
  simp only [check_eq_ok_iff, ne_eq, eq_empty_iff_of_eqIgnoringAsciiCase htext,
    isOneOf_congr htext]

end App

end BackupControl
