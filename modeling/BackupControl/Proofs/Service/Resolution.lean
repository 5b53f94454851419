/-
# Replacing references to secrets

One pass over named values.  Where the agent answers every reference, the pass is a function of
the texts, applied to each value; it looks up each reference once, in order.  The options that
the pass goes over are those that may hold a secret, and no others.
-/
import BackupControl.Proofs.Options.Secrets
import BackupControl.Proofs.Rules.Check
import BackupControl.Proofs.Service.Sections
import BackupControl.Proofs.Service.SecretPass

namespace BackupControl

/-! ## Passes that fail -/

/-- A pass that fails names the option whose reference could not be replaced. -/
theorem resolving_of_failure {agent : Option AgentConfig} {resolver : SecretResolver}
    {fields : List (String × String)} {failure : Failure}
    (h : (resolveSecrets agent resolver fields).failure = some failure) :
    ∃ name cause, failure = .during (.resolving name) cause := by
  rcases resolveSecrets_eq_iff.1 rfl with hfinishes | ⟨before, after, name, reference, -, hbreaks⟩
  · exact absurd (h.symm.trans hfinishes.failure) nofun
  · obtain ⟨cause, -, hfailure⟩ := hbreaks.failure
    exact ⟨name, cause, Option.some.inj (h.symm.trans hfailure)⟩

/-- An infrastructure that is not resolved names such an option. -/
theorem Infrastructure.resolving_of_resolve_eq_error {resolver : SecretResolver}
    {i : Infrastructure} {failure : Failure} (h : i.resolve resolver = .error failure) :
    ∃ name cause, failure = .during (.resolving name) cause := by
  simp only [resolve] at h
  split at h
  · rename_i hfailure
    obtain rfl := Except.error.inj h
    exact resolving_of_failure hfailure
  · exact absurd h nofun

/-! ## Passes that succeed -/

/-- The resolver answers references as a function of texts does, which keeps other texts. -/
structure Answers (agent : Option AgentConfig) (resolver : SecretResolver) (f : String → String)
    (texts : List String) : Prop where
  reference : ∀ text ∈ texts, isSecretReference text = true →
    ∃ a, agent = some a ∧ resolver a text = .ok (f text)
  other : ∀ text ∈ texts, isSecretReference text = false → f text = text

/-- A text is resolved as the function changes it. -/
theorem Answers.resolves {agent : Option AgentConfig} {resolver : SecretResolver}
    {f : String → String} {texts : List String} (h : Answers agent resolver f texts) {text : String}
    (htext : text ∈ texts) : Resolves agent resolver text (f text) := by
  cases href : isSecretReference text with
  | true =>
    obtain ⟨a, hagent, hanswer⟩ := h.reference text htext href
    exact .answered (isSecretReference_iff.1 href) hagent hanswer
  | false =>
    rw [h.other text htext href]
    exact .plain (mt isSecretReference_iff.2 (Bool.eq_false_iff.1 href))

/-- A pass in which every reference is answered replaces each of them, looking them up in
order. -/
theorem resolveSecrets_of_answers {agent : Option AgentConfig} {resolver : SecretResolver}
    {f : String → String} {fields : List (String × String)}
    (h : Answers agent resolver f (fields.map (·.2))) :
    resolveSecrets agent resolver fields =
      ⟨fields.map fun p => f p.2, (fields.map (·.2)).filter isSecretReference, none⟩ := by
  refine finishes_of_resolves ?_
  rw [List.forall₂_map_left_iff, List.forall₂_map_right_iff, List.forall₂_same]
  exact fun p hp => h.resolves (List.mem_map_of_mem hp)

/-! ## Infrastructures -/

namespace Infrastructure

/-- An infrastructure has its references replaced just if the pass over them ends well. -/
theorem resolve_eq_ok_iff {resolver : SecretResolver} {i j : Infrastructure} :
    i.resolve resolver = .ok j ↔ (i.resolution resolver).failure = none ∧
      SecretField.write secretFields (i.resolution resolver).values i = j := by
  simp only [resolve]
  split
  · rename_i hfailure
    exact ⟨nofun, fun h => absurd (hfailure.symm.trans h.1) nofun⟩
  · rename_i hnone
    exact ⟨fun h => ⟨hnone, Except.ok.inj h⟩, fun h => congrArg _ h.2⟩

/-- The infrastructure with a function applied to the texts that may be references. -/
def mapSecrets (f : String → String) (i : Infrastructure) : Infrastructure :=
  { i with
    cluster := Section.mapSettled (n := .cluster) f i.cluster
    encryption := Section.mapSettled (n := .encryption) f i.encryption
    awsS3 := Section.mapSettled (n := .awsS3) f i.awsS3
    gcpStorage := Section.mapSettled (n := .gcpStorage) f i.gcpStorage
    azureBlob := Section.mapSettled (n := .azureBlob) f i.azureBlob }

/-- The texts of an infrastructure that may be references, in the order of the pass. -/
def secretTexts (i : Infrastructure) : List String :=
  Section.withSecrets.flatMap fun n => (i.get n).toList.flatMap Section.secretTexts

/-- An infrastructure has every section with options that may hold a secret. -/
theorem exists_get_of_mem_withSecrets (i : Infrastructure) {n : Section}
    (hn : n ∈ Section.withSecrets) : ∃ values, i.get n = some values := by
  cases n with
  | cluster | encryption | awsS3 | gcpStorage | azureBlob => exact ⟨_, rfl⟩
  | app | scan | changeFeed | restore | compression | secretAgent | localFiles =>
    exact absurd hn (by decide)

/-- The pass goes over the texts that may be references. -/
theorem map_read_secretFields (i : Infrastructure) :
    (SecretField.read secretFields i).map (·.2) = i.secretTexts :=
  rfl

/-- Writing back changed values changes the texts that may be references, and no other option. -/
theorem write_secretFields (f : String → String) (i : Infrastructure) :
    SecretField.write secretFields ((SecretField.read secretFields i).map fun p => f p.2) i =
      i.mapSecrets f :=
  rfl

variable {f : String → String} {i : Infrastructure}

/-- A section of an infrastructure is changed where it may hold secrets. -/
theorem get_mapSecrets (n : Section) :
    (i.mapSecrets f).get n = (i.get n).map (Section.mapSettled f) := by
  have hnone : (∀ s, n.mayHoldSecret s = false) →
      i.get n = (i.get n).map (Section.mapSettled f) := by
    intro h
    cases i.get n with
    | none => rfl
    | some g => rw [Option.map_some, Section.mapSettled_of_none h]
  cases n with
  | cluster | encryption | awsS3 | gcpStorage | azureBlob => rfl
  | app | scan | changeFeed | restore | compression | secretAgent | localFiles =>
    exact hnone fun s => Bool.and_false _

/-- The texts of an infrastructure that was changed are its texts changed. -/
theorem secretTexts_mapSecrets : (i.mapSecrets f).secretTexts = i.secretTexts.map f := by
  have hsection : ∀ n, ((i.mapSecrets f).get n).toList.flatMap Section.secretTexts =
      ((i.get n).toList.flatMap Section.secretTexts).map f := by
    intro n
    rw [get_mapSecrets]
    cases i.get n with
    | none => rfl
    | some g =>
      rw [Option.map_some, Option.toList_some, Option.toList_some, List.flatMap_singleton,
        List.flatMap_singleton, Section.secretTexts_mapSettled]
  rw [secretTexts, secretTexts, List.map_flatMap]
  exact congrArg (List.flatMap · _) (funext hsection)

/-- A function that keeps the texts that may be references keeps the infrastructure. -/
theorem mapSecrets_eq_self (h : ∀ text ∈ i.secretTexts, f text = text) : i.mapSecrets f = i := by
  have hsection {n : Section} {g : n.Group Settled} (hn : n ∈ Section.withSecrets)
      (hg : i.get n = some g) : Section.mapSettled f g = g := by
    refine Section.mapSettled_eq_self fun text htext => h text ?_
    refine List.mem_flatMap.2 ⟨n, hn, ?_⟩
    rw [hg, Option.toList_some, List.flatMap_singleton]
    exact htext
  rw [mapSecrets, hsection (n := .cluster) (by decide) rfl,
    hsection (n := .encryption) (by decide) rfl, hsection (n := .awsS3) (by decide) rfl,
    hsection (n := .gcpStorage) (by decide) rfl, hsection (n := .azureBlob) (by decide) rfl]

/-- An infrastructure of which every reference is answered has each of them replaced. -/
theorem resolve_of_answers {resolver : SecretResolver}
    (h : Answers i.secretAgent.config? resolver f i.secretTexts) :
    i.resolve resolver = .ok (i.mapSecrets f) := by
  rw [← map_read_secretFields] at h
  rw [resolve, resolution, resolveSecrets_of_answers h, ← write_secretFields]

/-- Its references are looked up in order. -/
theorem lookups_of_answers {resolver : SecretResolver} {agent : AgentConfig}
    (hagent : i.secretAgent.config? = some agent)
    (h : Answers i.secretAgent.config? resolver f i.secretTexts) :
    i.lookups resolver =
      (i.secretTexts.filter isSecretReference).map fun reference => ⟨agent, reference⟩ := by
  rw [← map_read_secretFields] at h ⊢
  rw [lookups, resolution, resolveSecrets_of_answers h, hagent]

/-- An infrastructure without references is kept. -/
theorem resolve_of_plain (h : ∀ text ∈ i.secretTexts, isSecretReference text = false)
    (resolver : SecretResolver) : i.resolve resolver = .ok i := by
  have hanswers : Answers i.secretAgent.config? resolver id i.secretTexts :=
    ⟨fun text htext href => absurd href (Bool.eq_false_iff.1 (h text htext)), fun _ _ _ => rfl⟩
  rw [resolve_of_answers hanswers]
  exact congrArg _ (mapSecrets_eq_self fun _ _ => rfl)

end Infrastructure

end BackupControl
