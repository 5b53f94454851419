/-
# References to secrets as the values that they stand for

A table of values answers a resolver.  Where it has a value for every reference that a layer sets,
loading the layer is loading the layer with its references replaced: every rule and every choice
of a store looks at the value, never at the reference.
-/
import BackupControl.Proofs.Rules.Backup
import BackupControl.Proofs.Rules.Restore
import BackupControl.Proofs.Service.Resolution

namespace BackupControl

/-! ## Tables -/

/-- The resolver answers with the values of a table, wherever the table has one. -/
def SecretResolver.Follows (resolver : SecretResolver) (table : String → Option String) : Prop :=
  ∀ agent reference value, table reference = some value → resolver agent reference = .ok value

/-- A text, or the value behind it if it is a reference. -/
def replaceReference (table : String → Option String) (text : String) : String :=
  if isSecretReference text then (table text).getD text else text

/-- The layer with its references replaced, in the options that may hold a secret. -/
def Layer.replaceSecrets (table : String → Option String) (l : Layer) : Layer :=
  l.mapSecrets (replaceReference table)

/-- The table has a value for each of some references, and no value of it is a reference in
turn. -/
structure Substitutes (table : String → Option String) (references : List String) : Prop where
  defined : ∀ reference ∈ references, (table reference).isSome
  plain : ∀ reference value, table reference = some value → isSecretReference value = false

variable {table : String → Option String}

/-- A text that is no reference is kept. -/
theorem replaceReference_of_plain {text : String} (h : isSecretReference text = false) :
    replaceReference table text = text :=
  if_neg (Bool.eq_false_iff.1 h)

/-- A reference is replaced by its value. -/
theorem replaceReference_of_eq_some {text value : String} (h : isSecretReference text = true)
    (hvalue : table text = some value) : replaceReference table text = value := by
  rw [replaceReference, if_pos h, hvalue, Option.getD_some]

namespace Substitutes

variable {texts : List String}

/-- A reference among some texts has a value, which is no reference. -/
theorem exists_value (h : Substitutes table (texts.filter isSecretReference)) {text : String}
    (htext : text ∈ texts) (href : isSecretReference text = true) :
    ∃ value, table text = some value ∧ replaceReference table text = value ∧
      isSecretReference value = false := by
  obtain ⟨value, hvalue⟩ :=
    Option.isSome_iff_exists.1 (h.defined text (List.mem_filter.2 ⟨htext, href⟩))
  exact ⟨value, hvalue, replaceReference_of_eq_some href hvalue, h.plain text value hvalue⟩

/-- A resolver that follows the table answers every reference. -/
theorem answers_of_follows (h : Substitutes table (texts.filter isSecretReference))
    {resolver : SecretResolver} (hresolver : resolver.Follows table) (agent : AgentConfig) :
    Answers (some agent) resolver (replaceReference table) texts where
  reference text htext href := by
    obtain ⟨value, hvalue, hreplace, -⟩ := h.exists_value htext href
    rw [hreplace]
    exact ⟨agent, rfl, hresolver agent text value hvalue⟩
  other text _ hplain := replaceReference_of_plain hplain

/-- No reference is left. -/
theorem plain_replaceReference (h : Substitutes table (texts.filter isSecretReference)) :
    ∀ text ∈ texts.map (replaceReference table), isSecretReference text = false := by
  rw [List.forall_mem_map]
  intro text htext
  cases href : isSecretReference text with
  | false => rwa [replaceReference_of_plain href]
  | true =>
    obtain ⟨value, -, hreplace, hplain⟩ := h.exists_value htext href
    rwa [hreplace]

end Substitutes

/-! ## Built-in values -/

/-- No built-in value is a reference. -/
def Defaults.HoldsNoReference (d : Defaults) : Prop :=
  ∀ n ∈ Section.withSecrets, ∀ text ∈ Section.secretTexts (d.get n), isSecretReference text = false

/-- The values that the program starts from hold none. -/
theorem Defaults.builtIn_holdsNoReference : builtIn.HoldsNoReference := by
  have hall : Section.withSecrets.all (fun n =>
      (Section.secretTexts (builtIn.get n)).all fun text => !isSecretReference text) = true := by
    decide +kernel
  intro n hn text htext
  have hsection := List.all_eq_true.1 (List.all_eq_true.1 hall n hn) text htext
  rwa [Bool.not_eq_true'] at hsection

variable {d : Defaults} {l : Layer}

/-! ## Infrastructures -/

namespace Infrastructure

variable {f : String → String}

/-- Settling a layer commutes with a function that keeps the built-in values. -/
theorem ofLayer_mapSecrets
    (hkeep : ∀ n ∈ Section.withSecrets, ∀ text ∈ Section.secretTexts (d.get n), f text = text) :
    ofLayer d (l.mapSecrets f) = (ofLayer d l).mapSecrets f := by
  have hsection {n : Section} (hn : n ∈ Section.withSecrets) :
      settleSection ((l.mapSecrets f).get n) (d.get n) =
        Section.mapSettled f (settleSection (l.get n) (d.get n)) := by
    rw [Layer.get_mapSecrets, Section.settleSection_mapGiven (hkeep n hn)]
  -- the sections without secrets are the same on both sides
  rw [ofLayer, mapSecrets, Infrastructure.mk.injEq]
  exact ⟨hsection (n := .cluster) (by decide), rfl, hsection (n := .encryption) (by decide), rfl,
    hsection (n := .awsS3) (by decide), hsection (n := .gcpStorage) (by decide),
    hsection (n := .azureBlob) (by decide), rfl⟩

/-- Over values without references, those of the infrastructure are those that its layer sets. -/
theorem filter_secretTexts_ofLayer (hplain : d.HoldsNoReference) :
    (ofLayer d l).secretTexts.filter isSecretReference = l.secretReferences := by
  have hsection : ∀ n ∈ Section.withSecrets,
      (((ofLayer d l).get n).toList.flatMap Section.secretTexts).filter isSecretReference =
        ((l.get n).toList.flatMap Section.givenTexts).filter isSecretReference := by
    intro n hn
    obtain ⟨values, hvalues⟩ := exists_get_of_mem_withSecrets (ofLayer d l) hn
    rw [← Section.filter_secretTexts_settleSection (hplain n hn), hvalues, Option.toList_some,
      List.flatMap_singleton, get_ofLayer hvalues]
  rw [secretTexts, Layer.secretReferences, List.filter_flatMap, List.filter_flatMap]
  exact List.flatMap_congr hsection

/-- The infrastructure of a layer with its references replaced has them replaced. -/
theorem ofLayer_replaceSecrets (hplain : d.HoldsNoReference) :
    ofLayer d (l.replaceSecrets table) = (ofLayer d l).mapSecrets (replaceReference table) :=
  ofLayer_mapSecrets fun n hn text htext => replaceReference_of_plain (hplain n hn text htext)

/-- An infrastructure holds what a layer sets over the built-in values, with a function applied
to the options that may hold a secret and to no others. -/
def Holds (f : String → String) (d : Defaults) (l : Layer) (i : Infrastructure) : Prop :=
  ∀ (n : Section) (values : n.Group Settled), i.get n = some values → ∀ s ∈ n.settings,
    s.get values =
      if n.mayHoldSecret s then s.kind.mapText f ((l.value? n s).getD (s.get (d.get n)))
      else (l.value? n s).getD (s.get (d.get n))

/-- The infrastructure of a layer with a function applied to its secrets holds just that. -/
theorem holds_mapSecrets : ((ofLayer d l).mapSecrets f).Holds f d l := by
  intro n values hvalues s hs
  rw [get_mapSecrets] at hvalues
  obtain ⟨settled, hsettled, rfl⟩ := Option.map_eq_some_iff.1 hvalues
  rw [Section.get_mapSettled hs, get_ofLayer hsettled, get_settleSection hs, Layer.value?]

end Infrastructure

/-! ## Layers with an answer for every reference -/

/-- The agent of a layer answers each reference that the layer sets as a table says, over built-in
values without references. -/
structure Layer.AnsweredBy (d : Defaults) (resolver : SecretResolver) (agent : AgentConfig)
    (table : String → Option String) (l : Layer) : Prop where
  plain : d.HoldsNoReference
  values : Substitutes table l.secretReferences
  follows : resolver.Follows table
  agent : (Infrastructure.ofLayer d l).secretAgent.config? = some agent

variable {resolver : SecretResolver} {agent : AgentConfig}

namespace Layer.AnsweredBy

/-- The references of the infrastructure have values. -/
theorem substitutes (h : l.AnsweredBy d resolver agent table) :
    Substitutes table
      ((Infrastructure.ofLayer d l).secretTexts.filter isSecretReference) := by
  rw [Infrastructure.filter_secretTexts_ofLayer h.plain]
  exact h.values

/-- The references of the infrastructure are answered. -/
theorem answers (h : l.AnsweredBy d resolver agent table) :
    Answers (Infrastructure.ofLayer d l).secretAgent.config? resolver (replaceReference table)
      (Infrastructure.ofLayer d l).secretTexts := by
  rw [h.agent]
  exact h.substitutes.answers_of_follows h.follows agent

/-- The references of the layer are looked up in order. -/
theorem lookups_eq (h : l.AnsweredBy d resolver agent table) :
    (Infrastructure.ofLayer d l).lookups resolver =
      l.secretReferences.map fun reference => ⟨agent, reference⟩ := by
  rw [Infrastructure.lookups_of_answers h.agent h.answers,
    Infrastructure.filter_secretTexts_ofLayer h.plain]

/-- Resolving the infrastructure replaces its references. -/
theorem resolve_eq (h : l.AnsweredBy d resolver agent table) :
    (Infrastructure.ofLayer d l).resolve resolver =
      .ok ((Infrastructure.ofLayer d l).mapSecrets (replaceReference table)) :=
  Infrastructure.resolve_of_answers h.answers

/-- Once its references are replaced, any resolver leaves the infrastructure as it is. -/
theorem resolve_replaced (h : l.AnsweredBy d resolver agent table) (other : SecretResolver) :
    ((Infrastructure.ofLayer d l).mapSecrets (replaceReference table)).resolve other =
      .ok ((Infrastructure.ofLayer d l).mapSecrets (replaceReference table)) := by
  refine Infrastructure.resolve_of_plain (fun text htext => ?_) other
  rw [Infrastructure.secretTexts_mapSecrets] at htext
  exact h.substitutes.plain_replaceReference text htext

end Layer.AnsweredBy

/-! ## Backups -/

namespace BackupService

/-- A backup whose resolved infrastructure needs no resolver is completed as with that
infrastructure. -/
theorem complete_of_resolve {resolver other : SecretResolver} {s : BackupService}
    {i : Infrastructure} (h : s.infrastructure.resolve resolver = .ok i)
    (hdone : i.resolve other = .ok i) :
    s.complete resolver = { s with infrastructure := i }.complete other := by
  rw [complete, complete, h, hdone]

/-- The backup of a layer with its references replaced differs in the infrastructure only. -/
theorem ofLayer_replaceSecrets (hplain : d.HoldsNoReference) :
    ofLayer d (l.replaceSecrets table) =
      (ofLayer d l).map fun s =>
        { s with infrastructure := s.infrastructure.mapSecrets (replaceReference table) } := by
  have hscan : (l.replaceSecrets table).scan = l.scan := rfl
  have hfeed : (l.replaceSecrets table).changeFeed = l.changeFeed := rfl
  simp only [ofLayer, Infrastructure.ofLayer_replaceSecrets hplain, hscan, hfeed]
  cases l.changeFeed with
  | none => rfl
  | some feed => cases (l.scan.getD OptionGroup.unset).scanOnly <;> rfl

/-- The backup of a layer is completed with its references replaced. -/
theorem complete_replaced (h : l.AnsweredBy d resolver agent table) {s : BackupService}
    (hs : ofLayer d l = .ok s) (other : SecretResolver) :
    s.complete resolver =
      { s with infrastructure := s.infrastructure.mapSecrets (replaceReference table) }.complete
        other := by
  have hinfrastructure := infrastructure_of_ofLayer hs
  -- the other run finds the values where this one found references, so it has nothing to replace
  apply complete_of_resolve
  · rw [hinfrastructure]
    exact h.resolve_eq
  · rw [hinfrastructure]
    exact h.resolve_replaced other

/-- Loading a layer as a backup is loading the layer with its references replaced. -/
theorem load_replaceSecrets (h : l.AnsweredBy d resolver agent table) (other : SecretResolver) :
    (load d resolver l).result = (load d other (l.replaceSecrets table)).result := by
  unfold load
  rw [ofLayer_replaceSecrets h.plain]
  cases hs : ofLayer d l with
  | error v => rfl
  | ok s => exact complete_replaced h hs other

/-- A backup that was loaded has the options of its layer, with the references replaced. -/
theorem holds_of_load (h : l.AnsweredBy d resolver agent table) {s : BackupService}
    (hload : (load d resolver l).result = .ok s) :
    ∃ settled, ofLayer d l = .ok settled ∧ s.scan = settled.scan ∧
      s.changeFeed = settled.changeFeed ∧
      s.infrastructure.Holds (replaceReference table) d l := by
  obtain ⟨settled, hlayer, hcomplete⟩ := of_load_eq_ok hload
  obtain ⟨hscan, hfeed, hresolve, -⟩ := of_complete_eq_ok hcomplete
  refine ⟨settled, hlayer, hscan, hfeed, ?_⟩
  rw [infrastructure_of_ofLayer hlayer, h.resolve_eq] at hresolve
  rw [← Except.ok.inj hresolve]
  exact Infrastructure.holds_mapSecrets

end BackupService

/-! ## Restores -/

namespace RestoreService

/-- A restore whose resolved infrastructure needs no resolver is completed as with that
infrastructure. -/
theorem complete_of_resolve {resolver other : SecretResolver} {s : RestoreService}
    {i : Infrastructure} (h : s.infrastructure.resolve resolver = .ok i)
    (hdone : i.resolve other = .ok i) :
    s.complete resolver = { s with infrastructure := i }.complete other := by
  rw [complete, complete, h, hdone]

/-- The restore of a layer with its references replaced differs in the infrastructure only. -/
theorem ofLayer_replaceSecrets (hplain : d.HoldsNoReference) :
    ofLayer d (l.replaceSecrets table) =
      { ofLayer d l with
        infrastructure := (Infrastructure.ofLayer d l).mapSecrets (replaceReference table) } := by
  rw [ofLayer, Infrastructure.ofLayer_replaceSecrets hplain]
  rfl

/-- Loading a layer as a restore is loading the layer with its references replaced. -/
theorem load_replaceSecrets (h : l.AnsweredBy d resolver agent table) (other : SecretResolver) :
    (load d resolver l).result = (load d other (l.replaceSecrets table)).result := by
  unfold load
  rw [ofLayer_replaceSecrets h.plain]
  exact complete_of_resolve h.resolve_eq (h.resolve_replaced other)

/-- A restore that was loaded has the options of its layer, with the references replaced. -/
theorem holds_of_load (h : l.AnsweredBy d resolver agent table) {s : RestoreService}
    (hload : (load d resolver l).result = .ok s) :
    s.restore = (ofLayer d l).restore ∧ s.infrastructure.Holds (replaceReference table) d l := by
  obtain ⟨hrestore, hresolve, -⟩ := of_load_eq_ok hload
  refine ⟨hrestore, ?_⟩
  rw [← Except.ok.inj (h.resolve_eq.symm.trans hresolve)]
  exact Infrastructure.holds_mapSecrets

end RestoreService

/-! ## Loading -/

/-- To load a layer with a resolver is to load it with its references replaced as a table says.
Each reference is looked up once, in order, and every other option is passed on as it was set. -/
structure Layer.Substitution (d : Defaults) (resolver : SecretResolver) (agent : AgentConfig)
    (table : String → Option String) (l : Layer) : Prop where
  backup : ∀ other, (BackupService.load d resolver l).result =
    (BackupService.load d other (l.replaceSecrets table)).result
  restore : ∀ other, (RestoreService.load d resolver l).result =
    (RestoreService.load d other (l.replaceSecrets table)).result
  backupLookups : ∀ settled, BackupService.ofLayer d l = .ok settled →
    (BackupService.load d resolver l).lookups =
      l.secretReferences.map fun reference => ⟨agent, reference⟩
  restoreLookups : (RestoreService.load d resolver l).lookups =
    l.secretReferences.map fun reference => ⟨agent, reference⟩
  refused : ∀ v, BackupService.ofLayer d l = .error v →
    (∃ option, v = .unsupportedForChangeFeed option) ∧
      (BackupService.load d resolver l).lookups = []
  backupValues : ∀ s, (BackupService.load d resolver l).result = .ok s →
    ∃ settled, BackupService.ofLayer d l = .ok settled ∧ s.scan = settled.scan ∧
      s.changeFeed = settled.changeFeed ∧
      s.infrastructure.Holds (replaceReference table) d l
  restoreValues : ∀ s, (RestoreService.load d resolver l).result = .ok s →
    s.restore = (RestoreService.ofLayer d l).restore ∧
      s.infrastructure.Holds (replaceReference table) d l

/-- Over built-in values without references, such as those of the program, a table with a value
for every reference of a layer stands in for the resolver and its agent. -/
theorem secrets_are_substituted :
    Defaults.builtIn.HoldsNoReference ∧
    ∀ (d : Defaults) (resolver : SecretResolver) (table : String → Option String) (l : Layer),
      d.HoldsNoReference → resolver.Follows table → Substitutes table l.secretReferences →
      (Infrastructure.ofLayer d l).secretAgent.address ≠ "" →
      ∃ agent, (Infrastructure.ofLayer d l).secretAgent.config? = some agent ∧
        l.Substitution d resolver agent table := by
  refine ⟨Defaults.builtIn_holdsNoReference, ?_⟩
  intro d resolver table l hplain hfollows hvalues haddress
  obtain ⟨agent, hagent⟩ :
      ∃ agent, (Infrastructure.ofLayer d l).secretAgent.config? = some agent :=
    ⟨_, if_neg haddress⟩
  have h : l.AnsweredBy d resolver agent table := ⟨hplain, hvalues, hfollows, hagent⟩
  refine ⟨agent, hagent, ?_⟩
  exact {
    backup := BackupService.load_replaceSecrets h
    restore := RestoreService.load_replaceSecrets h
    backupLookups := by
      intro settled hsettled
      simp only [BackupService.load, hsettled]
      rw [BackupService.infrastructure_of_ofLayer hsettled, h.lookups_eq]
    restoreLookups := h.lookups_eq
    refused := by
      intro v hv
      refine ⟨BackupService.of_ofLayer_eq_error hv, ?_⟩
      simp only [BackupService.load, hv]
    backupValues := fun _ => BackupService.holds_of_load h
    restoreValues := fun _ => RestoreService.holds_of_load h }

/-- A restore whose password is a reference, as is the secret that the engine is to read as a
key. -/
def referringLayer : Layer :=
  { cluster := some { (OptionGroup.unset : Cluster Given) with
      password := some "secrets:cluster:password" }
    encryption := some { (OptionGroup.unset : Encryption Given) with
      mode := some "AES128"
      keySecret := some "secrets:backup:key" }
    secretAgent := some { (OptionGroup.unset : SecretAgent Given) with
      address := some "127.0.0.1" }
    restore := some { (OptionGroup.unset : Restore Given) with
      transfer := { (OptionGroup.unset : Transfer Given) with
        nameSpace := some "test"
        directory := some "/backups" } } }

/-- A table with one value. -/
def passwordTable (reference : String) : Option String :=
  if reference = "secrets:cluster:password" then some "open sesame" else none

/-- A resolver that answers with the values of a table, and knows no others. -/
def SecretResolver.ofTable (table : String → Option String) : SecretResolver :=
  fun _ reference =>
    match table reference with
    | some value => .ok value
    | none => .error (.unknownSecret reference)

/-- A resolver follows the table that it is made of. -/
theorem SecretResolver.ofTable_follows : (ofTable table).Follows table := by
  intro agent reference value hvalue
  rw [ofTable, hvalue]

/-- The password is looked up and replaced, the key is left to the engine. -/
theorem secrets_are_substituted_of_password :
    ∃ agent, referringLayer.Substitution .builtIn (.ofTable passwordTable) agent passwordTable ∧
      ∃ s, (RestoreService.load .builtIn (.ofTable passwordTable) referringLayer).result = .ok s ∧
        s.infrastructure.cluster.password = "open sesame" ∧
        s.infrastructure.encryption.keySecret = "secrets:backup:key" := by
  have hreferences : referringLayer.secretReferences = ["secrets:cluster:password"] := by
    decide +kernel
  have htable : Substitutes passwordTable referringLayer.secretReferences := by
    refine ⟨fun reference href => ?_, fun reference value hvalue => ?_⟩
    · rw [hreferences, List.mem_singleton] at href
      rw [href]
      rfl
    · obtain ⟨-, hvalue⟩ := Option.ite_none_right_eq_some.1 hvalue
      rw [← Option.some.inj hvalue]
      decide +kernel
  obtain ⟨agent, -, hsubstitution⟩ := secrets_are_substituted.2 .builtIn (.ofTable passwordTable)
    passwordTable referringLayer secrets_are_substituted.1 SecretResolver.ofTable_follows htable
    (by decide +kernel)
  refine ⟨agent, hsubstitution, ?_⟩
  have hrun : (RestoreService.load .builtIn (.ofTable passwordTable)
      referringLayer).result.toOption.any (fun s =>
        s.infrastructure.cluster.password == "open sesame" &&
          s.infrastructure.encryption.keySecret == "secrets:backup:key") = true := by
    decide +kernel
  obtain ⟨s, hs, hrun⟩ := (Option.any_eq_true ..).1 hrun
  obtain ⟨hpassword, hkey⟩ := Bool.and_eq_true_iff.1 hrun
  exact ⟨s, toOption_eq_some_iff.1 hs, beq_iff_eq.1 hpassword, beq_iff_eq.1 hkey⟩

end BackupControl
