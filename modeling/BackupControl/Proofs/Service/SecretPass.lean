/-
# One pass over references to secrets

The pass settles value after value, in order: a reference becomes the answer to it, any other value
stays.  It ends with the last value, or breaks off at the first reference that is not answered and
leaves that and whatever follows untouched.  It asks for each reference once, and for nothing that
it was answered.

Main statement: `resolveSecrets_passes_once`.
-/
import BackupControl.Service.Secrets
import Mathlib.Data.List.Forall2

namespace BackupControl

/-- The text is a reference to a secret. -/
def IsReference (text : String) : Prop := ∃ path, text = "secrets:" ++ path

/-- A text begins with the mark just if it is a reference. -/
theorem isSecretReference_iff {text : String} :
    isSecretReference text = true ↔ IsReference text := by
  have hmark : IsReference text ↔ ∃ path, text = secretMark ++ path := Iff.rfl
  rw [hmark, isSecretReference, String.startsWith_string_iff]
  constructor
  · rintro ⟨path, hpath⟩
    refine ⟨String.ofList path, String.toList_inj.1 ?_⟩
    rw [← hpath, String.toList_append, String.toList_ofList]
  · rintro ⟨path, rfl⟩
    exact ⟨path.toList, String.toList_append.symm⟩

section Pass

variable (agent : Option AgentConfig) (resolver : SecretResolver)

/-- What a value is once the pass has gone over it. -/
inductive Resolves : String → String → Prop where
  | plain {value : String} (h : ¬ IsReference value) : Resolves value value
  | answered {a : AgentConfig} {value answer : String} (h : IsReference value)
      (hagent : agent = some a) (hanswer : resolver a value = .ok answer) : Resolves value answer

/-- Why a reference is not answered: there is no agent, or it is refused. -/
inductive Unanswered (reference : String) : Failure → Prop where
  | noAgent (hagent : agent = none) : Unanswered reference .noSecretAgent
  | refused {a : AgentConfig} {cause : Failure} (hagent : agent = some a)
      (hanswer : resolver a reference = .error cause) : Unanswered reference cause

/-- The pass goes over all values. -/
structure Finishes (fields : List (String × String)) (r : Resolution) : Prop where
  settled : List.Forall₂ (Resolves agent resolver) (fields.map (·.2)) r.values
  lookups : r.lookups = (fields.map (·.2)).filter isSecretReference
  failure : r.failure = none

/-- The pass breaks off at a reference behind the fields that it has settled. -/
structure BreaksOff (before after : List (String × String)) (name reference : String)
    (r : Resolution) : Prop where
  isReference : IsReference reference
  values : ∃ settled, List.Forall₂ (Resolves agent resolver) (before.map (·.2)) settled ∧
    r.values = settled ++ reference :: after.map (·.2)
  lookups : ∀ a, agent = some a →
    r.lookups = (before.map (·.2)).filter isSecretReference ++ [reference]
  noLookups : agent = none → r.lookups = []
  failure : ∃ cause, Unanswered agent resolver reference cause ∧
    r.failure = some (.during (.resolving name) cause)

end Pass

variable {agent : Option AgentConfig} {resolver : SecretResolver}

/-! ## One value -/

/-- A value is settled, or it is a reference that is not answered. -/
theorem resolves_or_unanswered (agent : Option AgentConfig) (resolver : SecretResolver)
    (value : String) :
    (∃ after, Resolves agent resolver value after) ∨
      IsReference value ∧ ∃ cause, Unanswered agent resolver value cause := by
  by_cases hreference : IsReference value
  · cases hagent : agent with
    | none => exact .inr ⟨hreference, .noSecretAgent, .noAgent rfl⟩
    | some a =>
      cases hanswer : resolver a value with
      | ok answer => exact .inl ⟨answer, .answered hreference rfl hanswer⟩
      | error cause => exact .inr ⟨hreference, cause, .refused rfl hanswer⟩
  · exact .inl ⟨value, .plain hreference⟩

/-- A value that is settled is looked up if it is a reference, before those behind it. -/
theorem resolveSecrets_cons_of_resolves {name value after : String}
    (h : Resolves agent resolver value after) (rest : List (String × String)) :
    resolveSecrets agent resolver ((name, value) :: rest) =
      ⟨after :: (resolveSecrets agent resolver rest).values,
        [value].filter isSecretReference ++ (resolveSecrets agent resolver rest).lookups,
        (resolveSecrets agent resolver rest).failure⟩ := by
  cases h with
  | plain h =>
    rw [← isSecretReference_iff] at h
    simp only [resolveSecrets, if_neg h, List.filter_cons_of_neg h]
    rfl
  | answered h hagent hanswer =>
    rw [← isSecretReference_iff] at h
    subst hagent
    simp only [resolveSecrets, if_pos h, hanswer, List.filter_cons_of_pos h]
    rfl

/-- A reference that is not answered ends the pass, and is looked up if there is an agent. -/
theorem resolveSecrets_cons_of_unanswered {name reference : String} {cause : Failure}
    (hreference : IsReference reference) (h : Unanswered agent resolver reference cause)
    (rest : List (String × String)) :
    resolveSecrets agent resolver ((name, reference) :: rest) =
      ⟨reference :: rest.map (·.2), agent.toList.map fun _ => reference,
        some (.during (.resolving name) cause)⟩ := by
  rw [← isSecretReference_iff] at hreference
  cases h with
  | noAgent hagent =>
    subst hagent
    simp only [resolveSecrets, if_pos hreference]
    rfl
  | refused hagent hanswer =>
    subst hagent
    simp only [resolveSecrets, if_pos hreference, hanswer]
    rfl

/-! ## All values -/

/-- What stands behind fields that are settled is passed over as if it stood alone. -/
theorem resolveSecrets_append_of_resolves {before : List (String × String)}
    {settled : List String}
    (h : List.Forall₂ (Resolves agent resolver) (before.map (·.2)) settled)
    (rest : List (String × String)) :
    resolveSecrets agent resolver (before ++ rest) =
      ⟨settled ++ (resolveSecrets agent resolver rest).values,
        (before.map (·.2)).filter isSecretReference ++
          (resolveSecrets agent resolver rest).lookups,
        (resolveSecrets agent resolver rest).failure⟩ := by
  induction before generalizing settled with
  | nil =>
    cases h
    rfl
  | cons field before ih =>
    obtain ⟨name, value⟩ := field
    cases h with
    | cons hvalue hrest =>
      rw [List.cons_append, resolveSecrets_cons_of_resolves hvalue, ih hrest]
      simp only [← List.append_assoc, ← List.filter_append]
      rfl

/-- Either all fields are settled, or there is a first that is not. -/
theorem all_resolve_or_first_unanswered (agent : Option AgentConfig) (resolver : SecretResolver)
    (fields : List (String × String)) :
    (∃ settled, List.Forall₂ (Resolves agent resolver) (fields.map (·.2)) settled) ∨
      ∃ before after name reference settled cause,
        fields = before ++ (name, reference) :: after ∧
        List.Forall₂ (Resolves agent resolver) (before.map (·.2)) settled ∧
        IsReference reference ∧ Unanswered agent resolver reference cause := by
  induction fields with
  | nil => exact .inl ⟨[], .nil⟩
  | cons field rest ih =>
    obtain ⟨name, value⟩ := field
    rcases resolves_or_unanswered agent resolver value with
      ⟨answer, hvalue⟩ | ⟨hvalue, cause, hcause⟩
    · rcases ih with
        ⟨settled, hrest⟩ | ⟨before, after, name', reference, settled, cause, rfl, hrest, hcause⟩
      · exact .inl ⟨answer :: settled, .cons hvalue hrest⟩
      · exact .inr ⟨(name, value) :: before, after, name', reference, answer :: settled, cause, rfl,
          .cons hvalue hrest, hcause⟩
    · exact .inr ⟨[], rest, name, value, [], cause, rfl, .nil, hvalue, hcause⟩

/-- A pass over fields that are settled finishes. -/
theorem finishes_of_resolves {fields : List (String × String)} {settled : List String}
    (h : List.Forall₂ (Resolves agent resolver) (fields.map (·.2)) settled) :
    resolveSecrets agent resolver fields =
      ⟨settled, (fields.map (·.2)).filter isSecretReference, none⟩ := by
  have hrun := resolveSecrets_append_of_resolves h []
  rw [List.append_nil] at hrun
  rw [hrun]
  simp only [resolveSecrets, List.append_nil]

/-- Without an agent, nothing that is resolved is a reference. -/
theorem filter_of_no_agent {values settled : List String}
    (h : List.Forall₂ (Resolves none resolver) values settled) :
    values.filter isSecretReference = [] := by
  induction h with
  | nil => rfl
  | cons hvalue _ ih =>
    cases hvalue with
    | plain hplain => rw [List.filter_cons_of_neg (mt isSecretReference_iff.1 hplain), ih]
    | answered _ hagent => exact absurd hagent nofun

/-- A pass breaks off at the first reference that is not answered. -/
theorem breaksOff_of_unanswered {before after : List (String × String)} {name reference : String}
    {settled : List String} {cause : Failure}
    (h : List.Forall₂ (Resolves agent resolver) (before.map (·.2)) settled)
    (hreference : IsReference reference) (hcause : Unanswered agent resolver reference cause) :
    resolveSecrets agent resolver (before ++ (name, reference) :: after) =
      ⟨settled ++ reference :: after.map (·.2),
        (before.map (·.2)).filter isSecretReference ++ agent.toList.map fun _ => reference,
        some (.during (.resolving name) cause)⟩ := by
  rw [resolveSecrets_append_of_resolves h, resolveSecrets_cons_of_unanswered hreference hcause]

/-- What a pass leaves behind is that of one that finishes, or of one that breaks off. -/
theorem resolveSecrets_eq_iff {fields : List (String × String)} {r : Resolution} :
    resolveSecrets agent resolver fields = r ↔
      Finishes agent resolver fields r ∨
        ∃ before after name reference, fields = before ++ (name, reference) :: after ∧
          BreaksOff agent resolver before after name reference r := by
  constructor
  · rintro rfl
    rcases all_resolve_or_first_unanswered agent resolver fields with
      ⟨settled, hsettled⟩ | ⟨before, after, name, reference, settled, cause, rfl, hsettled,
        hreference, hcause⟩
    · rw [finishes_of_resolves hsettled]
      exact .inl ⟨hsettled, rfl, rfl⟩
    · rw [breaksOff_of_unanswered hsettled hreference hcause]
      refine .inr ⟨before, after, name, reference, rfl, hreference, ⟨settled, hsettled, rfl⟩, ?_,
        ?_, cause, hcause, rfl⟩
      · rintro a rfl
        rfl
      · rintro rfl
        rw [filter_of_no_agent hsettled]
        rfl
  · rintro (⟨hsettled, hlookups, hfailure⟩ | ⟨before, after, name, reference, rfl, hreference,
      ⟨settled, hsettled, hvalues⟩, hlookups, hnone, cause, hcause, hfailure⟩)
    · rw [finishes_of_resolves hsettled, ← hlookups, ← hfailure]
    · rw [breaksOff_of_unanswered hsettled hreference hcause, ← hvalues, ← hfailure]
      cases agent with
      | none =>
        rw [filter_of_no_agent hsettled, Option.toList_none, List.map_nil, List.append_nil,
          ← hnone rfl]
      | some a => rw [Option.toList_some, List.map_singleton, ← hlookups a rfl]

/-- A resolver that answers what is looked up as another does leaves the same behind. -/
theorem resolveSecrets_congr {resolver' : SecretResolver} {fields : List (String × String)}
    (h : ∀ a, agent = some a → ∀ reference ∈ (resolveSecrets agent resolver fields).lookups,
      resolver' a reference = resolver a reference) :
    resolveSecrets agent resolver' fields = resolveSecrets agent resolver fields := by
  induction fields with
  | nil => rfl
  | cons field rest ih =>
    obtain ⟨name, value⟩ := field
    rcases resolves_or_unanswered agent resolver value with
      ⟨after, hvalue⟩ | ⟨hreference, cause, hcause⟩
    · rw [resolveSecrets_cons_of_resolves hvalue] at h ⊢
      have hvalue' : Resolves agent resolver' value after := by
        cases hvalue with
        | plain hplain => exact .plain hplain
        | answered hreference hagent hanswer =>
          refine .answered hreference hagent ?_
          rw [h _ hagent value, hanswer]
          rw [List.filter_cons_of_pos (isSecretReference_iff.2 hreference)]
          exact List.mem_cons_self
      rw [resolveSecrets_cons_of_resolves hvalue',
        ih fun a hagent reference hlookup => h a hagent reference (List.mem_append_right _ hlookup)]
    · rw [resolveSecrets_cons_of_unanswered hreference hcause] at h ⊢
      have hcause' : Unanswered agent resolver' value cause := by
        cases hcause with
        | noAgent hagent => exact .noAgent hagent
        | refused hagent hanswer =>
          refine .refused hagent ?_
          rw [h _ hagent value, hanswer]
          rw [hagent]
          exact List.mem_cons_self
      rw [resolveSecrets_cons_of_unanswered hreference hcause']

/-- **References are resolved in one pass, which stops cleanly.**

* A value is a reference just if it begins with the mark.
* The pass goes over all values, or breaks off at the first reference that is not answered: these
  two tell what it leaves behind, and leave nothing else open.
* The failure names the field of that reference.
* Only the answers to what was looked up matter, so no answer is looked up in turn. -/
theorem resolveSecrets_passes_once :
    (∀ value, isSecretReference value = true ↔ IsReference value) ∧
    (∀ agent resolver fields r, resolveSecrets agent resolver fields = r ↔
      Finishes agent resolver fields r ∨
        ∃ before after name reference, fields = before ++ (name, reference) :: after ∧
          BreaksOff agent resolver before after name reference r) ∧
    (∀ name cause, (Failure.during (.resolving name) cause).chain =
      ("failed to resolve " ++ name) :: cause.chain) ∧
    ∀ agent resolver resolver' fields,
      (∀ a, agent = some a → ∀ reference ∈ (resolveSecrets agent resolver fields).lookups,
        resolver' a reference = resolver a reference) →
      resolveSecrets agent resolver' fields = resolveSecrets agent resolver fields :=
  ⟨fun _ => isSecretReference_iff, fun _ _ _ _ => resolveSecrets_eq_iff, fun _ _ => rfl,
    fun _ _ _ _ => resolveSecrets_congr⟩

end BackupControl
