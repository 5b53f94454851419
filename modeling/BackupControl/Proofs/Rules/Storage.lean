/-
# Which store is chosen

The rules of storage and the choice of a store both look for the stores that count, each in an
order of its own.  Once the rules are met at most one cloud store counts, so the choice no longer
depends on the order in which it is made.
-/
import BackupControl.Proofs.Rules.Check
import BackupControl.Rules.Storage

namespace BackupControl

/-! ## Providers -/

/-- Where a store can be. -/
inductive Provider where
  | localFiles
  | awsS3
  | gcpStorage
  | azureBlob
  deriving DecidableEq, Repr

namespace Provider

/-- The clouds, in the order in which a store is chosen. -/
def clouds : List Provider := [.awsS3, .gcpStorage, .azureBlob]

/-- The providers, in the order of their rules. -/
def all : List Provider := .localFiles :: clouds

/-- The name of a provider in a violation. -/
def name : Provider → String
  | .localFiles => "local storage"
  | .awsS3 => "aws s3"
  | .gcpStorage => "gcp storage"
  | .azureBlob => "azure blob"

/-- Every provider is among all of them. -/
theorem mem_all (p : Provider) : p ∈ all := by
  cases p <;> decide

/-- A provider is the files of this machine or a cloud. -/
theorem mem_clouds_iff (p : Provider) : p ∈ clouds ↔ p ≠ .localFiles := by
  cases p <;> decide

end Provider

/-- Some option that identifies the store is set; the files of this machine need none. -/
def Target.isConfigured : Target → Bool
  | .localFiles _ => true
  | .awsS3 g => g.isConfigured
  | .gcpStorage g => g.isConfigured
  | .azureBlob g => g.isConfigured

/-- What a store must meet, wherever it is. -/
def Target.check (op : Operation) : Target → Check
  | .localFiles g => g.check
  | .awsS3 g => g.check op
  | .gcpStorage g => g.check op
  | .azureBlob g => g.check op

namespace Stores

/-! ## Stores that count -/

/-- The store of a provider, if it counts: the files of this machine whenever their group is
there, a cloud store when it is configured. -/
def counted? (s : Stores) : Provider → Option Target
  | .localFiles => s.localFiles.map .localFiles
  | .awsS3 => s.configuredAwsS3.map .awsS3
  | .gcpStorage => s.configuredGcpStorage.map .gcpStorage
  | .azureBlob => s.configuredAzureBlob.map .azureBlob

/-- The store of a provider whose group is given. -/
def given? (s : Stores) : Provider → Option Target
  | .localFiles => s.localFiles.map .localFiles
  | .awsS3 => s.awsS3.map .awsS3
  | .gcpStorage => s.gcpStorage.map .gcpStorage
  | .azureBlob => s.azureBlob.map .azureBlob

/-- The store of a provider meets its rules, if it counts. -/
def Meets (op : Operation) (s : Stores) (p : Provider) : Prop :=
  ∀ t, s.counted? p = some t → t.check op = .ok ()

/-- At most one cloud store counts. -/
def AtMostOneCloud (s : Stores) : Prop :=
  ∀ p ∈ Provider.clouds, ∀ q ∈ Provider.clouds,
    (s.counted? p).isSome → (s.counted? q).isSome → p = q

/-- Checks the store of a provider, if it counts. -/
def checkProvider (op : Operation) (s : Stores) (p : Provider) : Check :=
  checkStore p.name (Target.check op) (s.counted? p)

/-- The first store that counts when the clouds are tried in an order, or the files of this
machine when none does. -/
def pick (s : Stores) (order : List Provider) : Target :=
  (order.findSome? s.counted?).getD
    ((s.counted? .localFiles).getD (.localFiles OptionGroup.blank))

variable {op : Operation} {s : Stores} {p : Provider}

/-- The stores that count are those of the groups that are given, as far as they are configured. -/
theorem counted?_eq (s : Stores) (p : Provider) :
    s.counted? p = (s.given? p).filter (·.isConfigured) := by
  cases p with
  | localFiles =>
    unfold counted? given?
    cases s.localFiles <;> rfl
  | awsS3 | gcpStorage | azureBlob =>
    unfold counted? given?
    rw [Option.filter_map]
    rfl

/-- The store of a provider counts just if its group is given and it is configured, and then it
is that of the group. -/
theorem counted?_eq_some_iff {t : Target} :
    s.counted? p = some t ↔ s.given? p = some t ∧ t.isConfigured = true := by
  rw [counted?_eq, Option.filter_eq_some_iff]

/-- A check of a store is the check of what it is made into. -/
theorem checkStore_map {α β : Type} (provider : String) (check : β → Check) (f : α → β)
    (store : Option α) :
    checkStore provider check (store.map f) = checkStore provider (fun a => check (f a)) store := by
  cases store <;> rfl

/-- The rules of storage go through the providers, and count the clouds at last. -/
theorem check_eq_forM (op : Operation) (s : Stores) :
    s.check op =
      forM Provider.all (s.checkProvider op) >>= fun _ =>
        refuseIf (1 < s.configuredCount) .multipleCloudProviders := by
  have hlocal := checkStore_map "local storage" (Target.check op) .localFiles s.localFiles
  have hs3 := checkStore_map "aws s3" (Target.check op) .awsS3 s.configuredAwsS3
  have hgcp := checkStore_map "gcp storage" (Target.check op) .gcpStorage s.configuredGcpStorage
  have hazure := checkStore_map "azure blob" (Target.check op) .azureBlob s.configuredAzureBlob
  simp only [Target.check] at hlocal hs3 hgcp hazure
  simp only [check, Provider.all, Provider.clouds, List.forM_cons, List.forM_nil, bind_assoc,
    pure_bind, checkProvider, Provider.name, counted?, hlocal, hs3, hgcp, hazure]

/-- The store of a provider passes just if it meets its rules. -/
theorem checkProvider_eq_ok_iff : s.checkProvider op p = .ok () ↔ s.Meets op p := by
  rw [checkProvider, checkStore, mapError_eq_ok_iff, checkOption_eq_ok_iff, Meets]

/-- The store of a provider is refused under the name of the provider. -/
theorem checkProvider_eq_error_iff {v : Violation} :
    s.checkProvider op p = .error v ↔
      ∃ t w, s.counted? p = some t ∧ t.check op = .error w ∧ v = .storage p.name w := by
  rw [checkProvider, checkStore, mapError_eq_error_iff]
  simp only [checkOption_eq_error_iff]
  constructor
  · rintro ⟨w, ⟨t, hcounted, hcheck⟩, rfl⟩
    exact ⟨t, w, hcounted, hcheck, rfl⟩
  · rintro ⟨t, w, hcounted, hcheck, rfl⟩
    exact ⟨w, ⟨t, hcounted, hcheck⟩, rfl⟩

/-- The cloud stores that are configured are those that count. -/
theorem configuredCount_eq (s : Stores) :
    s.configuredCount = (Provider.clouds.filterMap s.counted?).length := by
  unfold configuredCount
  simp only [Provider.clouds, List.filterMap, counted?]
  cases s.configuredAwsS3 <;> cases s.configuredGcpStorage <;> cases s.configuredAzureBlob <;> rfl

/-- More than one cloud store is configured just if two of them count. -/
theorem one_lt_configuredCount_iff (s : Stores) :
    1 < s.configuredCount ↔ ¬ s.AtMostOneCloud := by
  unfold configuredCount AtMostOneCloud
  simp only [Provider.clouds, List.forall_mem_cons, List.not_mem_nil, counted?]
  cases s.configuredAwsS3 <;> cases s.configuredGcpStorage <;> cases s.configuredAzureBlob <;>
    simp

/-- The files of this machine are chosen with the options of their group, if it is there. -/
theorem getD_counted?_localFiles (s : Stores) :
    (s.counted? .localFiles).getD (.localFiles OptionGroup.blank) =
      .localFiles (s.localFiles.getD OptionGroup.blank) := by
  unfold counted?
  cases s.localFiles <;> rfl

/-- The store that is chosen is the first cloud store that counts. -/
theorem target_eq_pick (s : Stores) : s.target = s.pick Provider.clouds := by
  unfold target pick
  rw [getD_counted?_localFiles]
  simp only [Provider.clouds, List.findSome?, counted?]
  cases s.configuredAwsS3 <;> cases s.configuredGcpStorage <;> cases s.configuredAzureBlob <;> rfl

/-- A cloud store is not the files of this machine. -/
theorem ne_localFiles_of_counted? {t : Target} (hp : p ∈ Provider.clouds)
    (hcounted : s.counted? p = some t) (g : LocalFiles Settled) : t ≠ .localFiles g := by
  rintro rfl
  cases p with
  | localFiles => exact (Provider.mem_clouds_iff _).1 hp rfl
  | awsS3 | gcpStorage | azureBlob =>
    obtain ⟨_, _, h⟩ := Option.map_eq_some_iff.1 hcounted
    exact absurd h nofun

/-! ## Rules -/

/-- The stores that are accepted. -/
theorem check_eq_ok_iff (op : Operation) (s : Stores) :
    s.check op = .ok () ↔ (∀ p, s.Meets op p) ∧ s.AtMostOneCloud := by
  rw [check_eq_forM, check_bind_eq_ok_iff, forM_check_eq_ok_iff, refuseIf_eq_ok_iff,
    one_lt_configuredCount_iff, not_not]
  exact and_congr_left' ⟨fun h p => checkProvider_eq_ok_iff.1 (h p p.mem_all),
    fun h p _ => checkProvider_eq_ok_iff.2 (h p)⟩

/-- The violation that is reported: that of the first provider of which the store breaks a rule,
and that there are too many clouds only when no store does. -/
theorem check_eq_error_iff (op : Operation) (s : Stores) (v : Violation) :
    s.check op = .error v ↔
      (∃ front p back t w, Provider.all = front ++ p :: back ∧ (∀ q ∈ front, s.Meets op q) ∧
        s.counted? p = some t ∧ t.check op = .error w ∧ v = .storage p.name w) ∨
      ((∀ p, s.Meets op p) ∧ ¬ s.AtMostOneCloud ∧ v = .multipleCloudProviders) := by
  rw [check_eq_forM, check_bind_eq_error_iff, forM_check_eq_error_iff, forM_check_eq_ok_iff,
    refuseIf_eq_error_iff, one_lt_configuredCount_iff]
  simp only [checkProvider_eq_ok_iff, checkProvider_eq_error_iff]
  refine or_congr ?_ (and_congr ?_ (and_congr_right' eq_comm))
  · constructor
    · rintro ⟨front, p, back, hall, hfront, t, w, hcounted, hcheck, rfl⟩
      exact ⟨front, p, back, t, w, hall, hfront, hcounted, hcheck, rfl⟩
    · rintro ⟨front, p, back, t, w, hall, hfront, hcounted, hcheck, rfl⟩
      exact ⟨front, p, back, hall, hfront, t, w, hcounted, hcheck, rfl⟩
  · exact ⟨fun h p => h p p.mem_all, fun h p _ => h p⟩

/-! ## The choice -/

/-- Of stores of which at most one counts, the first in an order is the first in any other. -/
theorem pick_eq_of_forall_mem_iff {order order' : List Provider}
    (hunique : ∀ p ∈ order, ∀ q ∈ order, (s.counted? p).isSome → (s.counted? q).isSome → p = q)
    (hmem : ∀ p, p ∈ order' ↔ p ∈ order) : s.pick order' = s.pick order := by
  have hfound : order'.findSome? s.counted? = order.findSome? s.counted? := by
    cases horder : order.findSome? s.counted? with
    | none =>
      rw [List.findSome?_eq_none_iff] at horder ⊢
      exact fun p hp => horder p ((hmem p).1 hp)
    | some t =>
      obtain ⟨p, hp, hcounted⟩ := List.exists_of_findSome?_eq_some horder
      cases horder' : order'.findSome? s.counted? with
      | none =>
        have hnone := List.findSome?_eq_none_iff.1 horder' p ((hmem p).2 hp)
        exact absurd (hnone.symm.trans hcounted) nofun
      | some t' =>
        obtain ⟨q, hq, hcounted'⟩ := List.exists_of_findSome?_eq_some horder'
        obtain rfl := hunique p hp q ((hmem q).1 hq) (Option.isSome_of_eq_some hcounted)
          (Option.isSome_of_eq_some hcounted')
        exact hcounted'.symm.trans hcounted
  rw [pick, pick, hfound]

/-- Of cloud stores of which at most one counts, the order in which they are tried does not
matter. -/
theorem AtMostOneCloud.pick_eq_target (hone : s.AtMostOneCloud) {order : List Provider}
    (horder : order.Perm Provider.clouds) : s.pick order = s.target := by
  rw [target_eq_pick]
  exact pick_eq_of_forall_mem_iff hone fun p => horder.mem_iff

/-- The only cloud store that counts is chosen. -/
theorem AtMostOneCloud.target_eq (hone : s.AtMostOneCloud) {t : Target}
    (hp : p ∈ Provider.clouds) (hcounted : s.counted? p = some t) : s.target = t := by
  -- the order that tries this provider first chooses the same store
  have hfirst : s.pick (p :: Provider.clouds) = s.target := by
    rw [target_eq_pick]
    exact pick_eq_of_forall_mem_iff hone fun q =>
      ⟨fun h => (List.mem_cons.1 h).elim (fun hq => hq ▸ hp) id, List.mem_cons_of_mem p⟩
  rw [← hfirst, pick, List.findSome?_cons, hcounted, Option.getD_some]

/-- Without a cloud store the files of this machine are chosen. -/
theorem target_eq_of_forall_counted?_eq_none
    (hnone : ∀ p ∈ Provider.clouds, s.counted? p = none) :
    s.target = .localFiles (s.localFiles.getD OptionGroup.blank) := by
  rw [target_eq_pick, pick, List.findSome?_eq_none_iff.2 hnone, Option.getD_none,
    getD_counted?_localFiles]

/-- The files of this machine are chosen just if no cloud store counts. -/
theorem target_eq_localFiles_iff (s : Stores) :
    (∃ g, s.target = .localFiles g) ↔ ∀ p ∈ Provider.clouds, s.counted? p = none := by
  constructor
  · rintro ⟨g, hg⟩
    rw [← List.findSome?_eq_none_iff]
    rw [target_eq_pick, pick] at hg
    cases hfound : Provider.clouds.findSome? s.counted? with
    | none => rfl
    | some t =>
      obtain ⟨p, hp, hcounted⟩ := List.exists_of_findSome?_eq_some hfound
      rw [hfound, Option.getD_some] at hg
      exact absurd hg (ne_localFiles_of_counted? hp hcounted g)
  · exact fun hnone => ⟨_, target_eq_of_forall_counted?_eq_none hnone⟩

/-- The store that is chosen meets its rules if every store that counts does. -/
theorem check_target_eq_ok (hmeets : ∀ p, s.Meets op p) : s.target.check op = .ok () := by
  rw [target_eq_pick, pick]
  cases hfound : Provider.clouds.findSome? s.counted? with
  | some t =>
    obtain ⟨p, _, hcounted⟩ := List.exists_of_findSome?_eq_some hfound
    exact hmeets p t hcounted
  | none =>
    cases hlocal : s.counted? .localFiles with
    | some t => exact hmeets .localFiles t hlocal
    | none => exact (rfl : LocalFiles.check OptionGroup.blank = .ok ())

/-- Stores of which the same count are checked alike, and the same one is chosen. -/
theorem check_and_target_congr {s' : Stores} (hcounted : ∀ p, s.counted? p = s'.counted? p) :
    s.check op = s'.check op ∧ s.target = s'.target := by
  have hcounted : s.counted? = s'.counted? := funext hcounted
  have hcheck : s.checkProvider op = s'.checkProvider op := by
    funext p
    rw [checkProvider, checkProvider, hcounted]
  constructor
  · rw [check_eq_forM, check_eq_forM, configuredCount_eq, configuredCount_eq, hcheck, hcounted]
  · rw [target_eq_pick, target_eq_pick, pick, pick, hcounted]

/-- **The rules of storage and the choice of a store agree.**

* A store counts just if its group is given and it is configured, and then it is that of the group.
* The rules are met just if every store that counts meets its own and at most one cloud store
  counts.
* A store that breaks a rule is reported before too many clouds are, the first provider first.
* When the rules are met, the one cloud store that counts is chosen as it is, or the files of this
  machine when there is none.  What is chosen meets its rules, in whatever order the clouds are
  tried.
* Stores that do not count change neither the rules nor the choice. -/
theorem target_coherent (op : Operation) (s : Stores) :
    (∀ p t, s.counted? p = some t ↔ s.given? p = some t ∧ t.isConfigured = true) ∧
    (s.check op = .ok () ↔ (∀ p, s.Meets op p) ∧ s.AtMostOneCloud) ∧
    (∀ v, s.check op = .error v ↔
      (∃ front p back t w, Provider.all = front ++ p :: back ∧ (∀ q ∈ front, s.Meets op q) ∧
        s.counted? p = some t ∧ t.check op = .error w ∧ v = .storage p.name w) ∨
      ((∀ p, s.Meets op p) ∧ ¬ s.AtMostOneCloud ∧ v = .multipleCloudProviders)) ∧
    (s.check op = .ok () →
      (∀ p ∈ Provider.clouds, ∀ t, s.counted? p = some t → s.target = t) ∧
      ((∃ g, s.target = .localFiles g) ↔ ∀ p ∈ Provider.clouds, s.counted? p = none) ∧
      ((∀ p ∈ Provider.clouds, s.counted? p = none) →
        s.target = .localFiles (s.localFiles.getD OptionGroup.blank)) ∧
      s.target.check op = .ok () ∧
      ∀ order : List Provider, order.Perm Provider.clouds → s.pick order = s.target) ∧
    (∀ s' : Stores, (∀ p, s.counted? p = s'.counted? p) →
      s.check op = s'.check op ∧ s.target = s'.target) := by
  refine ⟨fun _ _ => counted?_eq_some_iff, check_eq_ok_iff op s, check_eq_error_iff op s,
    fun hok => ?_, fun _ => check_and_target_congr⟩
  obtain ⟨hmeets, hone⟩ := (check_eq_ok_iff op s).1 hok
  exact ⟨fun p hp t => hone.target_eq hp, target_eq_localFiles_iff s,
    target_eq_of_forall_counted?_eq_none, check_target_eq_ok hmeets,
    fun order => hone.pick_eq_target⟩

end Stores

end BackupControl
