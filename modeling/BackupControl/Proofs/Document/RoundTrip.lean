/-
# Reading a spelled layer back

A layer is read back from every document that spells it.  So it is for each mapping by itself: a
record is read back if its parts are, and the options of a group, the store of a vendor and the
sections of a layer are the parts of records.
-/
import BackupControl.Proofs.Document.Spelled

namespace BackupControl

/-! ## Records that are spelled -/

/-- Of two lists that correspond, every item of either corresponds to one of the other. -/
theorem exists_of_forall₂ {α β : Type*} {R : α → β → Prop} {as : List α} {bs : List β}
    (h : List.Forall₂ R as bs) :
    (∀ a ∈ as, ∃ b ∈ bs, R a b) ∧ ∀ b ∈ bs, ∃ a ∈ as, R a b := by
  induction h with
  | nil => exact ⟨nofun, nofun⟩
  | cons hab _ ih =>
    rw [List.forall_mem_cons, List.forall_mem_cons]
    exact ⟨⟨⟨_, List.mem_cons_self, hab⟩,
        fun a ha => (ih.1 a ha).imp fun b hb => ⟨List.mem_cons_of_mem _ hb.1, hb.2⟩⟩,
      ⟨_, List.mem_cons_self, hab⟩,
        fun b hb => (ih.2 b hb).imp fun a ha => ⟨List.mem_cons_of_mem _ ha.1, ha.2⟩⟩

namespace Part

variable {α : Type} {parts : List (Part α)} {start : α}

/-- The line of a table has the key of the part and, if the record has the part, what spells
it. -/
def TabledAs (p : Part α) (a : α) (t : String × Option (Document → Prop)) : Prop :=
  t.1 = p.key ∧
    (p.get a = none ∧ t.2 = none ∨
      ∃ b spells, p.get a = some b ∧ t.2 = some spells ∧
        ∀ v, spells v → v.isUnset = false ∧ ∀ place, p.read place v = .ok b)

/-- A line has a part if whatever spells a value of the part is read as the value. -/
theorem tabledAs_map {p : Part α} {spells : p.Value → Document → Prop}
    (h : ∀ b v, spells b v → v.isUnset = false ∧ ∀ place, p.read place v = .ok b) (a : α) :
    p.TabledAs a (p.key, (p.get a).map spells) := by
  refine ⟨rfl, ?_⟩
  cases hget : p.get a with
  | none => exact .inl ⟨rfl, rfl⟩
  | some b => exact .inr ⟨b, spells b, rfl, rfl, h b⟩

/-- An entry that spells the line of a part gives the part. -/
theorem TabledAs.gives {p : Part α} {a : α} {key : String} {spells : Document → Prop}
    {e : Document × Document} (h : p.TabledAs a (key, some spells))
    (he : Document.SpellsLine e (key, spells)) : p.Gives a e := by
  obtain ⟨rfl, ⟨-, hnone⟩ | ⟨b, spells', hget, hspells, hread⟩⟩ := h
  · cases hnone
  · cases hspells
    obtain ⟨hset, hvalue⟩ := hread e.2 he.2
    exact ⟨he.1.readText, hset, b, hget, hvalue⟩

/-- A record is read back from every mapping that spells the table of its parts. -/
theorem Lawful.readRecord_table (h : Lawful parts start) {a : α}
    {table : List (String × Option (Document → Prop))}
    (htable : List.Forall₂ (fun p t => p.TabledAs a t) parts table) {d : Document}
    (hd : d.SpellsTable table) (title : String) (place : List Step) :
    readRecord title (parts.map entry) start place d = .ok a := by
  obtain ⟨entries, listed, hentries, hperm, hlisted⟩ := hd
  refine h.readRecord_eq_ok hentries ?_ ?_ ?_ title place
  · have hkeys : parts.map key = table.map Prod.fst := by
      rw [← List.forall₂_eq_eq_eq, List.forall₂_map_left_iff, List.forall₂_map_right_iff]
      exact htable.imp fun _ _ hpt => hpt.1.symm
    have hread : listed.map (fun e => readText e.1) =
        ((presentLines table).map Prod.fst).map Except.ok := by
      rw [← List.forall₂_eq_eq_eq, List.forall₂_map_left_iff, List.forall₂_map_right_iff,
        List.forall₂_map_right_iff]
      exact hlisted.imp fun _ _ he => he.1.readText
    rw [(hperm.map _).nodup_iff, hread]
    exact (nodup_presentLines (hkeys ▸ h.nodup)).map fun _ _ => Except.ok.inj
  · intro e he
    obtain ⟨t, ht, hspelled⟩ := (exists_of_forall₂ hlisted).1 e (hperm.mem_iff.1 he)
    obtain ⟨p, hp, hpt⟩ := (exists_of_forall₂ htable).2 _ (mem_presentLines.1 ht)
    exact ⟨p, hp, hpt.gives hspelled⟩
  · intro p hp
    obtain ⟨⟨key, value⟩, ht, hpt⟩ := (exists_of_forall₂ htable).1 p hp
    rcases hpt.2 with ⟨hnone, -⟩ | ⟨b, spells, -, rfl, -⟩
    · exact .inl hnone
    · have hline : (key, spells) ∈ presentLines table := mem_presentLines.2 ht
      obtain ⟨e, he, hspelled⟩ := (exists_of_forall₂ hlisted).2 _ hline
      exact .inr ⟨e, hperm.mem_iff.2 he, hpt.gives hspelled⟩

end Part

/-! ## Groups -/

section Group

variable {G : (Type → Type) → Type} [OptionGroup G]

/-- An option as a part of its group. -/
def Setting.part (s : Setting G) : Part (G Given) where
  key := s.key
  Value := s.kind.Value
  get := s.get
  put := fun v g => s.put v g
  read := readValue s.kind

/-- The reading of a group is that of its options. -/
theorem readGroup_eq (title : String) : readGroup G title =
    readRecord title (((OptionGroup.settings (G := G)).map Setting.part).map Part.entry)
      OptionGroup.unset := by
  rw [List.map_map]
  rfl

variable [LawfulOptionGroup G] [KeyedGroup G]

/-- The options of a group are the parts of a record. -/
theorem lawful_settings :
    Part.Lawful ((OptionGroup.settings (G := G)).map Setting.part) OptionGroup.unset where
  nodup := by
    rw [List.map_map]
    exact KeyedGroup.nodup (G := G)
  ext h := LawfulOptionGroup.ext (List.forall_mem_map.1 h)
  get_start := List.forall_mem_map.2 fun _ hs => OptionGroup.get_unset hs
  get_put := List.forall_mem_map.2 fun s hs u a => (LawfulOptionGroup.lawful s hs).get_put u a
  get_put_of_ne := List.forall_mem_map.2 fun s hs => List.forall_mem_map.2 fun t ht hne u a =>
    OptionGroup.get_put_of_ne hs ht (fun heq => hne (heq ▸ rfl)) u a

/-- A group is read back from every document that spells it. -/
theorem readGroup_of_spells {g : G Given} {d : Document} (hd : Document.SpellsGroup g d)
    (title : String) (place : List Step) : readGroup G title place d = .ok g := by
  rw [readGroup_eq]
  refine (lawful_settings (G := G)).readRecord_table ?_ hd title place
  rw [KeyedGroup.entries_eq, List.forall₂_map_left_iff, List.forall₂_map_right_iff,
    List.forall₂_map_right_iff, List.forall₂_same]
  intro s _
  dsimp only
  rw [Option.map_map]
  exact Part.tabledAs_map (p := s.part)
    (fun v _ hspells => ⟨hspells.isUnset (s.kind.scalar_ne_null v), hspells.readValue⟩) g

/-! ### Stores of vendors -/

/-- The store of a vendor as the part of a record. -/
def Vendor.part (G : (Type → Type) → Type) [OptionGroup G] (key storeTitle : String) :
    Part (Vendor G) where
  key := key
  Value := G Given
  get := Vendor.store
  put := fun v _ => ⟨v⟩
  read := readGroup G storeTitle

omit [LawfulOptionGroup G] [KeyedGroup G] in
/-- The section of a vendor is a record with one part. -/
theorem Vendor.lawful_part (key storeTitle : String) :
    Part.Lawful [Vendor.part G key storeTitle] ⟨none⟩ where
  nodup := List.nodup_singleton key
  ext {a b} h := by
    obtain ⟨store⟩ := a
    obtain ⟨store'⟩ := b
    exact congrArg Vendor.mk (h (Vendor.part G key storeTitle) (List.mem_singleton_self _))
  get_start := List.forall_mem_singleton.2 rfl
  get_put := List.forall_mem_singleton.2 fun _ _ => rfl
  get_put_of_ne := List.forall_mem_singleton.2 (List.forall_mem_singleton.2 fun h => absurd rfl h)

/-- The section of a vendor is read back from every document that spells it. -/
theorem readVendor_of_spells {v : Vendor G} {key : String} {d : Document}
    (hd : Document.SpellsVendor key v d) (title storeTitle : String) (place : List Step) :
    readVendor G title key storeTitle place d = .ok v := by
  have hstore := Part.tabledAs_map (p := Vendor.part G key storeTitle)
    (fun _ _ hg => ⟨hg.isUnset, readGroup_of_spells hg storeTitle⟩) v
  exact (Vendor.lawful_part key storeTitle).readRecord_table (.cons hstore .nil) hd title place

end Group

/-! ## Layers -/

namespace Layer

/-- The sections of a layer as the parts of a record. -/
def parts : List (Part Layer) := [
  ⟨"app", App Given, app, fun v l => { l with app := v }, readGroup App "PartialApp"⟩,
  ⟨"cluster", Cluster Given, cluster, fun v l => { l with cluster := v },
    readGroup Cluster "PartialCluster"⟩,
  ⟨"backup", Scan Given, scan, fun v l => { l with scan := v }, readGroup Scan "PartialBackup"⟩,
  ⟨"xdr", ChangeFeed Given, changeFeed, fun v l => { l with changeFeed := v },
    readGroup ChangeFeed "PartialXdr"⟩,
  ⟨"restore", Restore Given, restore, fun v l => { l with restore := v },
    readGroup Restore "PartialRestore"⟩,
  ⟨"compression", Compression Given, compression, fun v l => { l with compression := v },
    readGroup Compression "PartialCompression"⟩,
  ⟨"encryption", Encryption Given, encryption, fun v l => { l with encryption := v },
    readGroup Encryption "PartialEncryption"⟩,
  ⟨"secret-agent", SecretAgent Given, secretAgent, fun v l => { l with secretAgent := v },
    readGroup SecretAgent "PartialSecretAgent"⟩,
  ⟨"aws", Vendor AwsS3, aws, fun v l => { l with aws := v },
    readVendor AwsS3 "AwsSection" "s3" "PartialAwsS3"⟩,
  ⟨"gcp", Vendor GcpStorage, gcp, fun v l => { l with gcp := v },
    readVendor GcpStorage "GcpSection" "storage" "PartialGcpStorage"⟩,
  ⟨"azure", Vendor AzureBlob, azure, fun v l => { l with azure := v },
    readVendor AzureBlob "AzureSection" "blob" "PartialAzureBlob"⟩,
  ⟨"local", LocalFiles Given, localFiles, fun v l => { l with localFiles := v },
    readGroup LocalFiles "PartialLocal"⟩]

/-- The entries of a layer are those of its parts. -/
theorem sections_eq : sections = parts.map Part.entry := rfl

/-- The sections of a layer are the parts of a record. -/
theorem lawful_parts : Part.Lawful parts empty where
  nodup := by decide
  ext {a b} h := by
    cases a
    cases b
    simpa only [parts, List.forall_mem_cons, List.not_mem_nil, false_implies, implies_true,
      and_true, Layer.mk.injEq] using h
  get_start := by
    simp only [parts, List.forall_mem_cons, List.not_mem_nil, false_implies, implies_true,
      and_self, empty]
  get_put := by
    simp only [parts, List.forall_mem_cons, List.not_mem_nil, false_implies, implies_true,
      and_self]
  get_put_of_ne := by
    simp only [parts, List.forall_mem_cons, List.not_mem_nil, false_implies, implies_true,
      and_self, ne_eq, not_true]

/-- A layer is read back from every document that spells it. -/
theorem ofDocument_of_spells {l : Layer} {d : Document} (hd : Document.SpellsLayer l d) :
    ofDocument d = .ok l := by
  rw [ofDocument, sections_eq]
  refine lawful_parts.readRecord_table ?_ hd "PartialConfig" []
  have hgroup {G : (Type → Type) → Type} [OptionGroup G] [LawfulOptionGroup G] [KeyedGroup G]
      (title : String) (g : G Given) (d : Document) (hd : Document.SpellsGroup g d) :
      d.isUnset = false ∧ ∀ place, readGroup G title place d = .ok g :=
    ⟨hd.isUnset, readGroup_of_spells hd title⟩
  have hvendor {G : (Type → Type) → Type} [OptionGroup G] [LawfulOptionGroup G] [KeyedGroup G]
      (title key storeTitle : String) (v : Vendor G) (d : Document)
      (hd : Document.SpellsVendor key v d) :
      d.isUnset = false ∧ ∀ place, readVendor G title key storeTitle place d = .ok v :=
    ⟨hd.isUnset, readVendor_of_spells hd title storeTitle⟩
  refine .cons ?_ (.cons ?_ (.cons ?_ (.cons ?_ (.cons ?_ (.cons ?_ (.cons ?_ (.cons ?_
    (.cons ?_ (.cons ?_ (.cons ?_ (.cons ?_ .nil)))))))))))
  · exact Part.tabledAs_map (hgroup "PartialApp") l
  · exact Part.tabledAs_map (hgroup "PartialCluster") l
  · exact Part.tabledAs_map (hgroup "PartialBackup") l
  · exact Part.tabledAs_map (hgroup "PartialXdr") l
  · exact Part.tabledAs_map (hgroup "PartialRestore") l
  · exact Part.tabledAs_map (hgroup "PartialCompression") l
  · exact Part.tabledAs_map (hgroup "PartialEncryption") l
  · exact Part.tabledAs_map (hgroup "PartialSecretAgent") l
  · exact Part.tabledAs_map (hvendor "AwsSection" "s3" "PartialAwsS3") l
  · exact Part.tabledAs_map (hvendor "GcpSection" "storage" "PartialGcpStorage") l
  · exact Part.tabledAs_map (hvendor "AzureSection" "blob" "PartialAzureBlob") l
  · exact Part.tabledAs_map (hgroup "PartialLocal") l

end Layer

end BackupControl
