/-
# The format of documents

Where the keys of a document may stand.  The format is closed: sixteen mappings stand inside each
other, each with its own keys, and a document with any other key in one of them sets nothing,
like one with a number that is out of the range of its option.  A key whose value is null may as
well be missing.
-/
import BackupControl.Proofs.Document.Nesting
import BackupControl.Proofs.Document.RoundTrip

namespace BackupControl

/-! ## The mappings of the format -/

/-- A mapping of the format: that of a whole document, that of a vendor, or that of the options
of a section. -/
inductive Mapping where
  | whole
  | aws
  | gcp
  | azure
  | options (n : Section)
  deriving DecidableEq, Repr

namespace Mapping

/-- The keys on the way to a mapping. -/
def path : Mapping → List String
  | .whole => []
  | .aws => ["aws"]
  | .gcp => ["gcp"]
  | .azure => ["azure"]
  | .options .app => ["app"]
  | .options .cluster => ["cluster"]
  | .options .scan => ["backup"]
  | .options .changeFeed => ["xdr"]
  | .options .restore => ["restore"]
  | .options .compression => ["compression"]
  | .options .encryption => ["encryption"]
  | .options .secretAgent => ["secret-agent"]
  | .options .awsS3 => ["aws", "s3"]
  | .options .gcpStorage => ["gcp", "storage"]
  | .options .azureBlob => ["azure", "blob"]
  | .options .localFiles => ["local"]

/-- The keys that are declared in a mapping. -/
def keys : Mapping → List String
  | .whole => ["app", "cluster", "backup", "xdr", "restore", "compression", "encryption",
    "secret-agent", "aws", "gcp", "azure", "local"]
  | .aws => ["s3"]
  | .gcp => ["storage"]
  | .azure => ["blob"]
  | .options n => (KeyedGroup.entries (OptionGroup.unset (G := n.Group))).map Prod.fst

end Mapping

section Reaches

variable {α : Type} {parts : List (Part α)} {path : List String}

/-- The options of a group are the parts that reading the group comes to. -/
theorem reaches_readGroup {G : (Type → Type) → Type} [OptionGroup G] [LawfulOptionGroup G]
    [KeyedGroup G] (title : String) :
    Part.Reaches ((OptionGroup.settings (G := G)).map Setting.part) [] (readGroup G title) := by
  rw [readGroup_eq]
  exact .here lawful_settings

/-- What the reading of a store comes to is inside the section of the vendor. -/
theorem reaches_readVendor {G : (Type → Type) → Type} [OptionGroup G]
    {title key storeTitle : String} (h : Part.Reaches parts path (readGroup G storeTitle)) :
    Part.Reaches parts (key :: path) (readVendor G title key storeTitle) :=
  .into (Vendor.lawful_part (G := G) key storeTitle) (List.mem_singleton_self _) h

/-- What the reading of a section comes to is inside the document. -/
theorem Layer.reaches_of_find? {p : Part Layer} {key : String}
    (hp : Layer.parts.find? (·.key == key) = some p) (h : Part.Reaches parts path p.read) :
    Part.Reaches parts (key :: path) (readRecord "PartialConfig" Layer.sections Layer.empty) := by
  have hkey : p.key = key := by simpa using List.find?_some hp
  rw [← hkey, Layer.sections_eq]
  exact .into lawful_parts (List.mem_of_find?_eq_some hp) h

/-- The options of every section are read at the end of its path. -/
theorem Layer.reaches_options (n : Section) :
    Part.Reaches (n.settings.map Setting.part) (Mapping.options n).path
      (readRecord "PartialConfig" sections empty) := by
  cases n with
  | app => exact reaches_of_find? rfl (reaches_readGroup "PartialApp")
  | cluster => exact reaches_of_find? rfl (reaches_readGroup "PartialCluster")
  | scan => exact reaches_of_find? rfl (reaches_readGroup "PartialBackup")
  | changeFeed => exact reaches_of_find? rfl (reaches_readGroup "PartialXdr")
  | restore => exact reaches_of_find? rfl (reaches_readGroup "PartialRestore")
  | compression => exact reaches_of_find? rfl (reaches_readGroup "PartialCompression")
  | encryption => exact reaches_of_find? rfl (reaches_readGroup "PartialEncryption")
  | secretAgent => exact reaches_of_find? rfl (reaches_readGroup "PartialSecretAgent")
  | awsS3 => exact reaches_of_find? rfl (reaches_readVendor (reaches_readGroup "PartialAwsS3"))
  | gcpStorage =>
    exact reaches_of_find? rfl (reaches_readVendor (reaches_readGroup "PartialGcpStorage"))
  | azureBlob =>
    exact reaches_of_find? rfl (reaches_readVendor (reaches_readGroup "PartialAzureBlob"))
  | localFiles => exact reaches_of_find? rfl (reaches_readGroup "PartialLocal")

/-- The reading of a layer comes to a record with the declared keys at the end of the path of
every mapping. -/
theorem Layer.exists_reaches (m : Mapping) :
    ∃ (α : Type) (parts : List (Part α)),
      Part.Reaches parts m.path (readRecord "PartialConfig" sections empty) ∧
        parts.map Part.key = m.keys := by
  cases m with
  | whole => exact ⟨Layer, Layer.parts, .here lawful_parts, rfl⟩
  | aws =>
    exact ⟨_, _, reaches_of_find? rfl (.here (Vendor.lawful_part "s3" "PartialAwsS3")), rfl⟩
  | gcp =>
    exact ⟨_, _, reaches_of_find? rfl (.here (Vendor.lawful_part "storage" "PartialGcpStorage")),
      rfl⟩
  | azure =>
    exact ⟨_, _, reaches_of_find? rfl (.here (Vendor.lawful_part "blob" "PartialAzureBlob")), rfl⟩
  | options n =>
    refine ⟨_, _, reaches_options n, ?_⟩
    rw [Mapping.keys, KeyedGroup.entries_eq, List.map_map, List.map_map]
    rfl

end Reaches

/-! ## Round trips and closedness -/

namespace Layer

variable {k v d d' : Document}

/-- An option or a section that is null reads like one that is missing. -/
theorem ofDocument_added (m : Mapping) {key : String} (hkey : key ∈ m.keys)
    (hv : v.isUnset = true) (hadd : Document.Added key v m.path d d') :
    ofDocument d' = ofDocument d := by
  obtain ⟨α, parts, hreaches, hkeys⟩ := exists_reaches m
  rw [← hkeys] at hkey
  obtain ⟨p, hp, rfl⟩ := List.mem_map.1 hkey
  exact hreaches.read_added hp hv hadd []

/-- A key that is not declared in its mapping spoils the document. -/
theorem ofDocument_ne_ok_of_undeclared (m : Mapping) (hentry : Document.HasEntry k v m.path d)
    (hk : ∀ key ∈ m.keys, readText k ≠ .ok key) (l : Layer) : ofDocument d ≠ .ok l := by
  obtain ⟨α, parts, hreaches, hkeys⟩ := exists_reaches m
  refine hreaches.read_ne_ok hentry (fun p hp hkey => ?_) [] l
  exact absurd hkey (hk p.key (hkeys ▸ List.mem_map_of_mem hp))

/-- A number out of the range of its option spoils the document. -/
theorem ofDocument_ne_ok_of_outOfRange (n : Section) {s : Setting n.Group} (hs : s ∈ n.settings)
    {below above : Nat} (hrange : s.kind.range? = some (below, above))
    (hentry : Document.HasEntry k v (Mapping.options n).path d) (hk : readText k = .ok s.key)
    (hv : v.isUnset = false) (hout : ∀ i, v.Denotes i → i < -(below : Int) ∨ above < i)
    (l : Layer) : ofDocument d ≠ .ok l := by
  refine (reaches_options n).read_ne_ok hentry (fun p hp hkey => ⟨hv, ?_⟩) [] l
  obtain ⟨t, ht, rfl⟩ := List.mem_map.1 hp
  have hnodup : (n.settings.map Setting.key).Nodup := KeyedGroup.nodup
  obtain rfl : t = s :=
    List.inj_on_of_nodup_map hnodup ht hs (Except.ok.inj (hkey.symm.trans hk))
  exact Document.readValue_ne_ok hrange hout

/-- The format of documents round trips and is closed.

* Every layer is spelled by a document, and is read back from every document that spells it.
* An option or a section that is null, under a key that is declared and otherwise new in its
  mapping, is read like one that is missing.
* A document with an entry under a key that is not declared in its mapping sets no layer.
* A document sets no layer if an option that counts has a value that is not null and stands for
  no number in the range of the option. -/
theorem documents_round_trip_and_are_closed :
    (∀ l : Layer, (∃ d, Document.SpellsLayer l d) ∧
      ∀ d, Document.SpellsLayer l d → ofDocument d = .ok l) ∧
    (∀ (m : Mapping) (key : String) (v d d' : Document), key ∈ m.keys → v.isUnset = true →
      Document.Added key v m.path d d' → ofDocument d' = ofDocument d) ∧
    (∀ (m : Mapping) (k v d : Document), Document.HasEntry k v m.path d →
      (∀ key ∈ m.keys, readText k ≠ .ok key) → ∀ l, ofDocument d ≠ .ok l) ∧
    ∀ (n : Section) (s : Setting n.Group) (below above : Nat) (k v d : Document),
      s ∈ n.settings → s.kind.range? = some (below, above) →
      Document.HasEntry k v (Mapping.options n).path d → readText k = .ok s.key →
      v.isUnset = false → (∀ i, v.Denotes i → i < -(below : Int) ∨ above < i) →
      ∀ l, ofDocument d ≠ .ok l :=
  ⟨fun l => ⟨Document.exists_spellsLayer l, fun _ => ofDocument_of_spells⟩,
    fun m _ _ _ _ hkey hv hadd => ofDocument_added m hkey hv hadd,
    fun m _ _ _ hentry hk => ofDocument_ne_ok_of_undeclared m hentry hk,
    fun n _ _ _ _ _ _ hs hrange hentry hk hv hout =>
      ofDocument_ne_ok_of_outOfRange n hs hrange hentry hk hv hout⟩

/-- A document with one option is read as that option; with a section that is null beside it
nothing changes, and with an unknown section or a port that is too large it sets nothing. -/
theorem documents_round_trip_and_are_closed_of_port :
    let plain := Document.written none .plain
    let port (s : String) : Document × Document :=
      (plain "xdr", .mapping none [(plain "local-port", plain s)])
    ofDocument (.mapping none [port "8080"]) =
        .ok { changeFeed := some { (OptionGroup.unset : ChangeFeed Given) with
          localPort := some 8080 } } ∧
      ofDocument (.mapping none [port "8080", (plain "backup", plain "~")]) =
        ofDocument (.mapping none [port "8080"]) ∧
      (∀ l, ofDocument (.mapping none [port "8080", (plain "bakcup", plain "~")]) ≠ .ok l) ∧
      ∀ l, ofDocument (.mapping none [port "65536"]) ≠ .ok l := by
  intro plain port
  refine ⟨?_, ?_, ?_, ?_⟩
  · refine (documents_round_trip_and_are_closed.1 _).2 _ ⟨_, _, rfl, .refl _, .cons ⟨?_, ?_⟩ .nil⟩
    · exact .inr ⟨.plain, "xdr", rfl, by decide, nofun⟩
    · refine ⟨_, _, rfl, .refl _, .cons ⟨?_, ?_⟩ .nil⟩
      · exact .inr ⟨.plain, "local-port", rfl, by decide, nofun⟩
      · exact .inr ⟨.plain, "8080", rfl, by decide, nofun⟩
  · have hd : (Document.mapping none [port "8080"]).resolved =
        .mapping none ([port "8080"] ++ []) := rfl
    refine documents_round_trip_and_are_closed.2.1 .whole "backup" (plain "~") _ _ (by decide) rfl
      (.here hd rfl rfl ?_)
    exact List.forall_mem_singleton.2 (by decide)
  · refine documents_round_trip_and_are_closed.2.2.1 .whole _ _ _
      (.here rfl (List.mem_cons_of_mem _ (List.mem_singleton_self _))) ?_
    decide
  · refine documents_round_trip_and_are_closed.2.2.2 .changeFeed (Section.changeFeed.settings[7])
      0 65535 (plain "local-port") (plain "65536") _ (List.getElem_mem _) (by decide)
      (.into rfl (List.mem_singleton_self _) rfl (.here rfl (List.mem_singleton_self _))) rfl rfl
      fun i hi => .inr ?_
    rcases hi with hi | ⟨tag, style, s, hi, -, hs⟩
    · cases hi
    · cases hi
      have h : wholeNumber? "65536".toList = some 65536 := by decide
      obtain rfl : 65536 = i := Option.some.inj (h.symm.trans hs)
      decide

end Layer

end BackupControl
