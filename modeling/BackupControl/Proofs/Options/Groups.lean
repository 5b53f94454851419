/-
# The option groups are lawful

Every group of the program meets the laws.  No two options of a group share a place, whether
they belong to the group itself or to a part that it shares with another group.
-/
import BackupControl.Options.Layer
import BackupControl.Proofs.Options.Lawful

namespace BackupControl

/-! ## Groups without parts -/

instance : LawfulOptionGroup App where
  ext h := by
    rename_i a b
    cases a
    cases b
    simpa only [OptionGroup.settings, App.settings, List.forall_mem_cons, List.not_mem_nil,
      false_implies, implies_true, and_true, App.mk.injEq] using h
  lawful := by
    simp only [OptionGroup.settings, App.settings, List.forall_mem_cons, List.not_mem_nil,
      false_implies, implies_true, and_self, Setting.lawful_iff, OptionGroup.fill,
      OptionGroup.zipWith]
  independent := by
    simp only [OptionGroup.settings, App.settings, List.pairwise_cons, List.forall_mem_cons,
      List.not_mem_nil, false_implies, implies_true, and_self, Setting.Independent,
      List.Pairwise.nil]

instance : LawfulOptionGroup Cluster where
  ext h := by
    rename_i a b
    cases a
    cases b
    simpa only [OptionGroup.settings, Cluster.settings, List.forall_mem_cons, List.not_mem_nil,
      false_implies, implies_true, and_true, Cluster.mk.injEq] using h
  lawful := by
    simp only [OptionGroup.settings, Cluster.settings, List.forall_mem_cons, List.not_mem_nil,
      false_implies, implies_true, and_self, Setting.lawful_iff, OptionGroup.fill,
      OptionGroup.zipWith]
  independent := by
    simp only [OptionGroup.settings, Cluster.settings, List.pairwise_cons, List.forall_mem_cons,
      List.not_mem_nil, false_implies, implies_true, and_self, Setting.Independent,
      List.Pairwise.nil]

instance : LawfulOptionGroup Transfer where
  ext h := by
    rename_i a b
    cases a
    cases b
    simpa only [OptionGroup.settings, Transfer.settings, List.forall_mem_cons, List.not_mem_nil,
      false_implies, implies_true, and_true, Transfer.mk.injEq] using h
  lawful := by
    simp only [OptionGroup.settings, Transfer.settings, List.forall_mem_cons, List.not_mem_nil,
      false_implies, implies_true, and_self, Setting.lawful_iff, OptionGroup.fill,
      OptionGroup.zipWith]
  independent := by
    simp only [OptionGroup.settings, Transfer.settings, List.pairwise_cons, List.forall_mem_cons,
      List.not_mem_nil, false_implies, implies_true, and_self, Setting.Independent,
      List.Pairwise.nil]

instance : LawfulOptionGroup ChangeFeed where
  ext h := by
    rename_i a b
    cases a
    cases b
    simpa only [OptionGroup.settings, ChangeFeed.settings, List.forall_mem_cons, List.not_mem_nil,
      false_implies, implies_true, and_true, ChangeFeed.mk.injEq] using h
  lawful := by
    simp only [OptionGroup.settings, ChangeFeed.settings, List.forall_mem_cons, List.not_mem_nil,
      false_implies, implies_true, and_self, Setting.lawful_iff, OptionGroup.fill,
      OptionGroup.zipWith]
  independent := by
    simp only [OptionGroup.settings, ChangeFeed.settings, List.pairwise_cons, List.forall_mem_cons,
      List.not_mem_nil, false_implies, implies_true, and_self, Setting.Independent,
      List.Pairwise.nil]

instance : LawfulOptionGroup Compression where
  ext h := by
    rename_i a b
    cases a
    cases b
    simpa only [OptionGroup.settings, Compression.settings, List.forall_mem_cons, List.not_mem_nil,
      false_implies, implies_true, and_true, Compression.mk.injEq] using h
  lawful := by
    simp only [OptionGroup.settings, Compression.settings, List.forall_mem_cons, List.not_mem_nil,
      false_implies, implies_true, and_self, Setting.lawful_iff, OptionGroup.fill,
      OptionGroup.zipWith]
  independent := by
    simp only [OptionGroup.settings, Compression.settings, List.pairwise_cons, List.forall_mem_cons,
      List.not_mem_nil, false_implies, implies_true, and_self, Setting.Independent,
      List.Pairwise.nil]

instance : LawfulOptionGroup Encryption where
  ext h := by
    rename_i a b
    cases a
    cases b
    simpa only [OptionGroup.settings, Encryption.settings, List.forall_mem_cons, List.not_mem_nil,
      false_implies, implies_true, and_true, Encryption.mk.injEq] using h
  lawful := by
    simp only [OptionGroup.settings, Encryption.settings, List.forall_mem_cons, List.not_mem_nil,
      false_implies, implies_true, and_self, Setting.lawful_iff, OptionGroup.fill,
      OptionGroup.zipWith]
  independent := by
    simp only [OptionGroup.settings, Encryption.settings, List.pairwise_cons, List.forall_mem_cons,
      List.not_mem_nil, false_implies, implies_true, and_self, Setting.Independent,
      List.Pairwise.nil]

instance : LawfulOptionGroup SecretAgent where
  ext h := by
    rename_i a b
    cases a
    cases b
    simpa only [OptionGroup.settings, SecretAgent.settings, List.forall_mem_cons, List.not_mem_nil,
      false_implies, implies_true, and_true, SecretAgent.mk.injEq] using h
  lawful := by
    simp only [OptionGroup.settings, SecretAgent.settings, List.forall_mem_cons, List.not_mem_nil,
      false_implies, implies_true, and_self, Setting.lawful_iff, OptionGroup.fill,
      OptionGroup.zipWith]
  independent := by
    simp only [OptionGroup.settings, SecretAgent.settings, List.pairwise_cons, List.forall_mem_cons,
      List.not_mem_nil, false_implies, implies_true, and_self, Setting.Independent,
      List.Pairwise.nil]

instance : LawfulOptionGroup CloudTuning where
  ext h := by
    rename_i a b
    cases a
    cases b
    simpa only [OptionGroup.settings, CloudTuning.settings, List.forall_mem_cons, List.not_mem_nil,
      false_implies, implies_true, and_true, CloudTuning.mk.injEq] using h
  lawful := by
    simp only [OptionGroup.settings, CloudTuning.settings, List.forall_mem_cons, List.not_mem_nil,
      false_implies, implies_true, and_self, Setting.lawful_iff, OptionGroup.fill,
      OptionGroup.zipWith]
  independent := by
    simp only [OptionGroup.settings, CloudTuning.settings, List.pairwise_cons, List.forall_mem_cons,
      List.not_mem_nil, false_implies, implies_true, and_self, Setting.Independent,
      List.Pairwise.nil]

instance : LawfulOptionGroup LocalFiles where
  ext h := by
    rename_i a b
    cases a
    cases b
    simpa only [OptionGroup.settings, LocalFiles.settings, List.forall_mem_cons, List.not_mem_nil,
      false_implies, implies_true, and_true, LocalFiles.mk.injEq] using h
  lawful := by
    simp only [OptionGroup.settings, LocalFiles.settings, List.forall_mem_cons, List.not_mem_nil,
      false_implies, implies_true, and_self, Setting.lawful_iff, OptionGroup.fill,
      OptionGroup.zipWith]
  independent := by
    simp only [OptionGroup.settings, LocalFiles.settings, List.pairwise_cons, List.not_mem_nil,
      false_implies, implies_true, and_self, List.Pairwise.nil]

/-! ## Groups with a part -/

/-- The transfer options are part of the options of a scan. -/
theorem Scan.transfer_isPart : Setting.IsPart (G := Transfer) (H := Scan)
    (fun a => a.transfer) (fun c a => { a with transfer := c }) :=
  ⟨fun _ => rfl, fun _ _ _ => rfl, fun _ _ => rfl⟩

instance : LawfulOptionGroup Scan where
  ext h := by
    rename_i a b
    simp only [OptionGroup.settings, Scan.settings, List.forall_mem_append,
      List.forall_mem_map] at h
    have htransfer : a.transfer = b.transfer := LawfulOptionGroup.ext h.1
    cases a
    cases b
    simpa only [List.forall_mem_cons, List.not_mem_nil, false_implies, implies_true, and_true,
      Scan.mk.injEq] using And.intro htransfer h.2
  lawful := by
    simp only [OptionGroup.settings, Scan.settings, List.forall_mem_append]
    refine ⟨Setting.lawful_of_mem_within Scan.transfer_isPart, ?_⟩
    simp only [List.forall_mem_cons, List.not_mem_nil, false_implies, implies_true, and_self,
      Setting.lawful_iff, OptionGroup.fill, OptionGroup.zipWith]
  independent := by
    simp only [OptionGroup.settings, Scan.settings]
    refine Setting.pairwise_within_append Scan.transfer_isPart ?_ ?_
    · simp only [List.pairwise_cons, List.forall_mem_cons, List.not_mem_nil, false_implies,
        implies_true, and_self, Setting.Independent, List.Pairwise.nil]
    · simp only [List.forall_mem_cons, List.not_mem_nil, false_implies, implies_true, and_self,
        Setting.IsOutside]

/-- The transfer options are part of the options of a restore. -/
theorem Restore.transfer_isPart : Setting.IsPart (G := Transfer) (H := Restore)
    (fun a => a.transfer) (fun c a => { a with transfer := c }) :=
  ⟨fun _ => rfl, fun _ _ _ => rfl, fun _ _ => rfl⟩

instance : LawfulOptionGroup Restore where
  ext h := by
    rename_i a b
    simp only [OptionGroup.settings, Restore.settings, List.forall_mem_append,
      List.forall_mem_map] at h
    have htransfer : a.transfer = b.transfer := LawfulOptionGroup.ext h.1
    cases a
    cases b
    simpa only [List.forall_mem_cons, List.not_mem_nil, false_implies, implies_true, and_true,
      Restore.mk.injEq] using And.intro htransfer h.2
  lawful := by
    simp only [OptionGroup.settings, Restore.settings, List.forall_mem_append]
    refine ⟨Setting.lawful_of_mem_within Restore.transfer_isPart, ?_⟩
    simp only [List.forall_mem_cons, List.not_mem_nil, false_implies, implies_true, and_self,
      Setting.lawful_iff, OptionGroup.fill, OptionGroup.zipWith]
  independent := by
    simp only [OptionGroup.settings, Restore.settings]
    refine Setting.pairwise_within_append Restore.transfer_isPart ?_ ?_
    · simp only [List.pairwise_cons, List.forall_mem_cons, List.not_mem_nil, false_implies,
        implies_true, and_self, Setting.Independent, List.Pairwise.nil]
    · simp only [List.forall_mem_cons, List.not_mem_nil, false_implies, implies_true, and_self,
        Setting.IsOutside]

/-- The options of every cloud store are part of the options of an S3 store. -/
theorem AwsS3.tuning_isPart : Setting.IsPart (G := CloudTuning) (H := AwsS3)
    (fun a => a.tuning) (fun c a => { a with tuning := c }) :=
  ⟨fun _ => rfl, fun _ _ _ => rfl, fun _ _ => rfl⟩

instance : LawfulOptionGroup AwsS3 where
  ext h := by
    rename_i a b
    simp only [OptionGroup.settings, AwsS3.settings, List.forall_mem_append,
      List.forall_mem_map] at h
    have htuning : a.tuning = b.tuning := LawfulOptionGroup.ext h.2
    cases a
    cases b
    simpa only [List.forall_mem_cons, List.not_mem_nil, false_implies, implies_true, and_true,
      and_assoc, AwsS3.mk.injEq] using And.intro h.1 htuning
  lawful := by
    simp only [OptionGroup.settings, AwsS3.settings, List.forall_mem_append]
    refine ⟨?_, Setting.lawful_of_mem_underFlag _ AwsS3.tuning_isPart⟩
    simp only [List.forall_mem_cons, List.not_mem_nil, false_implies, implies_true, and_self,
      Setting.lawful_iff, OptionGroup.fill, OptionGroup.zipWith]
  independent := by
    simp only [OptionGroup.settings, AwsS3.settings]
    refine Setting.pairwise_append_underFlag _ AwsS3.tuning_isPart ?_ ?_
    · simp only [List.pairwise_cons, List.forall_mem_cons, List.not_mem_nil, false_implies,
        implies_true, and_self, Setting.Independent, List.Pairwise.nil]
    · simp only [List.forall_mem_cons, List.not_mem_nil, false_implies, implies_true, and_self,
        Setting.IsOutside]

/-- The options of every cloud store are part of the options of a GCP store. -/
theorem GcpStorage.tuning_isPart : Setting.IsPart (G := CloudTuning) (H := GcpStorage)
    (fun a => a.tuning) (fun c a => { a with tuning := c }) :=
  ⟨fun _ => rfl, fun _ _ _ => rfl, fun _ _ => rfl⟩

instance : LawfulOptionGroup GcpStorage where
  ext h := by
    rename_i a b
    simp only [OptionGroup.settings, GcpStorage.settings, List.forall_mem_append,
      List.forall_mem_map] at h
    have htuning : a.tuning = b.tuning := LawfulOptionGroup.ext h.2
    cases a
    cases b
    simpa only [List.forall_mem_cons, List.not_mem_nil, false_implies, implies_true, and_true,
      and_assoc, GcpStorage.mk.injEq] using And.intro h.1 htuning
  lawful := by
    simp only [OptionGroup.settings, GcpStorage.settings, List.forall_mem_append]
    refine ⟨?_, Setting.lawful_of_mem_underFlag _ GcpStorage.tuning_isPart⟩
    simp only [List.forall_mem_cons, List.not_mem_nil, false_implies, implies_true, and_self,
      Setting.lawful_iff, OptionGroup.fill, OptionGroup.zipWith]
  independent := by
    simp only [OptionGroup.settings, GcpStorage.settings]
    refine Setting.pairwise_append_underFlag _ GcpStorage.tuning_isPart ?_ ?_
    · simp only [List.pairwise_cons, List.forall_mem_cons, List.not_mem_nil, false_implies,
        implies_true, and_self, Setting.Independent, List.Pairwise.nil]
    · simp only [List.forall_mem_cons, List.not_mem_nil, false_implies, implies_true, and_self,
        Setting.IsOutside]

/-- The options of every cloud store are part of the options of an Azure store. -/
theorem AzureBlob.tuning_isPart : Setting.IsPart (G := CloudTuning) (H := AzureBlob)
    (fun a => a.tuning) (fun c a => { a with tuning := c }) :=
  ⟨fun _ => rfl, fun _ _ _ => rfl, fun _ _ => rfl⟩

instance : LawfulOptionGroup AzureBlob where
  ext h := by
    rename_i a b
    simp only [OptionGroup.settings, AzureBlob.settings, List.forall_mem_append,
      List.forall_mem_map] at h
    have htuning : a.tuning = b.tuning := LawfulOptionGroup.ext h.2
    cases a
    cases b
    simpa only [List.forall_mem_cons, List.not_mem_nil, false_implies, implies_true, and_true,
      and_assoc, AzureBlob.mk.injEq] using And.intro h.1 htuning
  lawful := by
    simp only [OptionGroup.settings, AzureBlob.settings, List.forall_mem_append]
    refine ⟨?_, Setting.lawful_of_mem_underFlag _ AzureBlob.tuning_isPart⟩
    simp only [List.forall_mem_cons, List.not_mem_nil, false_implies, implies_true, and_self,
      Setting.lawful_iff, OptionGroup.fill, OptionGroup.zipWith]
  independent := by
    simp only [OptionGroup.settings, AzureBlob.settings]
    refine Setting.pairwise_append_underFlag _ AzureBlob.tuning_isPart ?_ ?_
    · simp only [List.pairwise_cons, List.forall_mem_cons, List.not_mem_nil, false_implies,
        implies_true, and_self, Setting.Independent, List.Pairwise.nil]
    · simp only [List.forall_mem_cons, List.not_mem_nil, false_implies, implies_true, and_self,
        Setting.IsOutside]

end BackupControl
