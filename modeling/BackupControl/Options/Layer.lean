/-
# Configuration layers

A layer is what one source, a config file or a command line, sets in every section.  Layers are
laid over each other section by section, and a section that is present but empty stays
distinct from a missing one: the presence of the change-feed section alone selects a
change-feed backup.
-/
import BackupControl.Options.App
import BackupControl.Options.Cluster
import BackupControl.Options.Scan
import BackupControl.Options.ChangeFeed
import BackupControl.Options.Restore
import BackupControl.Options.Protection
import BackupControl.Options.SecretAgent
import BackupControl.Options.Storage

namespace BackupControl

/-- The section of a cloud vendor, which holds the section of its store. -/
structure Vendor (G : (Type → Type) → Type) where
  store : Option (G Given)

namespace Vendor

variable {G : (Type → Type) → Type} [OptionGroup G]

/-- One vendor section over another. -/
def overlay (base top : Vendor G) : Vendor G := ⟨overlaySection base.store top.store⟩

/-- One vendor section over another, either of which may be missing. -/
def overlaySection : Option (Vendor G) → Option (Vendor G) → Option (Vendor G)
  | some base, some top => some (base.overlay top)
  | base, top => top.or base

end Vendor

/-- What one source sets. -/
structure Layer where
  app : Option (App Given) := none
  cluster : Option (Cluster Given) := none
  scan : Option (Scan Given) := none
  changeFeed : Option (ChangeFeed Given) := none
  restore : Option (Restore Given) := none
  compression : Option (Compression Given) := none
  encryption : Option (Encryption Given) := none
  secretAgent : Option (SecretAgent Given) := none
  aws : Option (Vendor AwsS3) := none
  gcp : Option (Vendor GcpStorage) := none
  azure : Option (Vendor AzureBlob) := none
  localFiles : Option (LocalFiles Given) := none

namespace Layer

/-- The layer that sets nothing. -/
def empty : Layer := {}

/-- One layer over another: where both set an option, `top` wins. -/
def overlay (base top : Layer) : Layer where
  app := overlaySection base.app top.app
  cluster := overlaySection base.cluster top.cluster
  scan := overlaySection base.scan top.scan
  changeFeed := overlaySection base.changeFeed top.changeFeed
  restore := overlaySection base.restore top.restore
  compression := overlaySection base.compression top.compression
  encryption := overlaySection base.encryption top.encryption
  secretAgent := overlaySection base.secretAgent top.secretAgent
  aws := Vendor.overlaySection base.aws top.aws
  gcp := Vendor.overlaySection base.gcp top.gcp
  azure := Vendor.overlaySection base.azure top.azure
  localFiles := overlaySection base.localFiles top.localFiles

/-- The section of the S3 store. -/
def awsS3 (l : Layer) : Option (AwsS3 Given) := l.aws.bind (·.store)

/-- The section of the GCP store. -/
def gcpStorage (l : Layer) : Option (GcpStorage Given) := l.gcp.bind (·.store)

/-- The section of the Azure store. -/
def azureBlob (l : Layer) : Option (AzureBlob Given) := l.azure.bind (·.store)

end Layer

end BackupControl
