/-
# Rules of compression and encryption

The methods must be known, and encryption needs exactly one place that the key comes from.
-/
import BackupControl.Options.Protection
import BackupControl.Rules.Connection

namespace BackupControl

/-- The word for no compression and no encryption. -/
def noneWord : String := "NONE"

/-- The methods of compression. -/
def compressionModes : List String := [noneWord, "ZSTD"]

/-- The methods of encryption. -/
def encryptionModes : List String := [noneWord, "AES128", "AES256"]

/-- The mode asks for nothing: it is empty or the word for none. -/
def isNoneMode (mode : String) : Bool := mode == "" || eqIgnoringAsciiCase mode noneWord

/-- A mode is empty or one of those known. -/
def checkMode (what : String) (known : List String) (mode : String) : Check :=
  refuseIf (mode ≠ "" ∧ isOneOf known mode = false) (.unsupported what mode)

/-- The method is known. -/
def Compression.check (g : Compression Settled) : Check :=
  checkMode "compression mode" compressionModes g.mode

/-- The places that the key is said to come from. -/
def Encryption.keySources (g : Encryption Settled) : List String :=
  [g.keyFile, g.keyEnv, g.keySecret].filter (· != "")

/-- The method is known, and one other than none has exactly one key. -/
def Encryption.check (g : Encryption Settled) : Check := do
  checkMode "encryption mode" encryptionModes g.mode
  if !isNoneMode g.mode then
    refuseIf (g.keySources.length = 0) .missingEncryptionKey
    refuseIf (1 < g.keySources.length) .multipleEncryptionKeys

end BackupControl
