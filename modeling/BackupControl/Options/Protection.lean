/-
# Compression and encryption options

The options that say how backup files are compressed and encrypted.
-/
import BackupControl.Options.Group

namespace BackupControl

/-- How backup files are compressed. -/
structure Compression (F : Type → Type) where
  /-- The method; empty means none. -/
  mode : F String
  /-- The level of the method. -/
  level : F Int32

/-- The options of the group, in the order in which a refusal lists them. -/
def Compression.settings : List (Setting Compression) := [
  { key := "mode", kind := .text, get := (·.mode), put := fun v g => { g with mode := v },
    flag := some ⟨"compress", some 'z', .both⟩ },
  { key := "level", kind := .int32, get := (·.level), put := fun v g => { g with level := v },
    flag := some ⟨"compression-level", none, .both⟩ }]

instance : OptionGroup Compression where
  fill f :=
    { mode := f .text
      level := f .int32 }
  zipWith f a b :=
    { mode := f .text a.mode b.mode
      level := f .int32 a.level b.level }
  settings := Compression.settings

/-- How backup files are encrypted. -/
structure Encryption (F : Type → Type) where
  /-- The method; empty means none. -/
  mode : F String
  /-- The file that holds the key. -/
  keyFile : F String
  /-- The environment variable that holds the key. -/
  keyEnv : F String
  /-- The secret that holds the key, which the engine looks up itself. -/
  keySecret : F String

/-- The options of the group, in the order in which a refusal lists them. -/
def Encryption.settings : List (Setting Encryption) := [
  { key := "mode", kind := .text, get := (·.mode), put := fun v g => { g with mode := v },
    flag := some ⟨"encrypt", none, .both⟩ },
  { key := "key-file", kind := .text, get := (·.keyFile),
    put := fun v g => { g with keyFile := v },
    flag := some ⟨"encryption-key-file", none, .both⟩ },
  { key := "key-env", kind := .text, get := (·.keyEnv), put := fun v g => { g with keyEnv := v },
    flag := some ⟨"encryption-key-env", none, .both⟩ },
  { key := "key-secret", kind := .text, get := (·.keySecret),
    put := fun v g => { g with keySecret := v },
    flag := some ⟨"encryption-key-secret", none, .both⟩ }]

instance : OptionGroup Encryption where
  fill f :=
    { mode := f .text
      keyFile := f .text
      keyEnv := f .text
      keySecret := f .text }
  zipWith f a b :=
    { mode := f .text a.mode b.mode
      keyFile := f .text a.keyFile b.keyFile
      keyEnv := f .text a.keyEnv b.keyEnv
      keySecret := f .text a.keySecret b.keySecret }
  settings := Encryption.settings

end BackupControl
