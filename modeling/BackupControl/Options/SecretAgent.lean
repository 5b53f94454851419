/-
# Secret agent options

The options that say how the secret agent is reached.
-/
import BackupControl.Options.Group

namespace BackupControl

/-- How the secret agent is reached. -/
structure SecretAgent (F : Type → Type) where
  /-- The kind of connection. -/
  connectionType : F String
  /-- The host or the path of a socket; empty means that there is no agent. -/
  address : F String
  /-- The port; zero leaves it to the engine. -/
  port : F UInt16
  /-- Milliseconds that a request may take; zero leaves it to the engine. -/
  timeout : F UInt64
  /-- The file of trusted certificates. -/
  caFile : F String
  /-- The name expected in the certificate of the agent. -/
  tlsName : F String
  /-- The certificate of this client. -/
  certFile : F String
  /-- The key of this client. -/
  keyFile : F String
  /-- Secrets come back in base64. -/
  isBase64 : F Bool

/-- The options of the group, in the order in which a refusal lists them. -/
def SecretAgent.settings : List (Setting SecretAgent) := [
  { key := "connection-type", kind := .text, get := (·.connectionType),
    put := fun v g => { g with connectionType := v },
    flag := some ⟨"sa-connection-type", none, .both⟩ },
  { key := "address", kind := .text, get := (·.address), put := fun v g => { g with address := v },
    flag := some ⟨"sa-address", none, .both⟩ },
  { key := "port", kind := .word16, get := (·.port), put := fun v g => { g with port := v },
    flag := some ⟨"sa-port", none, .both⟩ },
  { key := "timeout", kind := .word64, get := (·.timeout),
    put := fun v g => { g with timeout := v },
    flag := some ⟨"sa-timeout", none, .both⟩ },
  { key := "ca-file", kind := .text, get := (·.caFile), put := fun v g => { g with caFile := v },
    flag := some ⟨"sa-cafile", none, .both⟩ },
  { key := "tls-name", kind := .text, get := (·.tlsName),
    put := fun v g => { g with tlsName := v },
    flag := some ⟨"sa-tls-name", none, .both⟩ },
  { key := "cert-file", kind := .text, get := (·.certFile),
    put := fun v g => { g with certFile := v },
    flag := some ⟨"sa-certfile", none, .both⟩ },
  { key := "key-file", kind := .text, get := (·.keyFile),
    put := fun v g => { g with keyFile := v },
    flag := some ⟨"sa-keyfile", none, .both⟩ },
  { key := "is-base64", kind := .switch, get := (·.isBase64),
    put := fun v g => { g with isBase64 := v },
    flag := some ⟨"sa-is-base64", none, .both⟩ }]

instance : OptionGroup SecretAgent where
  fill f :=
    { connectionType := f .text
      address := f .text
      port := f .word16
      timeout := f .word64
      caFile := f .text
      tlsName := f .text
      certFile := f .text
      keyFile := f .text
      isBase64 := f .switch }
  zipWith f a b :=
    { connectionType := f .text a.connectionType b.connectionType
      address := f .text a.address b.address
      port := f .word16 a.port b.port
      timeout := f .word64 a.timeout b.timeout
      caFile := f .text a.caFile b.caFile
      tlsName := f .text a.tlsName b.tlsName
      certFile := f .text a.certFile b.certFile
      keyFile := f .text a.keyFile b.keyFile
      isBase64 := f .switch a.isBase64 b.isBase64 }
  settings := SecretAgent.settings

end BackupControl
