/-
# Cluster options

The options that say how the database cluster is reached.
-/
import BackupControl.Options.Group

namespace BackupControl

/-- How the database cluster is reached. -/
structure Cluster (F : Type → Type) where
  /-- The seed host. -/
  host : F String
  /-- The port of the seed host. -/
  port : F UInt16
  /-- The user name. -/
  user : F String
  /-- The password. -/
  password : F String
  /-- The authentication mode; empty leaves it to the engine. -/
  authMode : F String
  /-- The name expected in the certificate of the cluster. -/
  tlsName : F String
  /-- The file of trusted certificates. -/
  tlsCaFile : F String
  /-- The certificate of this client. -/
  tlsCertFile : F String
  /-- The key of this client. -/
  tlsKeyFile : F String
  /-- The password of the key. -/
  tlsKeyFilePassword : F String
  /-- The protocol versions allowed. -/
  tlsProtocols : F String
  /-- Milliseconds until a connection attempt ends. -/
  clientTimeout : F UInt64
  /-- Milliseconds until an idle connection ends. -/
  clientIdleTimeout : F UInt64
  /-- Milliseconds until a login attempt ends. -/
  clientLoginTimeout : F UInt64

/-- The options of the group, in the order in which a refusal lists them. -/
def Cluster.settings : List (Setting Cluster) := [
  { key := "host", kind := .text, get := (·.host), put := fun v g => { g with host := v } },
  { key := "port", kind := .word16, get := (·.port), put := fun v g => { g with port := v } },
  { key := "user", kind := .text, get := (·.user), put := fun v g => { g with user := v },
    flag := some ⟨"user", some 'U', .both⟩ },
  { key := "password", kind := .text, get := (·.password),
    put := fun v g => { g with password := v },
    flag := some ⟨"password", some 'P', .both⟩ },
  { key := "auth", kind := .text, get := (·.authMode), put := fun v g => { g with authMode := v } },
  { key := "tls-name", kind := .text, get := (·.tlsName),
    put := fun v g => { g with tlsName := v } },
  { key := "tls-ca-file", kind := .text, get := (·.tlsCaFile),
    put := fun v g => { g with tlsCaFile := v },
    flag := some ⟨"tls-cafile", none, .both⟩ },
  { key := "tls-cert-file", kind := .text, get := (·.tlsCertFile),
    put := fun v g => { g with tlsCertFile := v },
    flag := some ⟨"tls-certfile", none, .both⟩ },
  { key := "tls-key-file", kind := .text, get := (·.tlsKeyFile),
    put := fun v g => { g with tlsKeyFile := v },
    flag := some ⟨"tls-keyfile", none, .both⟩ },
  { key := "tls-key-file-password", kind := .text, get := (·.tlsKeyFilePassword),
    put := fun v g => { g with tlsKeyFilePassword := v },
    flag := some ⟨"tls-keyfile-password", none, .both⟩ },
  { key := "tls-protocols", kind := .text, get := (·.tlsProtocols),
    put := fun v g => { g with tlsProtocols := v } },
  { key := "client-timeout", kind := .word64, get := (·.clientTimeout),
    put := fun v g => { g with clientTimeout := v } },
  { key := "client-idle-timeout", kind := .word64, get := (·.clientIdleTimeout),
    put := fun v g => { g with clientIdleTimeout := v } },
  { key := "client-login-timeout", kind := .word64, get := (·.clientLoginTimeout),
    put := fun v g => { g with clientLoginTimeout := v } }]

instance : OptionGroup Cluster where
  fill f :=
    { host := f .text
      port := f .word16
      user := f .text
      password := f .text
      authMode := f .text
      tlsName := f .text
      tlsCaFile := f .text
      tlsCertFile := f .text
      tlsKeyFile := f .text
      tlsKeyFilePassword := f .text
      tlsProtocols := f .text
      clientTimeout := f .word64
      clientIdleTimeout := f .word64
      clientLoginTimeout := f .word64 }
  zipWith f a b :=
    { host := f .text a.host b.host
      port := f .word16 a.port b.port
      user := f .text a.user b.user
      password := f .text a.password b.password
      authMode := f .text a.authMode b.authMode
      tlsName := f .text a.tlsName b.tlsName
      tlsCaFile := f .text a.tlsCaFile b.tlsCaFile
      tlsCertFile := f .text a.tlsCertFile b.tlsCertFile
      tlsKeyFile := f .text a.tlsKeyFile b.tlsKeyFile
      tlsKeyFilePassword := f .text a.tlsKeyFilePassword b.tlsKeyFilePassword
      tlsProtocols := f .text a.tlsProtocols b.tlsProtocols
      clientTimeout := f .word64 a.clientTimeout b.clientTimeout
      clientIdleTimeout := f .word64 a.clientIdleTimeout b.clientIdleTimeout
      clientLoginTimeout := f .word64 a.clientLoginTimeout b.clientLoginTimeout }
  settings := Cluster.settings

end BackupControl
