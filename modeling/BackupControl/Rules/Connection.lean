/-
# Rules of connections

What logging, the cluster and the secret agent must meet.  Words such as levels and modes are
compared without regard to the case of the letters A to Z.
-/
import BackupControl.Options.App
import BackupControl.Options.Cluster
import BackupControl.Options.SecretAgent
import BackupControl.Rules.Violation
import BackupControl.Text.CaseMapping

namespace BackupControl

/-- The text is one of the words, but for the case of the letters A to Z. -/
def isOneOf (words : List String) (s : String) : Bool := words.any (eqIgnoringAsciiCase · s)

/-- The levels that a log line can have. -/
def logLevels : List String := ["debug", "info", "warn", "error"]

/-- The ways to prove to the cluster who is asking. -/
def authModes : List String := ["INTERNAL", "EXTERNAL", "PKI"]

/-- The kinds of connection to a secret agent. -/
def connectionTypes : List String := ["tcp", "uds"]

/-- The log level is empty or known. -/
def App.check (g : App Settled) : Check :=
  refuseIf (g.logLevel ≠ "" ∧ isOneOf logLevels g.logLevel = false)
    (.unsupported "log level" g.logLevel)

/-- A host is given, the authentication mode is empty or known, and a certificate comes with
its key. -/
def Cluster.check (g : Cluster Settled) : Check := do
  refuseIf (g.host = "") (.required "host")
  refuseIf (g.authMode ≠ "" ∧ isOneOf authModes g.authMode = false)
    (.unsupported "auth mode" g.authMode)
  refuseIf (¬(g.tlsCertFile = "" ↔ g.tlsKeyFile = "")) (.paired "tls-certfile" "tls-keyfile")

/-- The kind of connection is given and known. -/
def SecretAgent.check (g : SecretAgent Settled) : Check := do
  refuseIf (g.connectionType = "") (.required "connection type")
  refuseIf (isOneOf connectionTypes g.connectionType = false)
    (.unsupported "connection type" g.connectionType)

end BackupControl
