/-
# Program options

The options that govern logging.  They are accepted before and after the command.
-/
import BackupControl.Options.Group

namespace BackupControl

/-- Logging switches of the whole program. -/
structure App (F : Type → Type) where
  /-- Log at the configured level instead of the usual one. -/
  verbose : F Bool
  /-- The level used by a verbose run. -/
  logLevel : F String
  /-- Write log lines as JSON. -/
  logJson : F Bool
  /-- The file that log lines are appended to; empty means the error output. -/
  logFile : F String

/-- The options of the group, in the order in which a refusal lists them. -/
def App.settings : List (Setting App) := [
  { key := "verbose", kind := .switch, get := (·.verbose),
    put := fun v g => { g with verbose := v },
    flag := some ⟨"verbose", some 'v', .both⟩ },
  { key := "log-level", kind := .text, get := (·.logLevel),
    put := fun v g => { g with logLevel := v } },
  { key := "log-json", kind := .switch, get := (·.logJson),
    put := fun v g => { g with logJson := v } },
  { key := "log-file", kind := .text, get := (·.logFile),
    put := fun v g => { g with logFile := v } }]

instance : OptionGroup App where
  fill f :=
    { verbose := f .switch
      logLevel := f .text
      logJson := f .switch
      logFile := f .text }
  zipWith f a b :=
    { verbose := f .switch a.verbose b.verbose
      logLevel := f .text a.logLevel b.logLevel
      logJson := f .switch a.logJson b.logJson
      logFile := f .text a.logFile b.logFile }
  settings := App.settings

end BackupControl
