/-
# Log lines

What a run writes to its log.  A line is kept if its level is at least that of the filter.
-/
import BackupControl.Json.Render
import BackupControl.Service.Load

namespace BackupControl

/-- The levels of the lines that a run writes. -/
inductive LogLevel where
  | debug
  | info
  deriving DecidableEq, Repr

/-- The word for a level. -/
def LogLevel.word : LogLevel → String
  | .debug => "DEBUG"
  | .info => "INFO"

/-- The level passes a filter. -/
def LogLevel.passes (filter : String) : LogLevel → Bool
  | .debug => filter == "debug"
  | .info => filter == "debug" || filter == "info"

/-- One event of a run. -/
structure LogEvent where
  level : LogLevel
  message : String
  deriving DecidableEq, Repr

namespace LogEvent

/-- The rules of an operation are met. -/
def validated (op : Operation) : LogEvent := ⟨.debug, s!"{op.word} configuration validated"⟩

/-- The job of a backup is about to be put together. -/
def assembling : LogEvent := ⟨.info, "initializing backup config"⟩

/-- A scan has been put together. -/
def scanReady : LogEvent := ⟨.info, "initialized scan backup config"⟩

/-- A change feed has been put together. -/
def feedReady : LogEvent := ⟨.info, "initialized xdr backup config"⟩

/-- A restore has been put together. -/
def restoreReady : LogEvent := ⟨.info, "initialized restore config"⟩

/-- The engine is about to be started. -/
def starting : LogEvent := ⟨.info, "starting engine"⟩

/-- The line of an event, as JSON or as text. -/
def line (json : Bool) (e : LogEvent) : String :=
  if json then
    (Json.obj [
      ("level", .str e.level.word), ("fields", .obj [("message", .str e.message)])]).compact
  else s!"{e.level.word} {e.message}"

end LogEvent

/-- The lines that a session keeps of a run. -/
def Session.logLines (s : Session) (events : List LogEvent) : List String :=
  (events.filter fun e => e.level.passes s.logFilter).map (LogEvent.line s.options.logJson)

end BackupControl
