/-
# The engine

The backup engine is a program of its own.  It is started with a word for what it should do,
reads one JSON value from its input, and leaves behind an exit status and two texts.
-/
import BackupControl.Failure
import BackupControl.Json.Basic
import BackupControl.Text.Blank

namespace BackupControl

/-- One run of the engine: the program, its arguments and what it reads. -/
structure EngineCall where
  program : String
  arguments : List String
  input : Json

namespace EngineCall

/-- The command line of a call. -/
def command (c : EngineCall) : List String := c.program :: c.arguments

/-- The call that carries out an operation. -/
def ofJob (program : String) (op : Operation) (payload : Json) : EngineCall :=
  ⟨program, [op.word], payload⟩

/-- The call that asks for a secret. -/
def ofSecret (program reference : String) (agent : Json) : EngineCall :=
  ⟨program, ["resolve-secret", reference], agent⟩

end EngineCall

/-- How a call ends: the engine cannot be started, or it exits. -/
inductive EngineReply where
  | notStarted (fault : FileFault)
  | exited (success : Bool) (output errors : String)

/-- An engine as a function of the call. -/
abbrev Engine : Type := EngineCall → EngineReply

/-- The answer to a question for a secret, without the white space around it. -/
def EngineReply.secret (call : EngineCall) : EngineReply → Result String
  | .notStarted fault => .error (.during (.starting call.command) (.file fault))
  | .exited true output _ => .ok (trimmed output)
  | .exited false _ errors => .error (.secretRefused (trimmed errors))

end BackupControl
