/-
# Reports

What a run shows: a line for each stage, what went wrong in it, a banner at the end, and the
failure that ends the program.  Lines of the standard output and lines of the error output are
kept apart from the start.
-/
import BackupControl.Failure

namespace BackupControl

/-- Text for the standard output and text for the error output. -/
structure Transcript where
  output : String := ""
  errors : String := ""
  deriving DecidableEq, Repr

namespace Transcript

/-- One text after another. -/
def append (a b : Transcript) : Transcript := ⟨a.output ++ b.output, a.errors ++ b.errors⟩

instance : Append Transcript := ⟨append⟩

/-- A line of the standard output. -/
def line (s : String) : Transcript := { output := s ++ "\n" }

/-- A line of the error output. -/
def errorLine (s : String) : Transcript := { errors := s ++ "\n" }

/-- Several texts after each other. -/
def join (ts : List Transcript) : Transcript := ts.foldl append {}

end Transcript

/-! ## Failures -/

/-- A text whose lines after the first are indented. -/
def indentLines (indent s : String) : String := ("\n" ++ indent).intercalate (s.splitOn "\n")

/-- The causes behind a failure, one below the other, with numbers if there are several. -/
def causesText : List String → String
  | [] => ""
  | [cause] => "\n\nCaused by:\n    " ++ indentLines "    " cause
  | causes =>
    let numbered := causes.zipIdx.map fun (cause, n) =>
      let number := toString n
      "\n" ++ String.ofList (List.replicate (5 - number.length) ' ') ++ number ++ ": " ++
        indentLines "       " cause
    "\n\nCaused by:" ++ String.join numbered

/-- The failure that ends the program. -/
def Failure.report (f : Failure) : Transcript :=
  match f.chain with
  | [] => .errorLine "Error: "
  | outermost :: causes => .errorLine ("Error: " ++ outermost ++ causesText causes)

/-! ## Stages -/

/-- The stages of a run. -/
inductive Stage where
  | configure
  | engine
  deriving DecidableEq, Repr

/-- The name of a stage. -/
def Stage.name : Stage → String
  | .configure => "Configure"
  | .engine => "Engine"

/-- What is shown of a stage that failed: its error, and the texts that the engine left. -/
structure StageFault where
  error : String
  output : String := ""
  errors : String := ""

/-- A line that was read up to a line break, last character first; a carriage return in front of
the break belongs to the break. -/
def endedLine : List Char → String
  | '\r' :: line => String.ofList line.reverse
  | line => String.ofList line.reverse

/-- The lines of a text of which part of the first line has been read, last character first. -/
def linesFrom (line : List Char) : List Char → List String
  | [] => if line = [] then [] else [String.ofList line.reverse]
  | c :: cs => if c = '\n' then endedLine line :: linesFrom [] cs else linesFrom (c :: line) cs

/-- The lines of a text; a line break at the end begins no line, and one may be preceded by a
carriage return. -/
def linesOf (s : String) : List String := linesFrom [] s.toList

/-- The lines of a text that the engine left, under a title; nothing for an empty text. -/
def replay (title s : String) : Transcript :=
  if s = "" then {}
  else .join ([.errorLine "", .errorLine s!"  ► {title}:"] ++
    (linesOf s).map fun line => .errorLine ("    " ++ line))

namespace Stage

/-- The line of a stage that succeeded. -/
def succeeded (s : Stage) : Transcript := .line s!"  ✓  {s.name}"

/-- The line of a stage that failed, and what is known about it. -/
def failed (s : Stage) (fault : StageFault) : Transcript :=
  .join [.line s!"  ✗  {s.name}", .errorLine "", .errorLine ("  Error: " ++ fault.error),
    replay "stdout" fault.output, replay "stderr" fault.errors]

end Stage

/-! ## Banners -/

/-- The banner of a run that succeeded. -/
def successBanner (op : Operation) : Transcript :=
  .join [.line "", .line s!"  ✓ {op.title} completed successfully.", .line ""]

/-- The banner of a run that failed in a stage. -/
def failureBanner (op : Operation) (s : Stage) : Transcript :=
  .join [.line "", .errorLine s!"  ✗  {op.title} failed.", .errorLine s!"    ✗ {s.name}",
    .line ""]

end BackupControl
