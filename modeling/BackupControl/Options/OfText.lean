/-
# Options of a config text

Reads a layer from the text of a config file.  A text of white space alone sets nothing.
-/
import BackupControl.Document.OfYaml
import BackupControl.Options.OfDocument
import BackupControl.Text.Blank

namespace BackupControl

/-- Why a config text gives no layer: it is not a document, or the document does not fit. -/
inductive ConfigFault where
  | syntaxError (r : Yaml.Refusal)
  | mismatch (m : Mismatch)

/-- The wording of a fault. -/
def ConfigFault.message : ConfigFault → String
  | .syntaxError _ => "malformed document"
  | .mismatch m => m.message

/-- The layer that a config text sets. -/
def Layer.ofText (text : String) : Except ConfigFault Layer :=
  if allBlank text then .ok .empty
  else
    match Document.ofYaml text with
    | .error r => .error (.syntaxError r)
    | .ok d => (Layer.ofDocument d).mapError .mismatch

end BackupControl
