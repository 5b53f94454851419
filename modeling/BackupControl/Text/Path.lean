/-
# File paths

Paths are texts whose components are separated by slashes.  Joining follows the rule of the
operating system's path syntax: an absolute right side replaces the left, otherwise exactly one
slash separates the two, and nothing is normalised.
-/

namespace BackupControl

/-- The path of `file` seen from `directory`. -/
def joinPath (directory file : String) : String :=
  if file.startsWith "/" then file
  else if directory.isEmpty ∨ directory.endsWith "/" then directory ++ file
  else directory ++ "/" ++ file

/-- The pieces between the slashes of a text, in order, without empty ones and without `.`. -/
def slashComponents (cs : List Char) : List (List Char) :=
  (cs.splitOn '/').filter fun c => c ≠ [] ∧ c ≠ ['.']

/-- The components of a path. -/
def pathComponents (path : String) : List String :=
  (slashComponents path.toList).map String.ofList

/-! ## Folders -/

/-- The characters of a path below its root, last first, without slashes at the end and without
components `.` at the end.  A path below no root keeps a `.` that stands first. -/
def dropBlankEnd (rooted : Bool) : List Char → List Char
  | '/' :: rest => dropBlankEnd rooted rest
  | '.' :: '/' :: rest => dropBlankEnd rooted rest
  | ['.'] => if rooted then [] else ['.']
  | rest => rest

/-- The path of the folder that holds `path`.  It is empty for a path of a single component, and
for the root, which nothing holds. -/
def parentPath (path : String) : String :=
  let rooted := path.startsWith "/"
  let below := (if rooted then path.toList.drop 1 else path.toList).reverse
  let trimmed := dropBlankEnd rooted below
  if trimmed.isEmpty || trimmed == ['.'] then ""
  else
    let above := dropBlankEnd rooted (trimmed.dropWhile (· != '/'))
    (if rooted then "/" else "") ++ String.ofList above.reverse

end BackupControl
