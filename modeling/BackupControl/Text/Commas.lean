/-
# Comma-separated text

A list option is stored as one text whose items are joined by commas.  Splitting cuts at every
comma, so `n` commas give `n + 1` items, empty ones included; the empty text alone stands for
the empty list.
-/

namespace BackupControl

/-- The pieces between the commas of a text; there is always at least one. -/
def commaPieces : List Char → List (List Char)
  | [] => [[]]
  | c :: cs =>
    if c = ',' then [] :: commaPieces cs
    else match commaPieces cs with
      | [] => [[c]]
      | p :: ps => (c :: p) :: ps

/-- The items of a comma-separated text; the empty text has none. -/
def splitCommas (s : String) : List String :=
  if s.isEmpty then [] else (commaPieces s.toList).map String.ofList

/-- The items one after another with a comma between neighbours. -/
def joinCommas (items : List String) : String := ",".intercalate items

end BackupControl
