/-
# Ranges of characters

A property of characters given as a sorted list of code point ranges.
-/

namespace BackupControl

/-- The character lies in one of the ranges, both ends included. -/
def inRanges (ranges : List (Nat × Nat)) (c : Char) : Bool :=
  ranges.any fun (first, last) => first ≤ c.toNat && c.toNat ≤ last

end BackupControl
