/-
# White space

The characters of the property White_Space, and the text between them.
-/
import BackupControl.Text.CharRanges

namespace BackupControl

/-- The ranges of the property White_Space. -/
def blankRanges : List (Nat × Nat) := [
  (0x9, 0xd), (0x20, 0x20), (0x85, 0x85), (0xa0, 0xa0), (0x1680, 0x1680), (0x2000, 0x200a),
  (0x2028, 0x2029), (0x202f, 0x202f), (0x205f, 0x205f), (0x3000, 0x3000)]

/-- The character is white space. -/
def isBlank (c : Char) : Bool := inRanges blankRanges c

/-- The characters without the white space at both ends. -/
def trimBlanks (cs : List Char) : List Char :=
  ((cs.dropWhile isBlank).reverse.dropWhile isBlank).reverse

/-- The text without the white space at both ends. -/
def trimmed (s : String) : String := String.ofList (trimBlanks s.toList)

/-- The text has nothing but white space. -/
def allBlank (s : String) : Bool := s.toList.all isBlank

end BackupControl
