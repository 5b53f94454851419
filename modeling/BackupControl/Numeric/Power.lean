/-
# Powers

Powers of two, which bound the machine numbers, and powers of ten, which shift decimal digits.
-/

namespace BackupControl

/-- A power of two. -/
def twoTo (n : Nat) : Nat := Nat.pow 2 n

/-- A power of ten. -/
def tenTo (n : Nat) : Nat := Nat.pow 10 n

end BackupControl
