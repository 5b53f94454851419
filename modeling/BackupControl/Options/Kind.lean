/-
# Kinds of options

Every option holds a value of one of ten kinds.  The kind fixes the type of the value, the way
it is read from a document and from a flag, and the words in which a value of another kind is
refused.
-/
import BackupControl.Numeric.Binary64

namespace BackupControl

/-- What an option holds.  A list is stored as one text with commas. -/
inductive Kind where
  | text
  | list
  | switch
  | word16
  | word32
  | word64
  | size
  | int32
  | int64
  | real
  deriving DecidableEq, Repr

namespace Kind

/-- The type of the values of a kind. -/
abbrev Value : Kind → Type
  | .text => String
  | .list => String
  | .switch => Bool
  | .word16 => UInt16
  | .word32 => UInt32
  | .word64 => UInt64
  | .size => UInt64
  | .int32 => Int32
  | .int64 => Int64
  | .real => Binary64

/-- What a refusal says was expected. -/
def expected : Kind → String
  | .text => "a string"
  | .list => "a list"
  | .switch => "a boolean"
  | .word16 => "u16"
  | .word32 => "u32"
  | .word64 => "u64"
  | .size => "usize"
  | .int32 => "i32"
  | .int64 => "i64"
  | .real => "f64"

/-- The magnitudes of the least and the greatest whole number of a kind that counts; a kind
without signs has least magnitude zero. -/
def range? : Kind → Option (Nat × Nat)
  | .word16 => some (0, twoTo 16 - 1)
  | .word32 => some (0, twoTo 32 - 1)
  | .word64 => some (0, twoTo 64 - 1)
  | .size => some (0, twoTo 64 - 1)
  | .int32 => some (twoTo 31, twoTo 31 - 1)
  | .int64 => some (twoTo 63, twoTo 63 - 1)
  | _ => none

/-- A whole number as a value of a kind that counts, if it is in range. -/
def ofInt? (k : Kind) (n : Int) : Option k.Value :=
  match k with
  | .word16 => if 0 ≤ n ∧ n < twoTo 16 then some (UInt16.ofNat n.toNat) else none
  | .word32 => if 0 ≤ n ∧ n < twoTo 32 then some (UInt32.ofNat n.toNat) else none
  | .word64 => if 0 ≤ n ∧ n < twoTo 64 then some (UInt64.ofNat n.toNat) else none
  | .size => if 0 ≤ n ∧ n < twoTo 64 then some (UInt64.ofNat n.toNat) else none
  | .int32 => if -(twoTo 31 : Int) ≤ n ∧ n < twoTo 31 then some (Int32.ofInt n) else none
  | .int64 => if -(twoTo 63 : Int) ≤ n ∧ n < twoTo 63 then some (Int64.ofInt n) else none
  | .text | .list | .switch | .real => none

/-- The value that a kind has when everything is zero: the empty text, `false`, `0`. -/
def blank : (k : Kind) → k.Value
  | .text => ""
  | .list => ""
  | .switch => false
  | .word16 => 0
  | .word32 => 0
  | .word64 => 0
  | .size => 0
  | .int32 => 0
  | .int64 => 0
  | .real => Binary64.zero

end Kind

end BackupControl
