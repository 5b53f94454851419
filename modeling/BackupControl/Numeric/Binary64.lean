/-
# Binary floating point numbers

A number of the 64-bit binary interchange format, kept as its bit pattern so that it can be
compared, stored and written without rounding.  The module holds the order of such numbers,
in which a comparison with a NaN is false, and the correctly rounded reading of a decimal
fraction.  Both are stated on whole numbers: the order through `position`, the value of a
finite number through `significand` and `exponent`.
-/
import BackupControl.Numeric.Power

namespace BackupControl

/-- A binary64 number, given by its bit pattern: the sign in bit 63, the biased exponent in
bits 52 to 62 and the fraction below. -/
structure Binary64 where
  bits : UInt64
  deriving DecidableEq, Repr, Inhabited

namespace Binary64

/-! ## Classes of bit patterns -/

/-- The bit pattern without its sign. -/
def magnitude (x : Binary64) : Nat := x.bits.toNat % twoTo 63

/-- The sign bit is set; this holds of `-0.0` too. -/
def isNegative (x : Binary64) : Bool := twoTo 63 ≤ x.bits.toNat

/-- The magnitude of the infinities; every larger magnitude is a NaN. -/
def infiniteMagnitude : Nat := 2047 * twoTo 52

/-- The number is not a number. -/
def isNaN (x : Binary64) : Bool := infiniteMagnitude < x.magnitude

/-- The number is neither an infinity nor a NaN. -/
def isFinite (x : Binary64) : Bool := x.magnitude < infiniteMagnitude

/-- The number with a given sign and magnitude. -/
def ofMagnitude (negative : Bool) (magnitude : Nat) : Binary64 :=
  ⟨UInt64.ofNat (if negative then twoTo 63 + magnitude else magnitude)⟩

/-- Positive zero. -/
def zero : Binary64 := ofMagnitude false 0

/-- The infinity of a given sign. -/
def infinity (negative : Bool) : Binary64 := ofMagnitude negative infiniteMagnitude

/-- The positive quiet NaN. -/
def nan : Binary64 := ofMagnitude false (infiniteMagnitude + twoTo 51)

/-! ## Order -/

/-- Where the number stands on the line, counted in neighbouring numbers from zero.  The two
zeros share position zero, and an infinity follows the largest finite number. -/
def position (x : Binary64) : Int := if x.isNegative then -x.magnitude else x.magnitude

/-- Strict order: false as soon as one side is a NaN. -/
protected def lt (x y : Binary64) : Prop :=
  x.isNaN = false ∧ y.isNaN = false ∧ x.position < y.position

/-- Order: false as soon as one side is a NaN. -/
protected def le (x y : Binary64) : Prop :=
  x.isNaN = false ∧ y.isNaN = false ∧ x.position ≤ y.position

instance : LT Binary64 := ⟨Binary64.lt⟩

instance : LE Binary64 := ⟨Binary64.le⟩

instance (x y : Binary64) : Decidable (x < y) :=
  inferInstanceAs (Decidable (x.isNaN = false ∧ y.isNaN = false ∧ x.position < y.position))

instance (x y : Binary64) : Decidable (x ≤ y) :=
  inferInstanceAs (Decidable (x.isNaN = false ∧ y.isNaN = false ∧ x.position ≤ y.position))

/-- The two numbers are one key: equal in value, or both a NaN. -/
def sameKey (x y : Binary64) : Bool :=
  (x.isNaN && y.isNaN) || (!x.isNaN && !y.isNaN && x.position == y.position)

/-! ## Values -/

/-- The whole number `m` in the absolute value `m * 2 ^ exponent` of a finite number. -/
def significand (x : Binary64) : Nat :=
  if x.magnitude < twoTo 52 then x.magnitude else twoTo 52 + x.magnitude % twoTo 52

/-- The power `q` in the absolute value `significand * 2 ^ q` of a finite number. -/
def exponent (x : Binary64) : Int :=
  if x.magnitude < twoTo 52 then -1074 else (x.magnitude / twoTo 52 : Nat) - 1075

/-- The quotient rounded to the nearest whole number, a half going to the even neighbour. -/
def roundDiv (num den : Nat) : Nat :=
  let q := num / den
  let twice := 2 * (num % den)
  if twice < den ∨ (twice = den ∧ q % 2 = 0) then q else q + 1

/-- The largest power of two that is at most the positive fraction `num / den`. -/
def floorLog2 (num den : Nat) : Int :=
  let guess : Int := (Nat.log2 num : Int) - Nat.log2 den
  if den * twoTo guess.toNat ≤ num * twoTo (-guess).toNat then guess else guess - 1

/-- The magnitude of the binary64 number nearest to the positive fraction `num / den`.  The
rounded significand is added to the scaled exponent, so a significand that rounds up to
`2 ^ 53` carries into the exponent, and a value past the largest finite number becomes
infinite. -/
def nearestMagnitude (num den : Nat) : Nat :=
  let q := max (floorLog2 num den - 52) (-1074)
  let m := roundDiv (num * twoTo (-q).toNat) (den * twoTo q.toNat)
  min ((q + 1074).toNat * twoTo 52 + m) infiniteMagnitude

/-- The binary64 number nearest to `digits * 10 ^ power`, where `digits` is written with
`width` decimal digits at most.  Values beyond `10 ^ 310` are infinite and values below
`10 ^ -330` are zero, which is decided without computing the power. -/
def ofDecimal (negative : Bool) (digits : Nat) (width : Nat) (power : Int) : Binary64 :=
  if digits = 0 ∨ width + power < -330 then ofMagnitude negative 0
  else if 310 < power ∧ 0 < digits then infinity negative
  else ofMagnitude negative (nearestMagnitude (digits * tenTo power.toNat) (tenTo (-power).toNat))

/-- The binary64 number nearest to a whole number. -/
protected def ofNat (n : Nat) : Binary64 :=
  if n = 0 then zero else ofMagnitude false (nearestMagnitude n 1)

instance (n : Nat) : OfNat Binary64 n := ⟨Binary64.ofNat n⟩

end Binary64

end BackupControl
