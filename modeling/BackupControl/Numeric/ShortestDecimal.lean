/-
# Shortest decimal text of a binary number

The decimal with the fewest digits that reads back as a given binary64 number, and its text
under a layout.  The search works on whole numbers: the number, its neighbours' midpoints and
the candidate decimals are scaled to one denominator, so no step rounds.  A grid of decimals
with one digit more is tried only when neither neighbour of the number on the coarser grid
reads back.
-/
import BackupControl.Numeric.Binary64

namespace BackupControl

/-- A positive decimal `digits * 10 ^ power`. -/
structure Decimal where
  digits : Nat
  power : Int
  deriving DecidableEq, Repr

namespace Decimal

/-- How many decimal digits a whole number is written with. -/
def width (n : Nat) : Nat := (Nat.toDigits 10 n).length

/-- The exponent of the leading digit: `0` for `5`, `2` for `123`, `-1` for `0.7`. -/
def leadingExponent (d : Decimal) : Int := width d.digits - 1 + d.power

/-- The same decimal without zeros at its end. -/
def trimmed (d : Decimal) : Decimal :=
  let ds := (Nat.toDigits 10 d.digits).reverse
  let zeros := (ds.takeWhile (· == '0')).length
  ⟨d.digits / tenTo zeros, d.power + zeros⟩

end Decimal

namespace Binary64

/-! ## The interval of a number -/

/-- The reals that round to a positive finite number, over one denominator: the number is
`value / denominator`, the interval runs from `lower` to `upper`, and its ends belong to it
exactly when `closed`. -/
structure Interval where
  lower : Nat
  value : Nat
  upper : Nat
  denominator : Nat
  closed : Bool
  deriving DecidableEq, Repr

/-- The interval of a positive finite number.  Below a power of two the neighbours are half as
far apart as above it; a tie goes to the even significand. -/
def interval (x : Binary64) : Interval :=
  let m := x.significand
  let q := x.exponent - 2
  let scale := twoTo q.toNat
  let below := if m = twoTo 52 ∧ -1074 < x.exponent then 4 * m - 1 else 4 * m - 2
  { lower := below * scale
    value := 4 * m * scale
    upper := (4 * m + 2) * scale
    denominator := twoTo (-q).toNat
    closed := m % 2 = 0 }

/-- The fraction `num / den` reads back as the number of the interval. -/
def Interval.contains (i : Interval) (num den : Nat) : Bool :=
  let lower := i.lower * den
  let upper := i.upper * den
  let point := num * i.denominator
  if i.closed then lower ≤ point && point ≤ upper else lower < point && point < upper

/-! ## The search -/

/-- The exponent of the leading decimal digit of the positive fraction `num / den`. -/
def leadingExponent (num den : Nat) : Int :=
  if den ≤ num then Decimal.width (num / den) - 1
  else -(Decimal.width ((den + num - 1) / num - 1) : Int)

/-- Of the two neighbours of the number on the grid of multiples of `10 ^ power`, the one that
reads back; the nearer of two, and the even one of two equally near. -/
def onGrid? (i : Interval) (power : Int) : Option Decimal :=
  let up := tenTo power.toNat
  let down := tenTo (-power).toNat
  let floor := i.value * down / (i.denominator * up)
  let rest := i.value * down % (i.denominator * up)
  let fits (c : Nat) : Bool := i.contains (c * up) down
  let floorNearer : Bool :=
    2 * rest < i.denominator * up || (2 * rest == i.denominator * up && floor % 2 == 0)
  match fits floor, fits (floor + 1) with
  | true, true => some ⟨if floorNearer then floor else floor + 1, power⟩
  | true, false => some ⟨floor, power⟩
  | false, true => some ⟨floor + 1, power⟩
  | false, false => none

/-- The shortest decimal that reads back as a positive finite number, without zeros at its
end.  Seventeen digits always suffice. -/
def shortest (x : Binary64) : Decimal :=
  let i := x.interval
  let top := leadingExponent i.value i.denominator
  let found := (List.range 17).findSome? fun (n : Nat) => onGrid? i (top - n)
  (found.getD ⟨x.significand, 0⟩).trimmed

end Binary64

/-! ## Layout -/

/-- Where a layout leaves plain positional writing for an exponent: below `least` and from
`limit` on, both given as the exponent of the leading digit.  Without a range every number is
written positionally. -/
structure DecimalLayout where
  positional : Option (Int × Int)
  deriving DecidableEq, Repr

namespace DecimalLayout

/-- Positional from `10 ^ -5` to below `10 ^ 16`. -/
def ofData : DecimalLayout := ⟨some (-5, 16)⟩

/-- Always positional. -/
def ofProse : DecimalLayout := ⟨none⟩

/-- Zeros in a row. -/
def zeros (n : Int) : List Char := List.replicate n.toNat '0'

/-- The positional text of a decimal, always with a fraction. -/
def writePositional (d : Decimal) : List Char :=
  let ds := Nat.toDigits 10 d.digits
  let point := d.leadingExponent + 1
  if point ≤ 0 then "0.".toList ++ zeros (-point) ++ ds
  else if ds.length ≤ point then ds ++ zeros (point - ds.length) ++ ".0".toList
  else ds.take point.toNat ++ '.' :: ds.drop point.toNat

/-- The text with an exponent, whose sign is always written: one digit, the fraction if there
is any, and the exponent. -/
def writeScientific (d : Decimal) : List Char :=
  let ds := Nat.toDigits 10 d.digits
  let e := d.leadingExponent
  let fraction := if ds.length ≤ 1 then [] else '.' :: ds.drop 1
  let sign := if e < 0 then '-' else '+'
  ds.take 1 ++ fraction ++ 'e' :: sign :: Nat.toDigits 10 e.natAbs

/-- The text of a positive decimal. -/
def write (layout : DecimalLayout) (d : Decimal) : List Char :=
  match layout.positional with
  | none => writePositional d
  | some (least, limit) =>
    if least ≤ d.leadingExponent ∧ d.leadingExponent < limit then writePositional d
    else writeScientific d

end DecimalLayout

namespace Binary64

/-- The text of a number: the shortest digits that read back, under a layout; `NaN`, `inf` and
`-inf` where there are no digits. -/
def text (layout : DecimalLayout) (x : Binary64) : String :=
  let sign := if x.isNegative then "-" else ""
  if x.isNaN then "NaN"
  else if x.isFinite then
    if x.magnitude = 0 then sign ++ "0.0"
    else sign ++ String.ofList (layout.write x.shortest)
  else sign ++ "inf"

end Binary64

end BackupControl
