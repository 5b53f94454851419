/-
# Number literals

Whole numbers and decimal fractions as they are typed on a command line or inside an option.
A whole number is an optional sign and decimal digits, read from the left: the first character
that is not a digit, or the first digit that leaves the range, decides the fault.
-/
import BackupControl.Numeric.Binary64

namespace BackupControl

/-- Why a text is no whole number of the wanted range. -/
inductive NumberFault where
  | empty
  | invalidDigit
  | tooLarge
  | tooSmall
  deriving DecidableEq, Repr

/-- The wording of a fault. -/
def NumberFault.message : NumberFault → String
  | .empty => "cannot parse integer from empty string"
  | .invalidDigit => "invalid digit found in string"
  | .tooLarge => "number too large to fit in target type"
  | .tooSmall => "number too small to fit in target type"

/-- The value of an ASCII digit in a base up to sixteen. -/
def digitValue? (base : Nat) (c : Char) : Option Nat :=
  let v :=
    if '0' ≤ c ∧ c ≤ '9' then c.toNat - '0'.toNat
    else if 'a' ≤ c ∧ c ≤ 'f' then c.toNat - 'a'.toNat + 10
    else if 'A' ≤ c ∧ c ≤ 'F' then c.toNat - 'A'.toNat + 10
    else 16
  if v < base then some v else none

/-- The value of a nonempty run of digits in a base. -/
def digitsValue? (base : Nat) (cs : List Char) : Option Nat :=
  if cs.isEmpty then none
  else cs.foldlM (fun acc c => (digitValue? base c).map (base * acc + ·)) 0

/-! ## Whole numbers -/

/-- Reads decimal digits onto `acc`, stopping at the first fault; `limit` is the largest
magnitude that still fits, and `excess` the fault of going past it. -/
def readDigits (limit : Nat) (excess : NumberFault) :
    Nat → List Char → Except NumberFault Nat
  | acc, [] => .ok acc
  | acc, c :: cs =>
    match digitValue? 10 c with
    | none => .error .invalidDigit
    | some d =>
      if 10 * acc + d ≤ limit then readDigits limit excess (10 * acc + d) cs
      else .error excess

/-- The whole number between `-least` and `most` that a text denotes.  A minus sign is read
only where negative numbers are in range at all. -/
def readInteger (least most : Nat) (s : String) : Except NumberFault Int :=
  match s.toList with
  | [] => .error .empty
  | ['+'] => .error .invalidDigit
  | ['-'] => .error .invalidDigit
  | '+' :: cs => (readDigits most .tooLarge 0 cs).map Int.ofNat
  | '-' :: cs =>
    if 0 < least then (readDigits least .tooSmall 0 cs).map fun n => -(n : Int)
    else .error .invalidDigit
  | cs => (readDigits most .tooLarge 0 cs).map Int.ofNat

/-! ## Decimal fractions -/

/-- A decimal fraction without sign: digits around at most one point, at least one digit in
all, and an optional exponent. -/
def readMagnitude? (negative : Bool) (cs : List Char) : Option Binary64 :=
  let whole := cs.takeWhile Char.isDigit
  let rest := cs.dropWhile Char.isDigit
  let fraction := match rest with
    | '.' :: r => r.takeWhile Char.isDigit
    | _ => []
  let tail := match rest with
    | '.' :: r => r.dropWhile Char.isDigit
    | r => r
  let power : Option Int := match tail with
    | [] => some 0
    | e :: r =>
      if e = 'e' ∨ e = 'E' then
        match r with
        | '-' :: ds => (digitsValue? 10 ds).map fun n => -(n : Int)
        | '+' :: ds => (digitsValue? 10 ds).map Int.ofNat
        | ds => (digitsValue? 10 ds).map Int.ofNat
      else none
  match digitsValue? 10 (whole ++ fraction), power with
  | some n, some e =>
    some (Binary64.ofDecimal negative n (whole.length + fraction.length) (e - fraction.length))
  | _, _ => none

/-- A decimal fraction with an optional sign, or an infinity or NaN in letters of either
case. -/
def readReal? (s : String) : Option Binary64 :=
  let unsigned (negative : Bool) (cs : List Char) : Option Binary64 :=
    let word := String.ofList (cs.map Char.toLower)
    if word = "inf" ∨ word = "infinity" then some (Binary64.infinity negative)
    else if word = "nan" then some Binary64.nan
    else readMagnitude? negative cs
  match s.toList with
  | '-' :: cs => unsigned true cs
  | '+' :: cs => unsigned false cs
  | cs => unsigned false cs

end BackupControl
