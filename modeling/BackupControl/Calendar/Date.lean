/-
# Dates and instants

The proleptic Gregorian calendar, in which the leap rule also holds before its introduction and
the year before year 1 is year 0.  Days are counted from 1 January of year 0, seconds from the
beginning of 1970.  Main definitions: `Date.dayNumber` and `Date.ofDayNumber`, each the inverse
of the other on dates that exist, and the text of an instant.
-/

namespace BackupControl

/-- A year, a month from 1 and a day of the month from 1. -/
structure Date where
  year : Int
  month : Nat
  day : Nat
  deriving DecidableEq, Repr, Inhabited

namespace Date

/-- Every fourth year is a leap year, every hundredth is not, every four-hundredth is. -/
def isLeap (year : Int) : Bool :=
  year % 4 == 0 && (year % 100 != 0 || year % 400 == 0)

/-- The lengths of the twelve months. -/
def monthLengths (leap : Bool) : List Nat :=
  [31, if leap then 29 else 28, 31, 30, 31, 30, 31, 31, 30, 31, 30, 31]

/-- How many days a month has; none for a month that does not exist. -/
def monthLength (year : Int) (month : Nat) : Nat :=
  if month = 0 then 0 else (monthLengths (isLeap year)).getD (month - 1) 0

/-- The date is one of the calendar. -/
def isValid (d : Date) : Bool := 1 ≤ d.day && d.day ≤ monthLength d.year d.month

/-- How many days lie between the beginning of year 0 and the beginning of a year. -/
def daysBeforeYear (year : Int) : Int :=
  365 * year + (year + 3) / 4 - (year + 99) / 100 + (year + 399) / 400

/-- How many days of the year lie before a month. -/
def daysBeforeMonth (year : Int) (month : Nat) : Nat :=
  ((monthLengths (isLeap year)).take (month - 1)).foldl (· + ·) 0

/-- How many days lie between the beginning of year 0 and a date. -/
def dayNumber (d : Date) : Int :=
  daysBeforeYear d.year + daysBeforeMonth d.year d.month + (d.day - 1)

/-- The year that a day falls in.  Counting a year as the four-hundredth part of the cycle of
146097 days is off by one year at most. -/
def yearOfDay (n : Int) : Int :=
  let y := n * 400 / 146097
  if n < daysBeforeYear y then y - 1
  else if daysBeforeYear (y + 1) ≤ n then y + 1
  else y

/-- The month and the day of the month of the `n`-th day, counted from 0, of months of given
lengths, the first of which has the number `month`. -/
def monthOfDay (month : Nat) : List Nat → Nat → Nat × Nat
  | [], n => (month, n + 1)
  | length :: rest, n =>
    if n < length then (month, n + 1) else monthOfDay (month + 1) rest (n - length)

/-- The date of a day number. -/
def ofDayNumber (n : Int) : Date :=
  let year := yearOfDay n
  let (month, day) :=
    monthOfDay 1 (monthLengths (isLeap year)) (n - daysBeforeYear year).toNat
  ⟨year, month, day⟩

/-- The day number of 1 January 1970. -/
def epochDay : Int := 719528

/-- A number with zeros in front up to a width. -/
def padded (width n : Nat) : String :=
  let ds := Nat.toDigits 10 n
  String.ofList (List.replicate (width - ds.length) '0' ++ ds)

/-- The text of a year: four digits, with a sign and more digits as needed outside
0 to 9999. -/
def yearText (year : Int) : String :=
  if year < 0 then "-" ++ padded 4 year.natAbs
  else if year ≤ 9999 then padded 4 year.natAbs
  else "+" ++ padded 4 year.natAbs

/-- The text of a date: year, month and day with hyphens between. -/
def text (d : Date) : String :=
  yearText d.year ++ "-" ++ padded 2 d.month ++ "-" ++ padded 2 d.day

end Date

/-! ## Clock times and instants -/

/-- A reading of a clock.  Second 60 is a leap second. -/
structure Clock where
  hour : Nat
  minute : Nat
  second : Nat
  deriving DecidableEq, Repr, Inhabited

namespace Clock

/-- The whole second of the day, in which a leap second counts as the one before it. -/
def secondOfDay (c : Clock) : Nat := c.hour * 3600 + c.minute * 60 + min c.second 59

/-- The clock shows a leap second. -/
def isLeap (c : Clock) : Bool := c.second = 60

/-- The text of a clock reading: two digits each, with colons between. -/
def text (c : Clock) : String :=
  Date.padded 2 c.hour ++ ":" ++ Date.padded 2 c.minute ++ ":" ++ Date.padded 2 c.second

end Clock

/-- A point in time: whole seconds since the beginning of 1970, and whether the leap second
that follows is meant. -/
structure Instant where
  seconds : Int
  leap : Bool
  deriving DecidableEq, Repr, Inhabited

namespace Instant

/-- The date in universal time. -/
def date (t : Instant) : Date := Date.ofDayNumber (t.seconds / 86400 + Date.epochDay)

/-- The clock in universal time; a leap second shows one second more. -/
def clock (t : Instant) : Clock :=
  let s := (t.seconds % 86400).toNat
  ⟨s / 3600, s / 60 % 60, s % 60 + if t.leap then 1 else 0⟩

/-- The text of an instant in universal time, down to the second. -/
def text (t : Instant) : String := t.date.text ++ "T" ++ t.clock.text ++ "Z"

end Instant

end BackupControl
