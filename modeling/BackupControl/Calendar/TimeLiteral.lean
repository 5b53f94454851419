/-
# Time literals

A bound on the modification time is typed as a date and a clock time, as a clock time of the
current day, or as a date that means its midnight, always in the local zone.  The shape of a
literal is decided first, and any decimal digit of any script counts for it; the fields are
then read from the left with ASCII digits alone, each checked against its own range as soon as
it is read.
-/
import BackupControl.Calendar.Zone
import BackupControl.Text.DecimalDigit

namespace BackupControl

/-- Why a literal of the right shape denotes no time. -/
inductive TimeFault where
  | outOfRange
  | invalidCharacters
  | trailingInput
  | skippedInZone
  deriving DecidableEq, Repr

/-- The wording of a fault. -/
def TimeFault.message : TimeFault → String
  | .outOfRange => "input is out of range"
  | .invalidCharacters => "input contains invalid characters"
  | .trailingInput => "trailing input"
  | .skippedInZone => "time does not exist in the local time zone"

/-- A place of a shape: a decimal digit of any script, or one certain character. -/
def fitsPlace (place : Char) (c : Char) : Bool :=
  if place = '9' then isDecimalDigit c else c == place

/-- The characters fill the places of a shape one by one. -/
def hasShape (shape : String) (cs : List Char) : Bool :=
  shape.toList.length == cs.length && (shape.toList.zip cs).all fun (p, c) => fitsPlace p c

/-! ## Fields -/

/-- A reader of characters from the left. -/
abbrev FieldReader := StateT (List Char) (Except TimeFault)

namespace FieldReader

/-- A number of up to `width` ASCII digits, at least one, between two bounds. -/
def number (width least most : Nat) : FieldReader Nat := do
  let cs ← get
  let ds := (cs.take width).takeWhile Char.isDigit
  if ds.isEmpty then throw .invalidCharacters
  let n := ds.foldl (fun acc c => 10 * acc + (c.toNat - '0'.toNat)) 0
  if n < least ∨ most < n then throw .outOfRange
  set (cs.drop ds.length)
  return n

/-- One certain character. -/
def mark (c : Char) : FieldReader Unit := do
  match (← get) with
  | d :: rest => if d = c then set rest else throw .invalidCharacters
  | [] => throw .invalidCharacters

/-- The end of the literal. -/
def finish : FieldReader Unit := do
  unless (← get).isEmpty do throw .trailingInput

/-- Year, month and day with hyphens between.  Whether the month has the day is left open. -/
def date : FieldReader Date := do
  let year ← number 4 0 9999
  mark '-'
  let month ← number 2 1 12
  mark '-'
  let day ← number 2 1 31
  return ⟨year, month, day⟩

/-- Hour, minute and second with colons between; second 60 is a leap second. -/
def clock : FieldReader Clock := do
  let hour ← number 2 0 23
  mark ':'
  let minute ← number 2 0 59
  mark ':'
  let second ← number 2 0 60
  return ⟨hour, minute, second⟩

/-- A date and a clock time with an underscore between, to the end of the literal. -/
def dateAndClock : FieldReader (Date × Clock) := do
  let d ← date
  mark '_'
  let c ← clock
  finish
  return (d, c)

/-- A clock time to the end of the literal, on a given date. -/
def clockOn (d : Date) : FieldReader (Date × Clock) := do
  let c ← clock
  finish
  return (d, c)

end FieldReader

/-! ## Literals -/

/-- Why a text is no time literal: it has none of the shapes, or it has one and denotes no
time. -/
inductive TimeLiteralFault where
  | unknownFormat
  | malformed (fault : TimeFault)
  deriving DecidableEq, Repr

/-- The local date and clock time that a literal denotes on a given day. -/
def readLocalTime (today : Date) (input : String) : Except TimeLiteralFault (Date × Clock) :=
  let cs := input.toList
  let fields : Except TimeLiteralFault (Date × Clock) :=
    if hasShape "9999-99-99_99:99:99" cs then
      (FieldReader.dateAndClock.run' cs).mapError .malformed
    else if hasShape "99:99:99" cs then
      ((FieldReader.clockOn today).run' cs).mapError .malformed
    else if hasShape "9999-99-99" cs then
      (FieldReader.dateAndClock.run' (cs ++ "_00:00:00".toList)).mapError .malformed
    else .error .unknownFormat
  match fields with
  | .ok (d, c) => if d.isValid then .ok (d, c) else .error (.malformed .outOfRange)
  | .error e => .error e

/-- The seconds of the local calendar at a date and clock time, counted from 1970. -/
def localSeconds (d : Date) (c : Clock) : Int :=
  (d.dayNumber - Date.epochDay) * 86400 + c.secondOfDay

/-- The instant that a literal denotes in a zone, on a given day of that zone. -/
def readTime (zone : Zone) (today : Date) (input : String) : Except TimeLiteralFault Instant :=
  match readLocalTime today input with
  | .error e => .error e
  | .ok (d, c) =>
    match zone.resolve (localSeconds d c) with
    | some seconds => .ok ⟨seconds, c.isLeap⟩
    | none => .error (.malformed .skippedInZone)

end BackupControl
