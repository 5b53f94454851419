/-
# Time zones

A zone is an offset east of universal time and a list of changes of that offset.  Reading a
local time asks for the instant at which a clock of the zone shows it.  A forward change skips
local times and a backward change repeats some; `Zone.resolve` settles both cases.
-/
import BackupControl.Calendar.Date

namespace BackupControl

/-- A change of the offset: the moment, in seconds since 1970, and the offset from then on. -/
structure OffsetChange where
  moment : Int
  offset : Int
  deriving DecidableEq, Repr

/-- A time zone: its offset in seconds before the first change, and its changes in order. -/
structure Zone where
  base : Int
  changes : List OffsetChange
  deriving DecidableEq, Repr

/-- Universal time. -/
def Zone.universal : Zone := ⟨0, []⟩

/-- What a local time means in a zone: it is shown once, under one offset; it is skipped; or it
is shown twice, under the earlier and the later offset. -/
inductive LocalReading where
  | once (offset : Int)
  | skipped
  | twice (earlier later : Int)
  deriving DecidableEq, Repr

namespace Zone

/-- The reading of a local time, given in seconds of the local calendar, while `offset` holds
before the remaining changes.  Both ends of a skipped interval are still read, the first with
the offset before the change and the last with the one after it. -/
def readFrom (offset : Int) (n : Int) : List OffsetChange → LocalReading
  | [] => .once offset
  | change :: rest =>
    let before := change.moment + offset
    let after := change.moment + change.offset
    if before < after then
      if n ≤ before then .once offset
      else if n < after then .skipped
      else if n = after then .once change.offset
      else readFrom change.offset n rest
    else
      if n < after then .once offset
      else if n ≤ before then .twice offset change.offset
      else readFrom change.offset n rest

/-- The reading of a local time in the zone. -/
def read (z : Zone) (n : Int) : LocalReading := readFrom z.base n z.changes

/-- The offset under which a local time is shown first, if it is shown at all. -/
def earliestOffset? (z : Zone) (n : Int) : Option Int :=
  match z.read n with
  | .once offset => some offset
  | .twice earlier _ => some earlier
  | .skipped => none

/-- The instant of a local time.  A repeated time is the earlier of the two instants.  A
skipped time is read with the offset of the same clock time one day earlier, which moves it
forward by the length of the gap; if that time is skipped too there is no instant. -/
def resolve (z : Zone) (n : Int) : Option Int :=
  match z.earliestOffset? n with
  | some offset => some (n - offset)
  | none => (z.earliestOffset? (n - 86400)).map (n - ·)

/-- The offset that holds at a moment: that of the last change up to it. -/
def offsetAt (z : Zone) (moment : Int) : Int :=
  match (z.changes.takeWhile fun change => change.moment ≤ moment).getLast? with
  | some change => change.offset
  | none => z.base

/-- The date that a calendar of the zone shows at a moment. -/
def dateAt (z : Zone) (moment : Int) : Date :=
  (Instant.mk (moment + z.offsetAt moment) false).date

end Zone

end BackupControl
