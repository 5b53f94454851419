/-
# Overlapping partition filters

A set of filters must not select a partition twice.  Filters of a single partition are compared
with each other only, and so are filters of several; a filter whose run would go past the
largest number of thirty-two bits ends there.
-/
import BackupControl.Partition.Filter

namespace BackupControl

/-- The first and the last partition of a run. -/
structure Interval where
  first : Int
  last : Int
  deriving DecidableEq, Repr

/-- The run of a filter. -/
def PartitionFilter.interval (f : PartitionFilter) : Interval where
  first := f.start.toInt
  last := min (f.start.toInt + (f.count.toInt - 1)) (twoTo 31 - 1)

/-- Why a set of filters is refused. -/
inductive OverlapFault where
  | repeatedPoint (start : Int)
  | badCount (count : Int)
  | overlap (a b : Interval)
  deriving DecidableEq, Repr

/-- The wording of a fault. -/
def OverlapFault.message : OverlapFault → String
  | .repeatedPoint start => s!"duplicate begin value {start} for count = 1"
  | .badCount count => s!"invalid partition filter count: {count}"
  | .overlap a b => s!"overlapping intervals: [{a.first}, {a.last}] and [{b.first}, {b.last}]"

/-- The runs of the filters with several partitions, in order, unless some filter has a count
below one or repeats a single partition. -/
def intervalsOf (points : List Int32) : List PartitionFilter → Except OverlapFault (List Interval)
  | [] => .ok []
  | f :: fs =>
    if f.count = 1 then
      if points.contains f.start then .error (.repeatedPoint f.start.toInt)
      else intervalsOf (f.start :: points) fs
    else if 1 < f.count then (intervalsOf points fs).map (f.interval :: ·)
    else .error (.badCount f.count.toInt)

/-- No run begins before the end of its neighbour on the left. -/
def checkNeighbours : List Interval → Except OverlapFault Unit
  | a :: b :: rest =>
    if b.first ≤ a.last then .error (.overlap a b) else checkNeighbours (b :: rest)
  | _ => .ok ()

/-- Accepts a set of filters that selects no partition twice. -/
def checkPartitions (filters : List PartitionFilter) : Except OverlapFault Unit :=
  match intervalsOf [] filters with
  | .error fault => .error fault
  | .ok runs => checkNeighbours (runs.mergeSort fun a b => decide (a.first ≤ b.first))

end BackupControl
