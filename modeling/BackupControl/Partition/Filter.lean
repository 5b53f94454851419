/-
# Partition filters

A namespace is split into 4096 partitions, and a record lies in the one given by the first two
bytes of its digest.  A filter selects a run of partitions and may resume after a digest in the
first of them.  Filters are written as a list of selectors: a partition, a partition and a
count, or a digest in base64.
-/
import BackupControl.Numeric.Literal
import BackupControl.Text.Base64
import BackupControl.Text.Commas

namespace BackupControl

/-- How many partitions a namespace has. -/
def partitionCount : Int := 4096

/-- How many bytes a digest has. -/
def digestLength : Nat := 20

/-- The record after which a run of partitions is resumed. -/
structure DigestCursor where
  nameSpace : String
  digest : List UInt8
  deriving DecidableEq, Repr

/-- A run of `count` partitions from `start` on. -/
structure PartitionFilter where
  start : Int32
  count : Int32
  digest : Option DigestCursor := none
  deriving DecidableEq, Repr

namespace PartitionFilter

/-- Every partition. -/
def all : PartitionFilter := { start := 0, count := Int32.ofInt partitionCount }

end PartitionFilter

/-! ## Faults -/

/-- Why a text is no digest. -/
inductive DigestFault where
  | encoding (fault : Base64.Fault)
  | length (actual : Nat)
  deriving DecidableEq, Repr

/-- The wording of a fault. -/
def DigestFault.message : DigestFault → String
  | .encoding fault => fault.message
  | .length actual => s!"expected {digestLength} bytes, got {actual}"

/-- Why a text is no range of partitions. -/
inductive RangeFault where
  | empty
  | startNotANumber
  | countNotANumber
  | startOutOfRange
  | countTooSmall
  | pastTheEnd
  deriving DecidableEq, Repr

/-- The wording of a fault. -/
def RangeFault.message : RangeFault → String
  | .empty => "empty entry"
  | .startNotANumber => "partition id is not a number"
  | .countNotANumber => "partition count is not a number"
  | .startOutOfRange => "partition id must be between 0 and 4095"
  | .countTooSmall => "partition count must be at least 1"
  | .pastTheEnd => "range exceeds the last partition"

/-- Why a text is no selector. -/
inductive SelectorFault where
  | digest (input : String) (fault : DigestFault)
  | range (input : String) (fault : RangeFault)
  deriving DecidableEq, Repr

/-- The wording of a fault. -/
def SelectorFault.message : SelectorFault → String
  | .digest input fault => s!"invalid digest {input}: {fault.message}"
  | .range input fault => s!"invalid partition range {input}: {fault.message}"

/-! ## Digests -/

/-- The partition of a digest: the low twelve bits of its first two bytes, the lower byte
first. -/
def partitionOf (digest : List UInt8) : Int :=
  match digest with
  | low :: high :: _ => ((low.toNat + 256 * high.toNat) % 4096 : Nat)
  | _ => 0

/-- The cursor of a digest in base64. -/
def readDigest (nameSpace text : String) : Except SelectorFault DigestCursor :=
  match Base64.decode text with
  | .error fault => .error (.digest text (.encoding fault))
  | .ok bytes =>
    if bytes.length = digestLength then .ok ⟨nameSpace, bytes⟩
    else .error (.digest text (.length bytes.length))

/-- The filter of `count` partitions from that of a digest on. -/
def DigestCursor.filter (cursor : DigestCursor) (count : Int) : PartitionFilter where
  start := Int32.ofInt (partitionOf cursor.digest)
  count := Int32.ofInt count
  digest := some cursor

/-- Everything after a digest: the partitions from its own to the last. -/
def filterAfterDigest (nameSpace text : String) : Except SelectorFault PartitionFilter :=
  (readDigest nameSpace text).map fun cursor =>
    cursor.filter (partitionCount - partitionOf cursor.digest)

/-! ## Selectors -/

/-- A number of thirty-two bits with a sign. -/
def readSmallInt? (s : String) : Option Int := (readInteger (twoTo 31) (twoTo 31 - 1) s).toOption

/-- The selector is a number or two with a hyphen between, rather than a digest. -/
def isNumericSelector (cs : List Char) : Bool := cs.all fun c => c.isDigit || c == '-'

/-- The start and the count of a numeric selector; a single partition has no hyphen. -/
def selectorParts (cs : List Char) : String × String :=
  let start := String.ofList (cs.takeWhile (· != '-'))
  match cs.dropWhile (· != '-') with
  | _ :: count => (start, String.ofList count)
  | [] => (start, "1")

/-- The filter of a start and a count, both as text. -/
def readRange (startText countText : String) : Except RangeFault PartitionFilter :=
  match readSmallInt? startText with
  | none => .error .startNotANumber
  | some start =>
    match readSmallInt? countText with
    | none => .error .countNotANumber
    | some count =>
      if start < 0 ∨ partitionCount ≤ start then .error .startOutOfRange
      else if count < 1 then .error .countTooSmall
      else if partitionCount - start < count then .error .pastTheEnd
      else .ok { start := Int32.ofInt start, count := Int32.ofInt count }

/-- The filter of one selector. -/
def readSelector (nameSpace entry : String) : Except SelectorFault PartitionFilter :=
  let cs := entry.toList
  if cs.isEmpty then .error (.range entry .empty)
  else if isNumericSelector cs then
    let (start, count) := selectorParts cs
    (readRange start count).mapError (.range entry)
  else (readDigest nameSpace entry).map (·.filter 1)

/-- The filters of a list of selectors with commas between, up to the first that is none. -/
def readPartitionList (nameSpace list : String) : Except SelectorFault (List PartitionFilter) :=
  (commaPieces list.toList).mapM fun entry => readSelector nameSpace (String.ofList entry)

end BackupControl
