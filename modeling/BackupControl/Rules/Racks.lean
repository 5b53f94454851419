/-
# Rack lists

A rack list is read item by item, and the first item that is no rack decides the fault.
-/
import BackupControl.Numeric.Literal
import BackupControl.Text.Commas
import BackupControl.Text.Quoted

namespace BackupControl

/-- The highest number of a rack. -/
def rackLimit : Nat := 1000000

/-- Why an item is no rack. -/
inductive RackFault where
  | notANumber (item : String) (fault : NumberFault)
  | negative (id : Int)
  | tooLarge (id : Int)
  deriving DecidableEq, Repr

/-- The wording of a fault. -/
def RackFault.message : RackFault → String
  | .notANumber item fault => s!"failed to parse racks: {quoted item}: {fault.message}"
  | .negative id => s!"rack id {id} invalid, should be non-negative number"
  | .tooLarge id => s!"rack id {id} invalid, should not exceed {rackLimit}"

/-- The rack that an item names. -/
def readRack (item : String) : Except RackFault UInt32 :=
  match readInteger (twoTo 63) (twoTo 63 - 1) item with
  | .error fault => .error (.notANumber item fault)
  | .ok id =>
    if id < 0 then .error (.negative id)
    else if (rackLimit : Int) < id then .error (.tooLarge id)
    else .ok (UInt32.ofNat id.toNat)

/-- The racks of a list, in order. -/
def readRacks (list : String) : Except RackFault (List UInt32) := (splitCommas list).mapM readRack

end BackupControl
