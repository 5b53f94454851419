/-
# What a rack list accepts

An item of a rack list is a literal of a number between zero and the limit.  Such a number fits
its type, so the rack that is read is the number itself.  The first item that is no such literal
decides the fault of the list.

Main statement: `racks_read_all_or_first_fault`.
-/
import BackupControl.Job.Policies
import BackupControl.Proofs.Numeric.IntegerFault
import Mathlib.Algebra.Group.Int.Defs
import Mathlib.Algebra.Group.Nat.Defs

namespace BackupControl

/-- The rack that an item names. -/
def NamesRack (item : String) (rack : UInt32) : Prop :=
  IntegerLiteral item.toList rack.toNat ∧ rack.toNat ≤ rackLimit

/-- A literal of a number up to the limit names the rack of that number, which fits its type. -/
theorem namesRack_of_literal {item : String} {id : Int} (hliteral : IntegerLiteral item.toList id)
    (hnonneg : 0 ≤ id) (hlimit : id ≤ rackLimit) : NamesRack item (UInt32.ofNat id.toNat) := by
  have hsmall : rackLimit < UInt32.size := by decide
  have hrack : (UInt32.ofNat id.toNat).toNat = id.toNat := UInt32.toNat_ofNat_of_lt' (by omega)
  rw [NamesRack, hrack, Int.toNat_of_nonneg hnonneg]
  exact ⟨hliteral, by omega⟩

/-- An item names a rack just if it is a literal of a number up to the limit. -/
theorem exists_namesRack_iff {item : String} :
    (∃ rack, NamesRack item rack) ↔
      ∃ id : Int, IntegerLiteral item.toList id ∧ 0 ≤ id ∧ id ≤ rackLimit := by
  constructor
  · rintro ⟨rack, hliteral, hlimit⟩
    exact ⟨rack.toNat, hliteral, by omega, Int.ofNat_le.2 hlimit⟩
  · rintro ⟨id, hliteral, hnonneg, hlimit⟩
    exact ⟨_, namesRack_of_literal hliteral hnonneg hlimit⟩

/-! ## Faults -/

/-- An item is a literal of a number of sixty-four bits. -/
def IsLiteral64 (item : String) (id : Int) : Prop :=
  IntegerLiteral item.toList id ∧ -2 ^ 63 ≤ id ∧ id < 2 ^ 63

/-- An item is a literal of a number between zero and the limit. -/
def IsRackLiteral (item : String) : Prop := ∃ id, IsLiteral64 item id ∧ 0 ≤ id ∧ id ≤ rackLimit

/-- Why an item names no rack. -/
inductive RackOffence (item : String) : RackFault → Prop where
  /-- It is no literal. -/
  | notANumber {fault : NumberFault} (hliteral : ∀ id, ¬ IsLiteral64 item id)
      (hfault : IntegerFault (2 ^ 63) (2 ^ 63 - 1) item.toList fault) :
      RackOffence item (.notANumber item fault)
  /-- Its number is negative. -/
  | negative {id : Int} (hliteral : IsLiteral64 item id) (hnegative : id < 0) :
      RackOffence item (.negative id)
  /-- Its number is above the limit. -/
  | tooLarge {id : Int} (hliteral : IsLiteral64 item id) (hlarge : rackLimit < id) :
      RackOffence item (.tooLarge id)

/-- The literal of a rack is that of a number of sixty-four bits. -/
theorem NamesRack.isLiteral64 {item : String} {rack : UInt32} (h : NamesRack item rack) :
    IsLiteral64 item rack.toNat := by
  have hsmall : (rackLimit : Int) < 2 ^ 63 := by decide
  have hlimit := h.2
  exact ⟨h.1, by omega, by omega⟩

/-- The items that name a rack are the literals of numbers up to the limit. -/
theorem isRackLiteral_iff {item : String} : IsRackLiteral item ↔ ∃ rack, NamesRack item rack := by
  constructor
  · rintro ⟨id, ⟨hliteral, -, -⟩, hnonneg, hlimit⟩
    exact ⟨_, namesRack_of_literal hliteral hnonneg hlimit⟩
  · rintro ⟨rack, h⟩
    exact ⟨rack.toNat, h.isLiteral64, by omega, Int.ofNat_le.2 h.2⟩

/-! ## Readings -/

/-- A number of sixty-four bits is read just if the item is a literal of it. -/
theorem readInteger_eq_ok_iff_isLiteral64 {item : String} {id : Int} :
    readInteger (twoTo 63) (twoTo 63 - 1) item = .ok id ↔ IsLiteral64 item id := by
  have hlimit : ((twoTo 63 - 1 : Nat) : Int) = 2 ^ 63 - 1 := rfl
  have hleast : ((twoTo 63 : Nat) : Int) = 2 ^ 63 := rfl
  rw [readInteger_eq_ok_iff (by decide), hlimit, hleast, Int.le_sub_one_iff, IsLiteral64]

/-- No number of sixty-four bits is read just for what is wrong with the item. -/
theorem readInteger_eq_error_iff_integerFault {item : String} {fault : NumberFault} :
    readInteger (twoTo 63) (twoTo 63 - 1) item = .error fault ↔
      IntegerFault (2 ^ 63) (2 ^ 63 - 1) item.toList fault :=
  readInteger_eq_error_iff (by decide)

/-- An item that names a rack is read as that. -/
theorem NamesRack.readRack_eq {item : String} {rack : UInt32} (h : NamesRack item rack) :
    readRack item = .ok rack := by
  have hnonneg : ¬ (rack.toNat : Int) < 0 := by omega
  have hlimit : ¬ (rackLimit : Int) < rack.toNat := Int.not_lt.2 (Int.ofNat_le.2 h.2)
  rw [readRack, readInteger_eq_ok_iff_isLiteral64.2 h.isLiteral64]
  dsimp only
  rw [if_neg hnonneg, if_neg hlimit, Int.toNat_natCast, UInt32.ofNat_toNat]

/-- An item with an offence is not read. -/
theorem RackOffence.readRack_eq {item : String} {fault : RackFault} (h : RackOffence item fault) :
    readRack item = .error fault := by
  cases h with
  | notANumber _ hfault => rw [readRack, readInteger_eq_error_iff_integerFault.2 hfault]
  | negative hliteral hnegative =>
    rw [readRack, readInteger_eq_ok_iff_isLiteral64.2 hliteral]
    exact if_pos hnegative
  | tooLarge hliteral hlarge =>
    rw [readRack, readInteger_eq_ok_iff_isLiteral64.2 hliteral]
    exact (if_neg (by omega)).trans (if_pos hlarge)

/-- An item names a rack or has an offence. -/
theorem namesRack_or_offence (item : String) :
    (∃ rack, NamesRack item rack) ∨ ∃ fault, RackOffence item fault := by
  cases hread : readInteger (twoTo 63) (twoTo 63 - 1) item with
  | error fault =>
    have hliteral : ∀ id, ¬ IsLiteral64 item id := fun id h =>
      absurd (hread.symm.trans (readInteger_eq_ok_iff_isLiteral64.2 h)) nofun
    exact .inr ⟨_, .notANumber hliteral (readInteger_eq_error_iff_integerFault.1 hread)⟩
  | ok id =>
    have hliteral := readInteger_eq_ok_iff_isLiteral64.1 hread
    by_cases hnegative : id < 0
    · exact .inr ⟨_, .negative hliteral hnegative⟩
    · by_cases hlarge : (rackLimit : Int) < id
      · exact .inr ⟨_, .tooLarge hliteral hlarge⟩
      · exact .inl ⟨_, namesRack_of_literal hliteral.1 (Int.not_lt.1 hnegative)
          (Int.not_lt.1 hlarge)⟩

/-- An item is read as the rack that it names. -/
theorem readRack_eq_ok_iff {item : String} {rack : UInt32} :
    readRack item = .ok rack ↔ NamesRack item rack := by
  refine ⟨fun h => ?_, (·.readRack_eq)⟩
  obtain ⟨_, hnames⟩ | ⟨_, hoffence⟩ := namesRack_or_offence item
  · obtain rfl := Except.ok.inj (h.symm.trans hnames.readRack_eq)
    exact hnames
  · exact absurd (h.symm.trans hoffence.readRack_eq) nofun

/-- An item is not read as a rack just for its offence. -/
theorem readRack_eq_error_iff {item : String} {fault : RackFault} :
    readRack item = .error fault ↔ RackOffence item fault := by
  refine ⟨fun h => ?_, (·.readRack_eq)⟩
  obtain ⟨_, hnames⟩ | ⟨_, hoffence⟩ := namesRack_or_offence item
  · exact absurd (h.symm.trans hnames.readRack_eq) nofun
  · obtain rfl := Except.error.inj (h.symm.trans hoffence.readRack_eq)
    exact hoffence

/-- The racks of a list are those that its items name, in order. -/
theorem readRacks_eq_ok_iff {list : String} {racks : List UInt32} :
    readRacks list = .ok racks ↔ List.Forall₂ NamesRack (splitCommas list) racks := by
  simp only [readRacks, mapM_eq_ok_iff, readRack_eq_ok_iff]

/-- A list has racks just if each of its items is a literal of a number up to the limit. -/
theorem exists_readRacks_iff {list : String} :
    (∃ racks, readRacks list = .ok racks) ↔
      ∀ item ∈ splitCommas list,
        ∃ id : Int, IntegerLiteral item.toList id ∧ 0 ≤ id ∧ id ≤ rackLimit := by
  simp only [readRacks, exists_mapM_eq_ok_iff, readRack_eq_ok_iff, exists_namesRack_iff]

/-- A list has no racks just for the first of its items that names none. -/
theorem readRacks_eq_error_iff {list : String} {fault : RackFault} :
    readRacks list = .error fault ↔
      ∃ front item back, splitCommas list = front ++ item :: back ∧
        (∀ earlier ∈ front, ∃ rack, NamesRack earlier rack) ∧ RackOffence item fault := by
  simp only [readRacks, mapM_eq_error_iff, readRack_eq_ok_iff, readRack_eq_error_iff]

/-! ## Thirty-two bits -/

/-- A whole number as one of thirty-two bits, if it fits them. -/
def narrow? (id : Int) : Option UInt32 :=
  if 0 ≤ id ∧ id < 2 ^ 32 then some (UInt32.ofNat id.toNat) else none

/-- Why an item is no rack, when its number may also be one that does not fit. -/
inductive NarrowingFault where
  | rack (fault : RackFault)
  | unfit (id : Int)

/-- The rack that an item names, with a number that does not fit as a fault of its own. -/
def readRackNarrowing (item : String) : Except NarrowingFault UInt32 :=
  match readInteger (twoTo 63) (twoTo 63 - 1) item with
  | .error fault => .error (.rack (.notANumber item fault))
  | .ok id =>
    if id < 0 then .error (.rack (.negative id))
    else if (rackLimit : Int) < id then .error (.rack (.tooLarge id))
    else
      match narrow? id with
      | some rack => .ok rack
      | none => .error (.unfit id)

/-- A number between zero and the limit fits. -/
theorem narrow?_of_le_rackLimit {id : Int} (hnonneg : 0 ≤ id) (hlimit : id ≤ rackLimit) :
    narrow? id = some (UInt32.ofNat id.toNat) := by
  have hsmall : (rackLimit : Int) < 2 ^ 32 := by decide
  exact if_pos ⟨hnonneg, by omega⟩

/-- No number fails to fit, since those that do not are refused before. -/
theorem readRackNarrowing_eq (item : String) :
    readRackNarrowing item = (readRack item).mapError .rack := by
  unfold readRackNarrowing readRack
  cases readInteger (twoTo 63) (twoTo 63 - 1) item with
  | error fault => rfl
  | ok id =>
    dsimp only
    split
    · rfl
    · rename_i hnonneg
      split
      · rfl
      · rename_i hlimit
        rw [narrow?_of_le_rackLimit (Int.not_lt.1 hnonneg) (Int.not_lt.1 hlimit)]
        rfl

/-! ## Rack lists -/

/-- **The racks of a scan are read all, or the first item that names none is reported.**

* Racks are read just if each item is a literal of the rack in its place, which is at most the
  limit.
* They are read at all just if each item is a literal of a number between zero and the limit.
* Otherwise the fault is that of the first item that is not: it is no literal of a number of
  sixty-four bits, or its number is negative or above the limit.
* The empty list has no racks.
* A number that passes fits a rack, so the last step never fails and cuts nothing off. -/
theorem racks_read_all_or_first_fault (g : Scan Settled) :
    (∀ racks, g.racks = .ok racks ↔ List.Forall₂ NamesRack (splitCommas g.rackList) racks) ∧
    ((∃ racks, g.racks = .ok racks) ↔ ∀ item ∈ splitCommas g.rackList, IsRackLiteral item) ∧
    (∀ fault, g.racks = .error fault ↔
      ∃ front item back offence, splitCommas g.rackList = front ++ item :: back ∧
        (∀ earlier ∈ front, IsRackLiteral earlier) ∧ RackOffence item offence ∧
        fault = .rack offence) ∧
    readRacks "" = .ok [] ∧
    ∀ item, readRackNarrowing item = (readRack item).mapError .rack := by
  have hsome : ∀ item, IsRackLiteral item ↔ ∃ rack, NamesRack item rack := fun _ =>
    isRackLiteral_iff
  refine ⟨fun racks => ?_, ?_, fun fault => ?_, rfl, readRackNarrowing_eq⟩
  · rw [Scan.racks, mapError_eq_ok_iff, readRacks_eq_ok_iff]
  · simp only [Scan.racks, mapError_eq_ok_iff, readRacks, exists_mapM_eq_ok_iff,
      readRack_eq_ok_iff, hsome]
  · simp only [Scan.racks, mapError_eq_error_iff, readRacks_eq_error_iff, hsome]
    constructor
    · rintro ⟨offence, ⟨front, item, back, hsplit, hfront, hoffence⟩, rfl⟩
      exact ⟨front, item, back, offence, hsplit, hfront, hoffence, rfl⟩
    · rintro ⟨front, item, back, offence, hsplit, hfront, hoffence, rfl⟩
      exact ⟨offence, ⟨front, item, back, hsplit, hfront, hoffence⟩, rfl⟩

end BackupControl
