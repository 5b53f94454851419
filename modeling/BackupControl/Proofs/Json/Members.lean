/-
# Members found by their names

An object is a list of members, and a reader who asks for a name gets the first member of that
name.  Where no name stands twice in one object it does not matter which is first: every member
is found, and names one after another lead to every value inside.
-/
import BackupControl.Json.Read
import Mathlib.Data.List.Nodup

namespace BackupControl.Json

/-! ## Different names -/

/-- No object in the value has two members of one name. -/
inductive NamesApart : Json → Prop where
  | null : NamesApart .null
  | bool (b : Bool) : NamesApart (.bool b)
  | int (n : Int) : NamesApart (.int n)
  | real (x : Binary64) : NamesApart (.real x)
  | str (s : String) : NamesApart (.str s)
  | arr {items : List Json} (h : ∀ v ∈ items, NamesApart v) : NamesApart (.arr items)
  | obj {members : List (String × Json)} (hnames : (members.map (·.1)).Nodup)
      (h : ∀ m ∈ members, NamesApart m.2) : NamesApart (.obj members)

theorem namesApart_obj_iff {members : List (String × Json)} :
    NamesApart (.obj members) ↔
      (members.map (·.1)).Nodup ∧ ∀ m ∈ members, NamesApart m.2 := by
  constructor
  · rintro (_ | _ | _ | _ | _ | _ | ⟨hnames, h⟩)
    exact ⟨hnames, h⟩
  · exact fun h => .obj h.1 h.2

/-! ## Members -/

variable {members : List (String × Json)} {key : String} {v w : Json}

/-- A member is found under its name if no other has the name. -/
theorem member?_eq_some_iff (hnames : (members.map (·.1)).Nodup) :
    (obj members).member? key = some v ↔ (key, v) ∈ members := by
  have hmember : (obj members).member? key = (members.find? (·.1 == key)).map (·.2) := rfl
  rw [hmember, Option.map_eq_some_iff]
  constructor
  · rintro ⟨⟨k, w⟩, hfound, rfl⟩
    obtain rfl : k = key := by simpa using List.find?_some hfound
    exact List.mem_of_find?_eq_some hfound
  · intro hmem
    obtain ⟨found, hfound⟩ : ∃ found, members.find? (·.1 == key) = some found :=
      Option.isSome_iff_exists.1 (List.find?_isSome.2 ⟨_, hmem, beq_self_eq_true key⟩)
    have hname : found.1 = key := by simpa using List.find?_some hfound
    have hsame : found = (key, v) :=
      List.inj_on_of_nodup_map hnames (List.mem_of_find?_eq_some hfound) hmem hname
    exact ⟨found, hfound, congrArg Prod.snd hsame⟩

/-! ## Ways into a value -/

/-- The names of members, one inside the other, that lead from a value to one inside. -/
inductive Leads : List String → Json → Json → Prop where
  | here (v : Json) : Leads [] v v
  | member {key : String} {names : List String} {members : List (String × Json)} {v w : Json}
      (hmem : (key, v) ∈ members) (h : Leads names v w) : Leads (key :: names) (.obj members) w

/-- What a reader finds who asks for one name after another. -/
def at? (names : List String) (v : Json) : Option Json :=
  names.foldlM (fun v key => v.member? key) v

/-- Where names are different, a reader finds just what the names lead to. -/
theorem at?_eq_some_iff {names : List String} (hv : v.NamesApart) :
    v.at? names = some w ↔ Leads names v w := by
  induction names generalizing v with
  | nil =>
    constructor
    · intro h
      obtain rfl := Option.some.inj h
      exact .here v
    · rintro ⟨⟩
      rfl
  | cons key names ih =>
    have hat : v.at? (key :: names) = (v.member? key).bind (at? names) := rfl
    rw [hat, Option.bind_eq_some_iff]
    cases hv with
    | obj hnames hmembers =>
      constructor
      · rintro ⟨u, hu, hw⟩
        have hmem := (member?_eq_some_iff hnames).1 hu
        exact .member hmem ((ih (hmembers _ hmem)).1 hw)
      · rintro (_ | ⟨hmem, h⟩)
        exact ⟨_, (member?_eq_some_iff hnames).2 hmem, (ih (hmembers _ hmem)).2 h⟩
    | _ => exact ⟨fun ⟨_, hu, _⟩ => absurd hu nofun, nofun⟩

end BackupControl.Json
