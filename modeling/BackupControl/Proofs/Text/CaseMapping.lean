/-
# Two notions of case

Words are compared without regard to the case of the letters A to Z, and written with the case
mapping of all characters.  What agrees with an ASCII text in the comparison is an ASCII text
itself, and on such texts the mapping changes the letters A to Z only, so texts that agree are
written alike.
-/
import BackupControl.Text.CaseMapping
import Mathlib.Data.List.Basic

namespace BackupControl

/-! ## Characters -/

/-- What holds of the first 128 characters holds of every ASCII character. -/
theorem forall_ascii {p : Char → Prop} (h : ∀ n < 128, p (Char.ofNat n)) {c : Char}
    (hc : c.toNat < 128) : p c := by
  have hchar := h c.toNat hc
  rwa [Char.ofNat_toNat] at hchar

/-- A character beyond ASCII is no letter A to Z. -/
theorem toLower_of_beyond_ascii {c : Char} (hc : 128 ≤ c.toNat) : c.toLower = c := by
  have hcapital : ¬ (c.val ≥ 'A'.val ∧ c.val ≤ 'Z'.val) := by
    rintro ⟨-, hlast⟩
    have hsmall : c.toNat ≤ 90 := UInt32.le_iff_toNat_le.1 hlast
    omega
  exact dif_neg hcapital

/-- A character is an ASCII character just if it is one in lower case. -/
theorem toLower_ascii_iff {c : Char} : c.toLower.toNat < 128 ↔ c.toNat < 128 := by
  constructor
  · intro h
    refine Nat.lt_of_not_le fun hbeyond => ?_
    rw [toLower_of_beyond_ascii hbeyond] at h
    exact Nat.not_lt.2 hbeyond h
  · exact forall_ascii (p := fun c => c.toLower.toNat < 128) (by decide +kernel)

/-- The capital of an ASCII letter is that of its small form. -/
theorem toUpper_toLower_of_ascii {c : Char} (hc : c.toNat < 128) :
    c.toLower.toUpper = c.toUpper :=
  forall_ascii (p := fun c => c.toLower.toUpper = c.toUpper) (by decide +kernel) hc

/-- For an ASCII character, the runs and expansions that begin beyond ASCII can be left out. -/
theorem mapCase_of_ascii {run : CaseRun} {runs : List CaseRun} {expansions : List (Nat × List Nat)}
    (hruns : ∀ r ∈ runs, 128 ≤ r.first) (hexpansions : ∀ e ∈ expansions, 128 ≤ e.1) {c : Char}
    (hc : c.toNat < 128) : mapCase (run :: runs) expansions c = mapCase [run] [] c := by
  have hlookup : expansions.lookup c.toNat = none := by
    refine List.lookup_eq_none_iff.2 fun e he => ?_
    have hbeyond := hexpansions e he
    exact bne_iff_ne.2 (by omega)
  have hfind : runs.find? (·.covers c.toNat) = none := by
    refine List.find?_eq_none.2 fun r hr hcovers => ?_
    have hbeyond := hruns r hr
    simp only [CaseRun.covers, Bool.and_eq_true, decide_eq_true_eq] at hcovers
    omega
  rw [mapCase, mapCase, hlookup, List.lookup_nil, List.find?_cons, List.find?_cons, hfind,
    List.find?_nil]

/-- In upper case, an ASCII character changes only if it is a small letter. -/
theorem mapCase_upper_of_ascii {c : Char} (hc : c.toNat < 128) :
    mapCase upperRuns upperExpansions c = [c.toUpper] := by
  have hruns : upperRuns = ⟨0x61, 0x7a, 1, -32⟩ :: upperRuns.tail := rfl
  rw [hruns, mapCase_of_ascii (by decide +kernel) (by decide +kernel) hc]
  exact forall_ascii (p := fun c => mapCase [⟨0x61, 0x7a, 1, -32⟩] [] c = [c.toUpper])
    (by decide +kernel) hc

/-- In lower case, an ASCII character changes only if it is a capital. -/
theorem mapCase_lower_of_ascii {c : Char} (hc : c.toNat < 128) :
    mapCase lowerRuns lowerExpansions c = [c.toLower] := by
  have hruns : lowerRuns = ⟨0x41, 0x5a, 1, 32⟩ :: lowerRuns.tail := rfl
  rw [hruns, mapCase_of_ascii (by decide +kernel) (by decide +kernel) hc]
  exact forall_ascii (p := fun c => mapCase [⟨0x41, 0x5a, 1, 32⟩] [] c = [c.toLower])
    (by decide +kernel) hc

/-! ## Texts -/

/-- The text has ASCII characters only. -/
def IsAscii (s : String) : Prop := ∀ c ∈ s.toList, c.toNat < 128

instance (s : String) : Decidable (IsAscii s) :=
  List.decidableBAll (fun c : Char => c.toNat < 128) s.toList

/-- An ASCII text in upper case has the capitals of its letters. -/
theorem upperCase_of_isAscii {s : String} (h : IsAscii s) :
    upperCase s = String.ofList (s.toList.map Char.toUpper) := by
  have hmap : s.toList.flatMap (mapCase upperRuns upperExpansions) =
      s.toList.flatMap fun c => [c.toUpper] :=
    List.flatMap_congr fun c hc => mapCase_upper_of_ascii (h c hc)
  rw [upperCase, hmap, List.map_eq_flatMap]

/-- No form of the sigma is at issue in an ASCII text. -/
theorem lowerFrom_of_ascii {before cs : List Char} (h : ∀ c ∈ cs, c.toNat < 128) :
    lowerFrom before cs = cs.map Char.toLower := by
  induction cs generalizing before with
  | nil => rfl
  | cons c cs ih =>
    obtain ⟨hc, hcs⟩ := List.forall_mem_cons.1 h
    have hsigma : c ≠ 'Σ' := by
      rintro rfl
      exact absurd hc (by decide)
    rw [lowerFrom, if_neg hsigma, mapCase_lower_of_ascii hc, ih hcs, List.map_cons,
      List.singleton_append]

/-- An ASCII text in lower case has the small forms of its letters. -/
theorem lowerCase_of_isAscii {s : String} (h : IsAscii s) :
    lowerCase s = String.ofList (s.toList.map Char.toLower) := by
  rw [lowerCase, lowerFrom_of_ascii h]

/-! ## The comparison -/

/-- Texts agree just if their letters A to Z do in lower case. -/
theorem eqIgnoringAsciiCase_iff {s t : String} :
    eqIgnoringAsciiCase s t = true ↔ s.toList.map Char.toLower = t.toList.map Char.toLower :=
  beq_iff_eq

/-- The comparison does not depend on which of two texts that agree is compared. -/
theorem eqIgnoringAsciiCase_congr {s s' : String} (h : eqIgnoringAsciiCase s' s = true)
    (t : String) : eqIgnoringAsciiCase t s' = eqIgnoringAsciiCase t s := by
  rw [eqIgnoringAsciiCase, eqIgnoringAsciiCase, eqIgnoringAsciiCase_iff.1 h]

/-- Texts that agree do so either way. -/
theorem eqIgnoringAsciiCase_comm (s t : String) :
    eqIgnoringAsciiCase s t = eqIgnoringAsciiCase t s :=
  Bool.beq_comm

/-- Of texts that agree, both are empty or neither is. -/
theorem eq_empty_iff_of_eqIgnoringAsciiCase {s t : String} (h : eqIgnoringAsciiCase s t = true) :
    s = "" ↔ t = "" := by
  have hlength := congrArg List.length (eqIgnoringAsciiCase_iff.1 h)
  rw [List.length_map, List.length_map] at hlength
  rw [← String.toList_eq_nil_iff, ← String.toList_eq_nil_iff, ← List.length_eq_zero_iff,
    ← List.length_eq_zero_iff, hlength]

/-- So a comparison with the empty text gives the same for both. -/
theorem beq_empty_congr {s t : String} (h : eqIgnoringAsciiCase s t = true) :
    (s == "") = (t == "") :=
  Bool.eq_iff_iff.2 (by rw [beq_iff_eq, beq_iff_eq, eq_empty_iff_of_eqIgnoringAsciiCase h])

/-- A text that agrees with an ASCII text is one. -/
theorem IsAscii.of_eqIgnoringAsciiCase {s t : String} (ht : IsAscii t)
    (h : eqIgnoringAsciiCase s t = true) : IsAscii s := by
  intro c hc
  have hlower : c.toLower ∈ t.toList.map Char.toLower := by
    rw [← eqIgnoringAsciiCase_iff.1 h]
    exact List.mem_map_of_mem hc
  obtain ⟨c', hc', heq⟩ := List.mem_map.1 hlower
  rw [← toLower_ascii_iff, ← heq, toLower_ascii_iff]
  exact ht c' hc'

/-- A case mapping writes what agrees with an ASCII text like that text. -/
def KeepsAgreement (toCase : String → String) : Prop :=
  ∀ s t, IsAscii t → eqIgnoringAsciiCase s t = true → toCase s = toCase t

/-- Texts that agree are written alike in upper case. -/
theorem upperCase_keepsAgreement : KeepsAgreement upperCase := by
  have hupper {s : String} (hs : IsAscii s) :
      s.toList.map Char.toUpper = (s.toList.map Char.toLower).map Char.toUpper := by
    rw [List.map_map]
    exact List.map_congr_left fun c hc => (toUpper_toLower_of_ascii (hs c hc)).symm
  intro s t ht h
  have hs := ht.of_eqIgnoringAsciiCase h
  rw [upperCase_of_isAscii hs, upperCase_of_isAscii ht, hupper hs, hupper ht,
    eqIgnoringAsciiCase_iff.1 h]

/-- Texts that agree are written alike in lower case. -/
theorem lowerCase_keepsAgreement : KeepsAgreement lowerCase := by
  intro s t ht h
  rw [lowerCase_of_isAscii (ht.of_eqIgnoringAsciiCase h), lowerCase_of_isAscii ht,
    eqIgnoringAsciiCase_iff.1 h]

/-- Beyond ASCII the comparison and the mapping part: the long s has the capital of an s. -/
example : upperCase "aeſ128" = "AES128" ∧ eqIgnoringAsciiCase "aeſ128" "AES128" = false := by
  decide +kernel

end BackupControl
