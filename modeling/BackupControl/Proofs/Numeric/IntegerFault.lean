/-
# Why a text is no whole number

Digits are read from the left onto the number so far.  The first character that cannot be read
decides the fault: one that is no digit, or a digit with which the number leaves the range.
What stands behind it does not matter.
-/
import BackupControl.Proofs.Numeric.IntegerLiteral

namespace BackupControl

/-! ## Digits -/

/-- Where digits that are read onto a number go wrong. -/
inductive DigitsFault (limit : Nat) (excess : NumberFault) (acc : Nat) :
    List Char → NumberFault → Prop where
  /-- The number is in range up to a character that is no digit. -/
  | stray (front : List Char) {back : List Char} {c : Char}
      (hfront : ∀ d ∈ front, d.isDigit = true)
      (hlimit : Nat.ofDigitChars 10 front acc ≤ limit) (hc : c.isDigit = false) :
      DigitsFault limit excess acc (front ++ c :: back) .invalidDigit
  /-- The number is in range up to a digit, and no longer with it. -/
  | passed (front : List Char) {back : List Char} {c : Char}
      (hfront : ∀ d ∈ front, d.isDigit = true)
      (hlimit : Nat.ofDigitChars 10 front acc ≤ limit) (hc : c.isDigit = true)
      (hpassed : limit < Nat.ofDigitChars 10 (front ++ [c]) acc) :
      DigitsFault limit excess acc (front ++ c :: back) excess

section Digits

variable {limit acc : Nat} {excess fault : NumberFault} {c : Char} {cs : List Char}

/-- Where there are no digits, none goes wrong. -/
theorem not_digitsFault_nil : ¬ DigitsFault limit excess acc [] fault := by
  intro h
  generalize hcs : ([] : List Char) = cs at h
  cases h with
  | stray => exact absurd hcs.symm (List.append_ne_nil_of_right_ne_nil _ (List.cons_ne_nil _ _))
  | passed => exact absurd hcs.symm (List.append_ne_nil_of_right_ne_nil _ (List.cons_ne_nil _ _))

/-- Digits go wrong at their head, or behind it when the number is still in range with it. -/
theorem digitsFault_cons_iff (hacc : acc ≤ limit) :
    DigitsFault limit excess acc (c :: cs) fault ↔
      (c.isDigit = false ∧ fault = .invalidDigit) ∨
      (c.isDigit = true ∧ limit < 10 * acc + (c.toNat - '0'.toNat) ∧ fault = excess) ∨
      (c.isDigit = true ∧ 10 * acc + (c.toNat - '0'.toNat) ≤ limit ∧
        DigitsFault limit excess (10 * acc + (c.toNat - '0'.toNat)) cs fault) := by
  constructor
  · intro h
    generalize hcs : c :: cs = text at h
    cases h with
    | stray front hfront hlimit hd =>
      cases front with
      | nil =>
        obtain ⟨rfl, -⟩ := List.cons.inj hcs
        exact .inl ⟨hd, rfl⟩
      | cons e front =>
        obtain ⟨rfl, rfl⟩ := List.cons.inj hcs
        obtain ⟨hc, hfront⟩ := List.forall_mem_cons.1 hfront
        exact .inr (.inr ⟨hc, Nat.le_trans (le_ofDigitChars _ front) hlimit,
          .stray front hfront hlimit hd⟩)
    | passed front hfront hlimit hd hpassed =>
      cases front with
      | nil =>
        obtain ⟨rfl, -⟩ := List.cons.inj hcs
        exact .inr (.inl ⟨hd, hpassed, rfl⟩)
      | cons e front =>
        obtain ⟨rfl, rfl⟩ := List.cons.inj hcs
        obtain ⟨hc, hfront⟩ := List.forall_mem_cons.1 hfront
        exact .inr (.inr ⟨hc, Nat.le_trans (le_ofDigitChars _ front) hlimit,
          .passed front hfront hlimit hd hpassed⟩)
  · rintro (⟨hc, rfl⟩ | ⟨hc, hpassed, rfl⟩ | ⟨hc, -, h⟩)
    · exact .stray [] nofun hacc hc
    · exact .passed [] nofun hacc hc hpassed
    · cases h with
      | stray front hfront hlimit hd =>
        exact .stray (c :: front) (List.forall_mem_cons.2 ⟨hc, hfront⟩) hlimit hd
      | passed front hfront hlimit hd hpassed =>
        exact .passed (c :: front) (List.forall_mem_cons.2 ⟨hc, hfront⟩) hlimit hd hpassed

/-- Digits are not read onto a number in range just for where they go wrong. -/
theorem readDigits_eq_error_iff (hacc : acc ≤ limit) :
    readDigits limit excess acc cs = .error fault ↔ DigitsFault limit excess acc cs fault := by
  -- the number read so far varies in the induction, and stays in range
  induction cs generalizing acc with
  | nil => exact ⟨nofun, fun h => absurd h not_digitsFault_nil⟩
  | cons c cs ih =>
    rw [digitsFault_cons_iff hacc]
    unfold readDigits
    split
    · rename_i hnone
      have hstray : c.isDigit = false := by
        rw [← Bool.not_eq_true]
        intro hdigit
        exact absurd (hnone.symm.trans (digitValue?_ten_eq_some_iff.2 ⟨hdigit, rfl⟩)) nofun
      simp [hstray, eq_comm]
    · rename_i d hsome
      obtain ⟨hdigit, rfl⟩ := digitValue?_ten_eq_some_iff.1 hsome
      generalize 10 * acc + (c.toNat - '0'.toNat) = next
      split
      · rename_i hfits
        simp [ih hfits, hdigit, hfits, Nat.not_lt.2 hfits]
      · rename_i hexcess
        simp [hdigit, hexcess, Nat.lt_of_not_le hexcess, eq_comm]

end Digits

/-! ## Whole numbers -/

/-- Why a text is no literal of a whole number in range. -/
inductive IntegerFault (least most : Nat) : List Char → NumberFault → Prop where
  /-- There is no text. -/
  | empty : IntegerFault least most [] .empty
  /-- There is nothing behind a sign. -/
  | bareSign {sign : Char} (hsign : sign = '+' ∨ sign = '-') :
      IntegerFault least most [sign] .invalidDigit
  /-- Digits without a sign go wrong. -/
  | plain {cs : List Char} {fault : NumberFault} (hplus : ∀ ds, cs ≠ '+' :: ds)
      (hminus : ∀ ds, cs ≠ '-' :: ds) (h : DigitsFault most .tooLarge 0 cs fault) :
      IntegerFault least most cs fault
  /-- Digits behind a plus sign go wrong. -/
  | plus {cs : List Char} {fault : NumberFault} (h : DigitsFault most .tooLarge 0 cs fault) :
      IntegerFault least most ('+' :: cs) fault
  /-- Digits behind a minus sign go wrong. -/
  | minus {cs : List Char} {fault : NumberFault} (h : DigitsFault least .tooSmall 0 cs fault) :
      IntegerFault least most ('-' :: cs) fault

section Integers

variable {least most : Nat} {fault : NumberFault} {cs : List Char}

/-- Behind a plus sign, there is nothing or digits that go wrong. -/
theorem integerFault_plus_iff :
    IntegerFault least most ('+' :: cs) fault ↔
      (cs = [] ∧ fault = .invalidDigit) ∨ DigitsFault most .tooLarge 0 cs fault := by
  constructor
  · rintro (_ | _ | ⟨hplus, -, -⟩ | ⟨h⟩)
    · exact .inl ⟨rfl, rfl⟩
    · exact absurd rfl (hplus cs)
    · exact .inr h
  · rintro (⟨rfl, rfl⟩ | h)
    · exact .bareSign (.inl rfl)
    · exact .plus h

/-- Behind a minus sign, there is nothing or digits that go wrong. -/
theorem integerFault_minus_iff :
    IntegerFault least most ('-' :: cs) fault ↔
      (cs = [] ∧ fault = .invalidDigit) ∨ DigitsFault least .tooSmall 0 cs fault := by
  constructor
  · rintro (_ | _ | ⟨-, hminus, -⟩ | _ | ⟨h⟩)
    · exact .inl ⟨rfl, rfl⟩
    · exact absurd rfl (hminus cs)
    · exact .inr h
  · rintro (⟨rfl, rfl⟩ | h)
    · exact .bareSign (.inr rfl)
    · exact .minus h

/-- Without a sign, digits go wrong. -/
theorem integerFault_plain_iff (hnonempty : cs ≠ []) (hplus : ∀ ds, cs ≠ '+' :: ds)
    (hminus : ∀ ds, cs ≠ '-' :: ds) :
    IntegerFault least most cs fault ↔ DigitsFault most .tooLarge 0 cs fault := by
  constructor
  · rintro (_ | ⟨rfl | rfl⟩ | ⟨-, -, h⟩ | _ | _)
    · exact absurd rfl hnonempty
    · exact absurd rfl (hplus [])
    · exact absurd rfl (hminus [])
    · exact h
    · exact absurd rfl (hplus _)
    · exact absurd rfl (hminus _)
  · exact .plain hplus hminus

/-- A whole number is not read just for what is wrong with its text. -/
theorem readInteger_eq_error_iff (hleast : 0 < least) {s : String} :
    readInteger least most s = .error fault ↔ IntegerFault least most s.toList fault := by
  unfold readInteger
  split
  · rename_i hs
    rw [hs]
    constructor
    · intro h
      obtain rfl := Except.error.inj h
      exact .empty
    · rintro (_ | _ | ⟨-, -, h⟩)
      · rfl
      · exact absurd h not_digitsFault_nil
  · rename_i hs
    rw [hs, integerFault_plus_iff, Except.error.injEq]
    exact ⟨fun h => .inl ⟨rfl, h.symm⟩,
      fun h => h.elim (·.2.symm) fun h => absurd h not_digitsFault_nil⟩
  · rename_i hs
    rw [hs, integerFault_minus_iff, Except.error.injEq]
    exact ⟨fun h => .inl ⟨rfl, h.symm⟩,
      fun h => h.elim (·.2.symm) fun h => absurd h not_digitsFault_nil⟩
  · rename_i cs hmore hs
    rw [hs, integerFault_plus_iff, map_eq_error_iff, readDigits_eq_error_iff (Nat.zero_le _)]
    exact ⟨.inr, fun h => h.elim (fun h => absurd h.1 hmore) id⟩
  · rename_i cs hmore hs
    rw [hs, integerFault_minus_iff, if_pos hleast, map_eq_error_iff, bind_eq_error_iff,
      readDigits_eq_error_iff (Nat.zero_le _)]
    constructor
    · rintro (h | ⟨_, -, h⟩)
      · exact .inr h
      · exact absurd h pure_ne_error
    · exact fun h => .inl (h.elim (fun h => absurd h.1 hmore) id)
  · rename_i hempty _ _ hplus hminus
    rw [map_eq_error_iff, readDigits_eq_error_iff (Nat.zero_le _),
      integerFault_plain_iff hempty hplus hminus]

end Integers

end BackupControl
