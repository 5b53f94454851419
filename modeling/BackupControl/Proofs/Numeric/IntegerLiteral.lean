/-
# Whole numbers as literals

A whole number is read digit by digit, and reading stops at the first digit that leaves the
range.  The number only grows along its digits, so a literal is read just if the whole of it is
in range.
-/
import BackupControl.Numeric.Literal
import BackupControl.Proofs.Rules.Check

namespace BackupControl

/-! ## Literals -/

/-- The number that a run of decimal digits stands for. -/
def decimalValue (digits : List Char) : Nat := Nat.ofDigitChars 10 digits 0

/-- A run of decimal digits, at least one. -/
structure IsDigits (cs : List Char) : Prop where
  nonempty : cs ≠ []
  digits : ∀ c ∈ cs, c.isDigit = true

/-- A literal of a whole number: digits, which a sign may go before. -/
inductive IntegerLiteral : List Char → Int → Prop where
  | plain {digits : List Char} (h : IsDigits digits) : IntegerLiteral digits (decimalValue digits)
  | plus {digits : List Char} (h : IsDigits digits) :
      IntegerLiteral ('+' :: digits) (decimalValue digits)
  | minus {digits : List Char} (h : IsDigits digits) :
      IntegerLiteral ('-' :: digits) (-(decimalValue digits : Int))

/-! ## Digits -/

/-- The decimal digits are the characters from zero to nine. -/
theorem isDigit_eq_true_iff {c : Char} : c.isDigit = true ↔ '0' ≤ c ∧ c ≤ '9' := by
  rw [Char.isDigit, Bool.and_eq_true, decide_eq_true_eq, decide_eq_true_eq, Char.le_def,
    Char.le_def, ge_iff_le]

/-- A decimal digit stands for its distance from zero. -/
theorem digitValue?_ten_eq_some_iff {c : Char} {d : Nat} :
    digitValue? 10 c = some d ↔ c.isDigit = true ∧ c.toNat - '0'.toNat = d := by
  rw [isDigit_eq_true_iff]
  unfold digitValue?
  by_cases hdigit : '0' ≤ c ∧ c ≤ '9'
  · have hle : c.toNat ≤ '9'.toNat := hdigit.2
    have hsmall : c.toNat - '0'.toNat < 10 := by
      have hnine : '9'.toNat = 57 := rfl
      have hzero : '0'.toNat = 48 := rfl
      omega
    dsimp only
    rw [if_pos hdigit, if_pos hsmall, Option.some.injEq]
    exact ⟨fun h => ⟨hdigit, h⟩, (·.2)⟩
  · -- a letter stands for ten at least
    dsimp only
    rw [if_neg hdigit]
    refine ⟨fun h => ?_, fun h => absurd h.1 hdigit⟩
    grind

/-- A number is written in digits of its value. -/
theorem isDigits_toDigits (n : Nat) :
    IsDigits (Nat.toDigits 10 n) ∧ decimalValue (Nat.toDigits 10 n) = n :=
  ⟨⟨Nat.toDigits_ne_nil, fun _ hc => Nat.isDigit_of_mem_toDigits (by decide) (by decide) hc⟩,
    Nat.ofDigitChars_ten_toDigits⟩

/-- Reading digits onto a number never makes it smaller. -/
theorem le_ofDigitChars (acc : Nat) (cs : List Char) : acc ≤ Nat.ofDigitChars 10 cs acc := by
  induction cs generalizing acc with
  | nil => exact Nat.le_refl _
  | cons c cs ih =>
    rw [Nat.ofDigitChars_cons]
    have hrest := ih (10 * acc + (c.toNat - '0'.toNat))
    omega

/-- Digits are read onto a number in range just if what they come to is in range. -/
theorem readDigits_eq_ok_iff {limit : Nat} {excess : NumberFault} {acc n : Nat} {cs : List Char}
    (hacc : acc ≤ limit) :
    readDigits limit excess acc cs = .ok n ↔
      (∀ c ∈ cs, c.isDigit = true) ∧ Nat.ofDigitChars 10 cs acc = n ∧ n ≤ limit := by
  -- the number read so far varies in the induction, and stays in range
  induction cs generalizing acc with
  | nil =>
    constructor
    · intro h
      obtain rfl := Except.ok.inj h
      exact ⟨nofun, rfl, hacc⟩
    · rintro ⟨-, rfl, -⟩
      rfl
  | cons c cs ih =>
    rw [List.forall_mem_cons, Nat.ofDigitChars_cons]
    unfold readDigits
    split
    · rename_i hnone
      refine ⟨nofun, fun h => ?_⟩
      have hsome := digitValue?_ten_eq_some_iff.2 ⟨h.1.1, rfl⟩
      exact absurd (hnone.symm.trans hsome) nofun
    · rename_i d hsome
      obtain ⟨hdigit, rfl⟩ := digitValue?_ten_eq_some_iff.1 hsome
      split
      · rename_i hfits
        rw [ih hfits]
        exact ⟨fun h => ⟨⟨hdigit, h.1⟩, h.2⟩, fun h => ⟨h.1.2, h.2⟩⟩
      · -- the number is out of range, and the rest of the digits only makes it larger
        rename_i hexcess
        refine ⟨nofun, fun h => ?_⟩
        obtain ⟨-, rfl, hlimit⟩ := h
        exact absurd (Nat.le_trans (le_ofDigitChars _ cs) hlimit) hexcess

/-! ## Whole numbers -/

/-- The digits of a literal are read just if they are digits and their value is in range. -/
theorem readDigits_zero_eq_ok_iff {limit : Nat} {excess : NumberFault} {n : Nat} {cs : List Char}
    (hnonempty : cs ≠ []) :
    readDigits limit excess 0 cs = .ok n ↔ IsDigits cs ∧ decimalValue cs = n ∧ n ≤ limit := by
  rw [readDigits_eq_ok_iff (Nat.zero_le _)]
  exact and_congr_left' ⟨fun h => ⟨hnonempty, h⟩, (·.digits)⟩

/-- A literal that starts with a plus sign has digits after it. -/
theorem integerLiteral_plus_iff {cs : List Char} {n : Int} :
    IntegerLiteral ('+' :: cs) n ↔ IsDigits cs ∧ (decimalValue cs : Int) = n := by
  constructor
  · rintro (⟨h⟩ | ⟨h⟩ | ⟨h⟩)
    · exact absurd (h.digits '+' List.mem_cons_self) (by decide)
    · exact ⟨h, rfl⟩
  · rintro ⟨h, rfl⟩
    exact .plus h

/-- A literal that starts with a minus sign has digits after it. -/
theorem integerLiteral_minus_iff {cs : List Char} {n : Int} :
    IntegerLiteral ('-' :: cs) n ↔ IsDigits cs ∧ -(decimalValue cs : Int) = n := by
  constructor
  · rintro (⟨h⟩ | ⟨h⟩ | ⟨h⟩)
    · exact absurd (h.digits '-' List.mem_cons_self) (by decide)
    · exact ⟨h, rfl⟩
  · rintro ⟨h, rfl⟩
    exact .minus h

/-- A literal without a sign has digits only. -/
theorem integerLiteral_plain_iff {cs : List Char} {n : Int} (hplus : ∀ ds, cs ≠ '+' :: ds)
    (hminus : ∀ ds, cs ≠ '-' :: ds) :
    IntegerLiteral cs n ↔ IsDigits cs ∧ (decimalValue cs : Int) = n := by
  constructor
  · rintro (⟨h⟩ | ⟨h⟩ | ⟨h⟩)
    · exact ⟨h, rfl⟩
    · exact absurd rfl (hplus _)
    · exact absurd rfl (hminus _)
  · rintro ⟨h, rfl⟩
    exact .plain h

/-- There are no digits in an empty text. -/
theorem not_isDigits_nil : ¬ IsDigits [] := fun h => h.nonempty rfl

/-- Digits without a minus sign are read as a number that is not negative. -/
theorem map_readDigits_eq_ok_iff {limit : Nat} {excess : NumberFault} {n : Int} {cs : List Char}
    (hnonempty : cs ≠ []) :
    (readDigits limit excess 0 cs).map Int.ofNat = .ok n ↔
      IsDigits cs ∧ (decimalValue cs : Int) = n ∧ n ≤ limit := by
  rw [map_eq_ok_iff]
  constructor
  · rintro ⟨m, hm, rfl⟩
    obtain ⟨hdigits, rfl, hlimit⟩ := (readDigits_zero_eq_ok_iff hnonempty).1 hm
    exact ⟨hdigits, rfl, Int.ofNat_le.2 hlimit⟩
  · rintro ⟨hdigits, rfl, hlimit⟩
    exact ⟨_, (readDigits_zero_eq_ok_iff hnonempty).2 ⟨hdigits, rfl, Int.ofNat_le.1 hlimit⟩, rfl⟩

/-- A whole number is read just if the text is a literal of it and it is in range. -/
theorem readInteger_eq_ok_iff {least most : Nat} (hleast : 0 < least) {s : String} {n : Int} :
    readInteger least most s = .ok n ↔
      IntegerLiteral s.toList n ∧ -(least : Int) ≤ n ∧ n ≤ most := by
  -- without a minus sign, the bound below is met in any case
  have hplain : ∀ cs : List Char, (IsDigits cs ∧ (decimalValue cs : Int) = n ∧ n ≤ most) ↔
      (IsDigits cs ∧ (decimalValue cs : Int) = n) ∧ -(least : Int) ≤ n ∧ n ≤ most := by
    intro cs
    constructor
    · rintro ⟨hdigits, hvalue, hmost⟩
      exact ⟨⟨hdigits, hvalue⟩, by omega, hmost⟩
    · rintro ⟨⟨hdigits, hvalue⟩, -, hmost⟩
      exact ⟨hdigits, hvalue, hmost⟩
  unfold readInteger
  split
  · -- an empty text and a sign alone are refused before any digit is read
    rename_i hs
    rw [hs]
    refine ⟨nofun, fun h => ?_⟩
    cases h.1 with
    | plain hdigits => exact absurd hdigits not_isDigits_nil
  · rename_i hs
    rw [hs, integerLiteral_plus_iff]
    exact ⟨nofun, fun h => absurd h.1.1 not_isDigits_nil⟩
  · rename_i hs
    rw [hs, integerLiteral_minus_iff]
    exact ⟨nofun, fun h => absurd h.1.1 not_isDigits_nil⟩
  · rename_i cs hmore hs
    have hnonempty : cs ≠ [] := hmore
    rw [hs, integerLiteral_plus_iff, map_readDigits_eq_ok_iff hnonempty, hplain]
  · rename_i cs hmore hs
    have hnonempty : cs ≠ [] := hmore
    rw [hs, integerLiteral_minus_iff, if_pos hleast, map_eq_ok_iff]
    constructor
    · rintro ⟨_, hread, rfl⟩
      obtain ⟨m, hm, hvalue⟩ := bind_eq_ok_iff.1 hread
      obtain rfl := pure_eq_ok_iff.1 hvalue
      obtain ⟨hdigits, rfl, hlimit⟩ := (readDigits_zero_eq_ok_iff hnonempty).1 hm
      exact ⟨⟨hdigits, rfl⟩, by omega, by omega⟩
    · rintro ⟨⟨hdigits, rfl⟩, hlimit, -⟩
      have hread : readDigits least .tooSmall 0 cs = .ok (decimalValue cs) :=
        (readDigits_zero_eq_ok_iff hnonempty).2 ⟨hdigits, rfl, by omega⟩
      exact ⟨_, bind_eq_ok_iff.2 ⟨_, hread, rfl⟩, rfl⟩
  · rename_i hempty _ _ hplus hminus
    have hnonempty : s.toList ≠ [] := hempty
    rw [integerLiteral_plain_iff hplus hminus, map_readDigits_eq_ok_iff hnonempty, hplain]

end BackupControl
