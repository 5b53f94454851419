/-
# The shortest decimal rounds to its number

The search for a decimal tries grids of one digit more at a time and takes a decimal only if it
rounds to the number.  The last grid is finer than the fractions that do are apart, so one of the
two decimals around the number is taken there at the latest.
-/
import BackupControl.Proofs.Numeric.Rounding
import Mathlib.Algebra.Order.Floor.Semifield
import Mathlib.Data.List.TakeWhile
import Mathlib.Data.Nat.Cast.Order.Field
import Mathlib.Data.Rat.Floor

namespace BackupControl

/-! ## Decimals -/

namespace Decimal

/-- The value of a decimal. -/
def value (d : Decimal) : ℚ := d.digits * 10 ^ d.power

/-- How many digits a number is written with. -/
theorem width_le_iff {n k : Nat} (hk : 0 < k) : width n ≤ k ↔ n < 10 ^ k :=
  Nat.length_toDigits_le_iff (by decide) hk

/-- A number is below the power of ten with as many zeros as it has digits. -/
theorem lt_pow_width (n : Nat) : n < 10 ^ width n :=
  (width_le_iff Nat.length_toDigits_pos).1 le_rfl

/-- A positive number is at least the power of ten with as many digits. -/
theorem pow_width_le {n : Nat} (hn : 0 < n) : 10 ^ (width n - 1) ≤ n := by
  by_contra hless
  have hwidth : 0 < width n - 1 := by
    by_contra hone
    rw [Nat.eq_zero_of_not_pos hone, pow_zero] at hless
    omega
  have hshort := (width_le_iff hwidth).2 (not_le.1 hless)
  omega

/-- How many zeros the digits of a number end with. -/
def zerosOf (n : Nat) : Nat := ((Nat.toDigits 10 n).reverse.takeWhile (· == '0')).length

/-- A number is divided by the power of ten of its zeros. -/
theorem pow_zerosOf_dvd (n : Nat) : tenTo (zerosOf n) ∣ n := by
  have hzeros : (Nat.toDigits 10 n).reverse.takeWhile (· == '0') =
      List.replicate (zerosOf n) '0' :=
    List.eq_replicate_of_mem fun c hc =>
      beq_iff_eq.1 (List.mem_takeWhile_imp (p := fun c => c == '0') hc)
  have hsplit : (Nat.toDigits 10 n).reverse.takeWhile (· == '0') ++ _ = _ :=
    List.takeWhile_append_dropWhile
  rw [hzeros, ← List.reverse_inj, List.reverse_append, List.reverse_reverse,
    List.reverse_replicate] at hsplit
  have hvalue := Nat.ofDigitChars_ten_toDigits (n := n)
  rw [← hsplit, Nat.ofDigitChars_append, Nat.ofDigitChars_replicate_zero] at hvalue
  exact ⟨_, hvalue.symm⟩

variable {d : Decimal}

/-- A decimal without its zeros has the same value. -/
theorem value_trimmed (d : Decimal) : d.trimmed.value = d.value := by
  have hten : (10 : ℚ) ≠ 0 := by norm_num
  have hdigits : (d.trimmed.digits * 10 ^ zerosOf d.digits : ℚ) = d.digits := by
    exact_mod_cast Nat.div_mul_cancel (pow_zerosOf_dvd d.digits)
  have hpower : d.trimmed.power = zerosOf d.digits + d.power := Int.add_comm _ _
  rw [value, value, hpower, zpow_add₀ hten, zpow_natCast, ← mul_assoc, hdigits]

/-- A decimal of positive value has a positive number of units. -/
theorem digits_pos_of_value (h : 0 < d.value) : 0 < d.digits := by
  by_contra hzero
  rw [value, Nat.eq_zero_of_not_pos hzero, Nat.cast_zero, zero_mul] at h
  exact lt_irrefl 0 h

end Decimal

namespace Binary64

/-! ## The leading digit -/

/-- A fraction is at least the power of ten of its leading digit. -/
theorem pow_leadingExponent_le {num den : Nat} (hnum : 0 < num) (hden : 0 < den) :
    (10 : ℚ) ^ leadingExponent num den ≤ num / den := by
  unfold leadingExponent
  split
  · rename_i hlarge
    have hwidth : 1 ≤ Decimal.width (num / den) := Nat.length_toDigits_pos
    have hquotient : 10 ^ (Decimal.width (num / den) - 1) ≤ num / den :=
      Decimal.pow_width_le (Nat.div_pos hlarge hden)
    have hpow : (10 : ℚ) ^ ((Decimal.width (num / den) : ℤ) - 1) =
        (10 ^ (Decimal.width (num / den) - 1) : Nat) := by
      rw [← Nat.cast_one, ← Nat.cast_sub hwidth, zpow_natCast, Nat.cast_pow, Nat.cast_ofNat]
    rw [hpow]
    exact (Nat.cast_le.2 hquotient).trans Nat.cast_div_le
  · -- the fraction is at least that of one and the quotient the other way, rounded up
    generalize hceil : (den + num - 1) / num = c
    have hlow : c - 1 < 10 ^ Decimal.width (c - 1) := Decimal.lt_pow_width _
    have hroom : den + num - 1 < num * (c + 1) := hceil ▸ Nat.lt_mul_div_succ _ hnum
    have hbound : den ≤ num * 10 ^ Decimal.width (c - 1) := by
      have hmul : num * c ≤ num * 10 ^ Decimal.width (c - 1) := Nat.mul_le_mul_left num (by omega)
      rw [Nat.mul_succ] at hroom
      omega
    have hden : (0 : ℚ) < den := Nat.cast_pos.2 hden
    rw [zpow_neg, zpow_natCast, inv_le_comm₀ (by positivity) (by positivity), inv_div,
      div_le_iff₀' (by positivity)]
    exact_mod_cast hbound

/-! ## Around a number -/

variable {x : Binary64}

/-- A positive number lies between its midpoints. -/
theorem lowest_lt_value_lt_highest : x.lowest < x.value ∧ x.value < x.highest := by
  have hpow : (0 : ℚ) < 2 ^ x.exponent := by positivity
  have hquarters : (0 : ℚ) < x.quartersBelow := by
    rw [quartersBelow]
    split <;> norm_num
  rw [lowest, value, highest, mul_lt_mul_iff_left₀ hpow, mul_lt_mul_iff_left₀ hpow]
  constructor <;> linarith

/-- A fraction between the midpoints rounds to the number. -/
theorem NearestTo.of_between {r : ℚ} (hlow : x.lowest < r) (hhigh : r < x.highest) :
    x.NearestTo r :=
  ⟨hlow.le, hhigh.le, fun _ => ⟨hlow, hhigh⟩⟩

/-! ## The search -/

/-- The interval of a number is around its value. -/
theorem interval_value : (x.interval.value / x.interval.denominator : ℚ) = x.value := by
  have hvalue : x.interval.value = 4 * x.significand * twoTo (x.exponent - 2).toNat := rfl
  have hdenominator : x.interval.denominator = 1 * twoTo (-(x.exponent - 2)).toNat :=
    (Nat.one_mul _).symm
  have hscaled := scaled_div two_ne_zero (4 * x.significand) 1 (x.exponent - 2)
  rw [div_one, pow_sub_two] at hscaled
  rw [hvalue, hdenominator, value]
  simp only [twoTo, Nat.pow_eq, Nat.cast_mul, Nat.cast_pow, Nat.cast_ofNat, Nat.cast_one]
  rw [hscaled]
  ring

/-- A decimal lies in the interval of a number just if it rounds to it. -/
theorem contains_decimal_iff (hpos : x.magnitude ≠ 0) (d : Decimal) :
    x.interval.contains (d.digits * tenTo d.power.toNat) (tenTo (-d.power).toNat) = true ↔
      x.NearestTo d.value := by
  have hscaled := scaled_div (by norm_num : (10 : ℚ) ≠ 0) d.digits 1 d.power
  rw [one_mul, div_one] at hscaled
  rw [contains_eq_true_iff (tenTo_pos _) hpos, Decimal.value, ← hscaled]
  simp only [tenTo, Nat.pow_eq, Nat.cast_mul, Nat.cast_pow, Nat.cast_ofNat]

/-- The decimal below a fraction on a grid, in units of the grid. -/
def floorOnGrid (i : Interval) (power : ℤ) : Nat :=
  i.value * tenTo (-power).toNat / (i.denominator * tenTo power.toNat)

/-- On a grid, the search takes a decimal around the number that lies in the interval, unless
neither does. -/
theorem onGrid?_cases (i : Interval) (power : ℤ) :
    (∃ c, onGrid? i power = some ⟨c, power⟩ ∧
      i.contains (c * tenTo power.toNat) (tenTo (-power).toNat) = true) ∨
    onGrid? i power = none ∧ ∀ c, c = floorOnGrid i power ∨ c = floorOnGrid i power + 1 →
      i.contains (c * tenTo power.toNat) (tenTo (-power).toNat) = false := by
  unfold onGrid?
  dsimp only
  rw [← floorOnGrid]
  split
  · rename_i hfloor hceil
    refine .inl ⟨_, rfl, ?_⟩
    split
    · exact hfloor
    · exact hceil
  · rename_i hfloor _
    exact .inl ⟨_, rfl, hfloor⟩
  · rename_i hceil
    exact .inl ⟨_, rfl, hceil⟩
  · rename_i hfloor hceil
    refine .inr ⟨rfl, ?_⟩
    rintro c (rfl | rfl)
    · exact hfloor
    · exact hceil

/-- A number lies between the decimal below it on a grid and the one after that. -/
theorem value_between_floorOnGrid (x : Binary64) (power : ℤ) :
    (floorOnGrid x.interval power * 10 ^ power : ℚ) ≤ x.value ∧
      x.value < (floorOnGrid x.interval power + 1) * 10 ^ power := by
  have hpow : (0 : ℚ) < 10 ^ power := by positivity
  have hfloor : floorOnGrid x.interval power = ⌊x.value / 10 ^ power⌋₊ := by
    have hscaled := scaled_div (by norm_num : (10 : ℚ) ≠ 0) x.interval.value
      x.interval.denominator (-power)
    rw [neg_neg, interval_value, zpow_neg, ← div_eq_mul_inv] at hscaled
    rw [floorOnGrid, ← hscaled, ← Nat.floor_div_eq_div (K := ℚ)]
    simp only [tenTo, Nat.pow_eq, Nat.cast_mul, Nat.cast_pow, Nat.cast_ofNat]
  have hvalue : 0 ≤ x.value / 10 ^ power := by
    unfold value
    positivity
  rw [← le_div_iff₀ hpow, ← div_lt_iff₀ hpow, hfloor]
  exact ⟨Nat.floor_le hvalue, Nat.lt_floor_add_one _⟩

/-- A decimal that the search takes from a grid is on it and rounds to the number. -/
theorem nearestTo_of_onGrid? (hpos : x.magnitude ≠ 0) {power : ℤ} {d : Decimal}
    (h : onGrid? x.interval power = some d) : x.NearestTo d.value := by
  rcases onGrid?_cases x.interval power with ⟨c, hsome, hfits⟩ | ⟨hnone, -⟩
  · obtain rfl := Option.some.inj (h.symm.trans hsome)
    exact (contains_decimal_iff hpos _).1 hfits
  · exact absurd (h.symm.trans hnone) nofun

/-- The search takes a decimal from a grid that is finer than the fractions that round to the
number are apart. -/
theorem exists_onGrid? (hpos : x.magnitude ≠ 0) {power : ℤ}
    (hfine : (10 : ℚ) ^ power < x.highest - x.lowest) :
    ∃ d, onGrid? x.interval power = some d := by
  rcases onGrid?_cases x.interval power with ⟨c, hsome, -⟩ | ⟨-, hnone⟩
  · exact ⟨_, hsome⟩
  · -- both decimals around the number would be outside, and then the interval between them
    obtain ⟨hfloor, hceil⟩ := value_between_floorOnGrid x power
    obtain ⟨hbelow, habove⟩ := x.lowest_lt_value_lt_highest
    have houtside : ∀ c, c = floorOnGrid x.interval power ∨ c = floorOnGrid x.interval power + 1 →
        ¬ x.NearestTo (c * 10 ^ power) := by
      intro c hc hnear
      have hfits := (contains_decimal_iff hpos ⟨c, power⟩).2 hnear
      exact absurd (hfits.symm.trans (hnone c hc)) nofun
    have hlow : (floorOnGrid x.interval power * 10 ^ power : ℚ) ≤ x.lowest := by
      by_contra hless
      exact houtside _ (.inl rfl) (.of_between (not_le.1 hless) (hfloor.trans_lt habove))
    have hhigh : x.highest ≤ (floorOnGrid x.interval power + 1) * 10 ^ power := by
      by_contra hless
      refine houtside _ (.inr rfl) (.of_between ?_ ?_) <;> rw [Nat.cast_succ]
      · exact hbelow.trans hceil
      · exact not_le.1 hless
    linarith

/-- Seventeen digits are enough. -/
theorem pow_lt_highest_sub_lowest (hpos : x.magnitude ≠ 0) :
    (10 : ℚ) ^ (leadingExponent x.interval.value x.interval.denominator - 16) <
      x.highest - x.lowest := by
  obtain ⟨hsignificand, hbits, -⟩ := significand_spec hpos
  have hpow : (0 : ℚ) < 2 ^ x.exponent := by positivity
  have hleading : (10 : ℚ) ^ leadingExponent x.interval.value x.interval.denominator ≤ x.value := by
    rw [← interval_value]
    refine pow_leadingExponent_le ?_ (twoTo_pos _)
    exact Nat.mul_pos (Nat.mul_pos (by decide) hsignificand) (twoTo_pos _)
  -- the width of the interval in units of the last place
  have hwide : (x.significand / 10 ^ 16 : ℚ) < x.quartersBelow / 4 + 1 / 2 := by
    unfold quartersBelow
    split
    · rename_i hcloser
      rw [hcloser.1]
      norm_num [twoTo]
    · have hbits : (x.significand : ℚ) < 2 ^ 53 := by exact_mod_cast hbits
      rw [Nat.cast_two, div_lt_iff₀ (by positivity)]
      linarith
  calc (10 : ℚ) ^ (leadingExponent x.interval.value x.interval.denominator - 16)
      = 10 ^ leadingExponent x.interval.value x.interval.denominator / 10 ^ 16 :=
        zpow_sub₀ (by norm_num) _ _
    _ ≤ x.value / 10 ^ 16 := div_le_div_of_nonneg_right hleading (by positivity)
    _ = x.significand / 10 ^ 16 * 2 ^ x.exponent := by
        rw [value]
        ring
    _ < (x.quartersBelow / 4 + 1 / 2) * 2 ^ x.exponent := mul_lt_mul_of_pos_right hwide hpow
    _ = x.highest - x.lowest := by
        rw [highest, lowest]
        ring

/-- The shortest decimal of a positive number rounds to it. -/
theorem nearestTo_shortest (hpos : x.magnitude ≠ 0) :
    x.NearestTo x.shortest.value := by
  obtain ⟨last, hlast⟩ := exists_onGrid? hpos (pow_lt_highest_sub_lowest hpos)
  unfold shortest
  dsimp only
  rw [Decimal.value_trimmed]
  cases hfound : (List.range 17).findSome? fun n : Nat =>
      onGrid? x.interval (leadingExponent x.interval.value x.interval.denominator - n) with
  | none =>
    have hnone := List.findSome?_eq_none_iff.1 hfound 16 (by decide)
    exact absurd (hlast.symm.trans hnone) nofun
  | some d =>
    obtain ⟨n, -, hd⟩ := List.exists_of_findSome?_eq_some hfound
    exact nearestTo_of_onGrid? hpos hd

/-- The shortest decimal of a positive number is positive. -/
theorem digits_shortest_pos (hpos : x.magnitude ≠ 0) : 0 < x.shortest.digits := by
  have hleast := (nearestTo_shortest hpos).pow_le hpos
  exact Decimal.digits_pos_of_value (lt_of_lt_of_le (by positivity) hleast)

end Binary64

end BackupControl
