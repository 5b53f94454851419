/-
# Rounding to the nearest

A positive finite number stands for `significand * 2 ^ exponent`, and the fractions that round to
it are those between the midpoints to its neighbours.  A midpoint rounds to the number with the
even significand.  Below a power of two the neighbours are closer by half.
-/
import BackupControl.Numeric.ShortestDecimal
import Mathlib.Algebra.Order.Field.Power
import Mathlib.Algebra.Order.Field.Rat
import Mathlib.Tactic.FieldSimp
import Mathlib.Tactic.Linarith
import Mathlib.Tactic.NormNum
import Mathlib.Tactic.Positivity
import Mathlib.Tactic.Ring

namespace BackupControl

/-! ## Powers -/

/-- A power of two is positive. -/
theorem twoTo_pos (n : Nat) : 0 < twoTo n := Nat.pow_pos (by decide)

/-- A power of ten is positive. -/
theorem tenTo_pos (n : Nat) : 0 < tenTo n := Nat.pow_pos (by decide)

/-- A power of a base is the quotient of its powers with the positive and the negative part of the
exponent. -/
theorem pow_toNat_div_pow_toNat {b : ℚ} (hb : b ≠ 0) (k : ℤ) :
    b ^ k.toNat / b ^ (-k).toNat = b ^ k := by
  rw [← zpow_natCast, ← zpow_natCast, ← zpow_sub₀ hb]
  congr 1
  omega

/-- A fraction with its parts scaled by a power of a base. -/
theorem scaled_div {b : ℚ} (hb : b ≠ 0) (num den : ℚ) (k : ℤ) :
    num * b ^ k.toNat / (den * b ^ (-k).toNat) = num / den * b ^ k := by
  rw [mul_div_mul_comm, pow_toNat_div_pow_toNat hb]

/-- A power of two in units of a quarter. -/
theorem pow_sub_two (k : ℤ) : (2 : ℚ) ^ (k - 2) = 2 ^ k / 4 := by
  rw [zpow_sub₀ two_ne_zero]
  norm_num

/-- A fraction is compared with a multiple of a power of two in whole numbers. -/
theorem mul_pow_le_div_iff {a num den : Nat} (hden : 0 < den) (k : ℤ) :
    (a * 2 ^ k : ℚ) ≤ num / den ↔ a * twoTo k.toNat * den ≤ num * twoTo (-k).toNat := by
  have hden : (0 : ℚ) < den := Nat.cast_pos.2 hden
  rw [le_div_iff₀ hden, ← pow_toNat_div_pow_toNat two_ne_zero, mul_div_assoc', div_mul_eq_mul_div,
    div_le_iff₀ (by positivity), ← Nat.cast_le (α := ℚ)]
  simp only [twoTo, Nat.pow_eq, Nat.cast_mul, Nat.cast_pow, Nat.cast_ofNat]

/-- A multiple of a power of two is compared with a fraction in whole numbers. -/
theorem div_le_mul_pow_iff {a num den : Nat} (hden : 0 < den) (k : ℤ) :
    (num / den : ℚ) ≤ a * 2 ^ k ↔ num * twoTo (-k).toNat ≤ a * twoTo k.toNat * den := by
  have hden : (0 : ℚ) < den := Nat.cast_pos.2 hden
  rw [div_le_iff₀ hden, ← pow_toNat_div_pow_toNat two_ne_zero, mul_div_assoc', div_mul_eq_mul_div,
    le_div_iff₀ (by positivity), ← Nat.cast_le (α := ℚ)]
  simp only [twoTo, Nat.pow_eq, Nat.cast_mul, Nat.cast_pow, Nat.cast_ofNat]

namespace Binary64

/-! ## The exponent of a fraction -/

section Fractions

variable {num den : Nat} (hnum : 0 < num) (hden : 0 < den)

include hnum hden

/-- A positive fraction lies within a power of two of what the lengths of its parts say. -/
theorem pow_log2_sub_log2 :
    (2 : ℚ) ^ ((num.log2 : ℤ) - den.log2 - 1) < num / den ∧
      (num / den : ℚ) < 2 ^ ((num.log2 : ℤ) - den.log2 + 1) := by
  have htwo : (2 : ℚ) ≠ 0 := by norm_num
  have hden : (0 : ℚ) < den := Nat.cast_pos.2 hden
  have hnumLeast : (2 : ℚ) ^ num.log2 ≤ num := by
    exact_mod_cast Nat.log2_self_le hnum.ne'
  have hnumMost : (num : ℚ) < 2 ^ (num.log2 + 1) := by
    exact_mod_cast Nat.lt_log2_self
  have hdenLeast : (2 : ℚ) ^ den.log2 ≤ den := by
    exact_mod_cast Nat.log2_self_le (Nat.cast_pos.1 hden).ne'
  have hdenMost : (den : ℚ) < 2 ^ (den.log2 + 1) := by
    exact_mod_cast Nat.lt_log2_self
  constructor
  · have hpow : (2 : ℚ) ^ ((num.log2 : ℤ) - den.log2 - 1) = 2 ^ num.log2 / 2 ^ (den.log2 + 1) := by
      rw [← zpow_natCast, ← zpow_natCast, ← zpow_sub₀ htwo, Nat.cast_succ, sub_sub]
    rw [hpow]
    exact div_lt_div₀' hnumLeast hdenMost (by positivity) hden
  · have hpow : (2 : ℚ) ^ ((num.log2 : ℤ) - den.log2 + 1) = 2 ^ (num.log2 + 1) / 2 ^ den.log2 := by
      rw [← zpow_natCast, ← zpow_natCast, ← zpow_sub₀ htwo, Nat.cast_succ, sub_add_eq_add_sub]
    rw [hpow]
    exact div_lt_div₀ hnumMost hdenLeast (by positivity) (by positivity)

/-- A positive fraction lies between two powers of two. -/
theorem pow_floorLog2_le :
    (2 : ℚ) ^ floorLog2 num den ≤ num / den ∧ (num / den : ℚ) < 2 ^ (floorLog2 num den + 1) := by
  obtain ⟨hleast, hmost⟩ := pow_log2_sub_log2 hnum hden
  -- the guess is compared with the fraction itself
  have hguess : ∀ k : ℤ, den * twoTo k.toNat ≤ num * twoTo (-k).toNat ↔
      (2 : ℚ) ^ k ≤ num / den := by
    intro k
    have hone : ((1 : Nat) * 2 ^ k : ℚ) ≤ num / den ↔ _ := mul_pow_le_div_iff hden k
    rw [Nat.cast_one, one_mul, one_mul, Nat.mul_comm] at hone
    exact hone.symm
  unfold floorLog2
  dsimp only
  split
  · rename_i hle
    exact ⟨(hguess _).1 hle, hmost⟩
  · rename_i hgt
    rw [hguess, not_le] at hgt
    exact ⟨hleast.le, by rwa [sub_add_cancel]⟩

/-- No other powers of two are next to a fraction. -/
theorem floorLog2_eq {k : ℤ} (hleast : (2 : ℚ) ^ k ≤ num / den)
    (hmost : (num / den : ℚ) < 2 ^ (k + 1)) : floorLog2 num den = k := by
  obtain ⟨hle, hlt⟩ := pow_floorLog2_le hnum hden
  have hbelow : k < floorLog2 num den + 1 :=
    (zpow_lt_zpow_iff_right₀ (by norm_num : (1 : ℚ) < 2)).1 (hleast.trans_lt hlt)
  have habove : floorLog2 num den < k + 1 :=
    (zpow_lt_zpow_iff_right₀ (by norm_num : (1 : ℚ) < 2)).1 (hle.trans_lt hmost)
  omega

end Fractions

/-! ## Whole numbers -/

/-- A fraction rounds to a whole number: it is at most a half away, and less than that if the
number is odd. -/
structure RoundsTo (t : ℚ) (m : Nat) : Prop where
  least : (m - 1 / 2 : ℚ) ≤ t
  most : t ≤ m + 1 / 2
  odd : m % 2 = 1 → (m - 1 / 2 : ℚ) < t ∧ t < m + 1 / 2

/-- A whole number that a fraction rounds to, in whole numbers. -/
theorem RoundsTo.natural {num den m : Nat} (hden : 0 < den) (h : RoundsTo (num / den) m) :
    2 * m * den ≤ 2 * num + den ∧ 2 * num ≤ 2 * m * den + den ∧
      (m % 2 = 1 → 2 * m * den < 2 * num + den ∧ 2 * num < 2 * m * den + den) := by
  have hden : (0 : ℚ) < den := Nat.cast_pos.2 hden
  obtain ⟨hleast, hmost, hodd⟩ := h
  simp only [le_div_iff₀ hden, div_le_iff₀ hden] at hleast hmost
  simp only [lt_div_iff₀ hden, div_lt_iff₀ hden] at hodd
  refine ⟨?_, ?_, fun hm => ⟨?_, ?_⟩⟩
  · have hscaled : (2 * m * den : ℚ) ≤ 2 * num + den := by linarith
    exact_mod_cast hscaled
  · have hscaled : (2 * num : ℚ) ≤ 2 * m * den + den := by linarith
    exact_mod_cast hscaled
  · have hscaled : (2 * m * den : ℚ) < 2 * num + den := by linarith [(hodd hm).1]
    exact_mod_cast hscaled
  · have hscaled : (2 * num : ℚ) < 2 * m * den + den := by linarith [(hodd hm).2]
    exact_mod_cast hscaled

/-- A quotient is rounded to the whole number that it rounds to. -/
theorem roundDiv_eq {num den m : Nat} (hden : 0 < den) (h : RoundsTo (num / den) m) :
    roundDiv num den = m := by
  obtain ⟨hleast, hmost, hodd⟩ := h.natural hden
  have hrest : num % den < den := Nat.mod_lt num hden
  have hparts : 2 * num = 2 * (num / den) * den + 2 * (num % den) := by
    have hsum := Nat.div_add_mod' num den
    nlinarith
  unfold roundDiv
  dsimp only
  generalize num / den = k at *
  generalize num % den = rest at *
  -- the number is the quotient or the one after it
  have hfloor : k ≤ m := by
    by_contra hlt
    have hnext : 2 * (m + 1) * den ≤ 2 * k * den := Nat.mul_le_mul_right den (by omega)
    nlinarith
  have hceil : m ≤ k + 1 := by
    by_contra hgt
    have hnext : 2 * (k + 2) * den ≤ 2 * m * den := Nat.mul_le_mul_right den (by omega)
    nlinarith
  have hnext : 2 * (k + 1) * den = 2 * k * den + 2 * den := by ring
  obtain rfl | rfl : m = k ∨ m = k + 1 := by omega
  · exact if_pos (by omega)
  · exact if_neg (by omega)

/-! ## Magnitudes -/

/-- A fraction with less than fifty-three bits before the point on the grid of an exponent is
rounded on that grid, if it has fifty-two or there is no finer grid. -/
theorem nearestMagnitude_eq_min {num den m : Nat} (hnum : 0 < num) (hden : 0 < den) {e : ℤ}
    {t : ℚ} (hscale : (num / den : ℚ) = t * 2 ^ e) (hround : RoundsTo t m) (hmost : t < 2 ^ 53)
    (hleast : -1074 ≤ e) (hcoarse : t < 2 ^ 52 → e = -1074) :
    nearestMagnitude num den = min ((e + 1074).toNat * twoTo 52 + m) infiniteMagnitude := by
  have htwo : (2 : ℚ) ≠ 0 := two_ne_zero
  have hpow : (0 : ℚ) < 2 ^ e := by positivity
  have hgrid : max (floorLog2 num den - 52) (-1074) = e := by
    by_cases hfine : t < 2 ^ 52
    · obtain rfl := hcoarse hfine
      have hsmall : (num / den : ℚ) < 2 ^ (52 + -1074 : ℤ) := by
        rw [hscale, zpow_add₀ htwo]
        exact mul_lt_mul_of_pos_right hfine hpow
      have hlog : floorLog2 num den < 52 + -1074 :=
        (zpow_lt_zpow_iff_right₀ one_lt_two).1 ((pow_floorLog2_le hnum hden).1.trans_lt hsmall)
      omega
    · have hlog : floorLog2 num den = 52 + e := by
        refine floorLog2_eq hnum hden ?_ ?_
        · rw [hscale, zpow_add₀ htwo]
          exact mul_le_mul_of_nonneg_right (not_lt.1 hfine) hpow.le
        · rw [hscale, add_right_comm, zpow_add₀ htwo]
          exact mul_lt_mul_of_pos_right hmost hpow
      omega
  have hquotient : ((num * twoTo (-e).toNat : Nat) / (den * twoTo e.toNat : Nat) : ℚ) = t := by
    have hscaled := scaled_div htwo num den (-e)
    rw [neg_neg, hscale, zpow_neg, mul_assoc, mul_inv_cancel₀ hpow.ne', mul_one] at hscaled
    exact_mod_cast hscaled
  have hround : roundDiv (num * twoTo (-e).toNat) (den * twoTo e.toNat) = m :=
    roundDiv_eq (Nat.mul_pos hden (twoTo_pos _)) (hquotient ▸ hround)
  unfold nearestMagnitude
  dsimp only
  rw [hgrid, hround]

/-! ## The fractions that round to a number -/

variable {x : Binary64}

/-- The number follows a power of two closer than it is followed itself. -/
def CloserBelow (x : Binary64) : Prop := x.significand = twoTo 52 ∧ -1074 < x.exponent

instance (x : Binary64) : Decidable x.CloserBelow :=
  inferInstanceAs (Decidable (x.significand = twoTo 52 ∧ -1074 < x.exponent))

/-- The value of a positive finite number. -/
def value (x : Binary64) : ℚ := x.significand * 2 ^ x.exponent

/-- How many quarters of its last place a number is above the midpoint to the one before it. -/
def quartersBelow (x : Binary64) : Nat := if x.CloserBelow then 1 else 2

/-- The midpoint between a positive finite number and the one before it. -/
def lowest (x : Binary64) : ℚ := (x.significand - x.quartersBelow / 4) * 2 ^ x.exponent

/-- The midpoint between a positive finite number and the one after it. -/
def highest (x : Binary64) : ℚ := (x.significand + 1 / 2) * 2 ^ x.exponent

/-- A fraction rounds to a positive finite number: it is no further away than the midpoints, and
closer if the significand is odd. -/
structure NearestTo (x : Binary64) (r : ℚ) : Prop where
  least : x.lowest ≤ r
  most : r ≤ x.highest
  odd : x.significand % 2 = 1 → x.lowest < r ∧ r < x.highest

/-- A positive finite number has a positive significand of fifty-three bits, and its exponent and
its significand make up its magnitude. -/
theorem significand_spec (hpos : x.magnitude ≠ 0) :
    0 < x.significand ∧ x.significand < 2 ^ 53 ∧ -1074 ≤ x.exponent ∧
      (x.significand < 2 ^ 52 → x.exponent = -1074) ∧
      (x.exponent + 1074).toNat * twoTo 52 + x.significand = x.magnitude := by
  have hfifty : twoTo 52 = 2 ^ 52 := rfl
  unfold significand exponent
  rw [hfifty]
  split <;> omega

/-- A fraction that rounds to a number does so in units of the last place. -/
theorem NearestTo.exists_roundsTo {r : ℚ} (h : x.NearestTo r) :
    ∃ t, r = t * 2 ^ x.exponent ∧ RoundsTo t x.significand ∧
      (x.CloserBelow → (x.significand - 1 / 4 : ℚ) ≤ t) := by
  have hpow : (0 : ℚ) < 2 ^ x.exponent := by positivity
  obtain ⟨t, rfl⟩ : ∃ t, r = t * 2 ^ x.exponent := ⟨_, (div_mul_cancel₀ r hpow.ne').symm⟩
  refine ⟨t, rfl, ?_⟩
  obtain ⟨hleast, hmost, hodd⟩ := h
  simp only [lowest, highest, mul_le_mul_iff_left₀ hpow] at hleast hmost
  simp only [lowest, highest, mul_lt_mul_iff_left₀ hpow] at hodd
  by_cases hcloser : x.CloserBelow
  · have hquarters : (x.quartersBelow : ℚ) = 1 := by
      rw [quartersBelow, if_pos hcloser, Nat.cast_one]
    have heven : x.significand % 2 ≠ 1 := by
      rw [hcloser.1]
      decide
    rw [hquarters] at hleast
    exact ⟨⟨by linarith, hmost, fun h => absurd h heven⟩, fun _ => hleast⟩
  · have hquarters : (x.quartersBelow : ℚ) = 2 := by
      rw [quartersBelow, if_neg hcloser, Nat.cast_two]
    rw [hquarters] at hleast hodd
    refine ⟨⟨by linarith, hmost, fun h => ?_⟩, fun h => absurd h hcloser⟩
    obtain ⟨habove, hbelow⟩ := hodd h
    exact ⟨by linarith, hbelow⟩

/-- A fraction is rounded to the number that it rounds to. -/
theorem nearestMagnitude_eq {num den : Nat} (hnum : 0 < num) (hden : 0 < den)
    (hpos : x.magnitude ≠ 0) (hfinite : x.isFinite = true) (h : x.NearestTo (num / den)) :
    nearestMagnitude num den = x.magnitude := by
  have hlimit : x.magnitude < infiniteMagnitude := of_decide_eq_true hfinite
  obtain ⟨-, hbits, hleast, hcoarse, hparts⟩ := significand_spec hpos
  have hbits : (x.significand : ℚ) + 1 ≤ 2 ^ 53 := by exact_mod_cast hbits
  obtain ⟨t, hscale, hround, hcloser⟩ := h.exists_roundsTo
  by_cases hcarry : x.CloserBelow ∧ t < 2 ^ 52
  · -- below the power of two the grid is finer, and the last step up carries
    obtain ⟨hclose, hfine⟩ := hcarry
    have hnear := hcloser hclose
    obtain ⟨hpower, habove⟩ := hclose
    rw [hpower] at hparts hnear
    have hfifty : ((twoTo 52 : Nat) : ℚ) = 2 ^ 52 := by norm_num [twoTo]
    rw [hfifty] at hnear
    have hdouble : (num / den : ℚ) = 2 * t * 2 ^ (x.exponent - 1) := by
      rw [hscale, zpow_sub_one₀ two_ne_zero]
      ring
    have hround : RoundsTo (2 * t) (2 ^ 53) := by
      refine ⟨?_, ?_, fun hodd => absurd hodd (by decide)⟩ <;> push_cast <;> linarith
    have hcarry : (x.exponent - 1 + 1074).toNat * twoTo 52 + 2 ^ 53 =
        (x.exponent + 1074).toNat * twoTo 52 + twoTo 52 := by
      have hconstant : twoTo 52 = 2 ^ 52 := rfl
      rw [hconstant]
      omega
    rw [nearestMagnitude_eq_min hnum hden hdouble hround (by linarith) (by omega)
      (fun hless => by linarith), hcarry, hparts, Nat.min_eq_left hlimit.le]
  · have hnormal : t < 2 ^ 52 → x.exponent = -1074 := by
      intro hfine
      have hsmall : (x.significand : ℚ) < 2 ^ 52 + 1 := by linarith [hround.least]
      have hsmall : x.significand < 2 ^ 52 + 1 := by exact_mod_cast hsmall
      rcases Nat.lt_succ_iff_lt_or_eq.1 hsmall with hless | hpower
      · exact hcoarse hless
      · have hedge : ¬ -1074 < x.exponent := fun h => hcarry ⟨⟨hpower, h⟩, hfine⟩
        omega
    rw [nearestMagnitude_eq_min hnum hden hscale hround (by linarith [hround.most]) hleast hnormal,
      hparts, Nat.min_eq_left hlimit.le]

/-- The midpoints in quarters of the last place. -/
theorem lowest_highest_eq (hpos : x.magnitude ≠ 0) :
    x.lowest = (4 * x.significand - x.quartersBelow : Nat) * 2 ^ (x.exponent - 2) ∧
      x.highest = (4 * x.significand + 2 : Nat) * 2 ^ (x.exponent - 2) := by
  obtain ⟨hsignificand, -⟩ := significand_spec hpos
  have hsmall : x.quartersBelow ≤ 4 * x.significand := by
    unfold quartersBelow
    split <;> omega
  rw [lowest, highest, pow_sub_two, Nat.cast_sub hsmall]
  push_cast
  constructor <;> ring

/-- A fraction lies in the interval of a number just if it rounds to it. -/
theorem contains_eq_true_iff {num den : Nat} (hden : 0 < den) (hpos : x.magnitude ≠ 0) :
    x.interval.contains num den = true ↔ x.NearestTo (num / den) := by
  obtain ⟨hlowest, hhighest⟩ := lowest_highest_eq hpos
  have hlower : x.interval.lower =
      (4 * x.significand - x.quartersBelow) * twoTo (x.exponent - 2).toNat := by
    unfold quartersBelow
    by_cases hcloser : x.CloserBelow
    · rw [if_pos hcloser]
      exact congrArg (· * twoTo (x.exponent - 2).toNat) (if_pos hcloser)
    · rw [if_neg hcloser]
      exact congrArg (· * twoTo (x.exponent - 2).toNat) (if_neg hcloser)
  have hupper : x.interval.upper = (4 * x.significand + 2) * twoTo (x.exponent - 2).toNat := rfl
  have hdenominator : x.interval.denominator = twoTo (-(x.exponent - 2)).toNat := rfl
  have hclosed : x.interval.closed = decide (x.significand % 2 = 0) := rfl
  unfold Interval.contains
  rw [hlower, hupper, hdenominator, hclosed]
  dsimp only
  by_cases heven : x.significand % 2 = 0
  · rw [if_pos (decide_eq_true heven), Bool.and_eq_true, decide_eq_true_eq, decide_eq_true_eq,
      ← mul_pow_le_div_iff hden, ← div_le_mul_pow_iff hden, ← hlowest, ← hhighest]
    exact ⟨fun h => ⟨h.1, h.2, fun hodd => by omega⟩, fun h => ⟨h.least, h.most⟩⟩
  · rw [if_neg (by simpa using heven), Bool.and_eq_true, decide_eq_true_eq, decide_eq_true_eq,
      ← Nat.not_le, ← Nat.not_le, ← mul_pow_le_div_iff hden, ← div_le_mul_pow_iff hden, ← hlowest,
      ← hhighest, not_le, not_le]
    exact ⟨fun h => ⟨h.1.le, h.2.le, fun _ => h⟩, fun h => h.odd (by omega)⟩

/-! ## Reading -/

/-- The exponent of a finite number is limited. -/
theorem exponent_le (hfinite : x.isFinite = true) : x.exponent ≤ 971 := by
  have hlimit : x.magnitude < infiniteMagnitude := of_decide_eq_true hfinite
  have hfifty : twoTo 52 = 2 ^ 52 := rfl
  unfold infiniteMagnitude at hlimit
  unfold exponent
  rw [hfifty] at hlimit ⊢
  split <;> omega

/-- A fraction that rounds to a positive number is at least half of the least of them. -/
theorem NearestTo.pow_le {r : ℚ} (hpos : x.magnitude ≠ 0) (h : x.NearestTo r) :
    (2 : ℚ) ^ (-1075 : ℤ) ≤ r := by
  obtain ⟨hsignificand, -, hleast, -⟩ := significand_spec hpos
  obtain ⟨t, rfl, hround, -⟩ := h.exists_roundsTo
  have hone : (1 : ℚ) ≤ x.significand := by exact_mod_cast hsignificand
  have hhalf : (2 : ℚ)⁻¹ ≤ t := by linarith [hround.least]
  calc (2 : ℚ) ^ (-1075 : ℤ) = 2 ^ (-1 + -1074 : ℤ) := rfl
    _ = 2⁻¹ * 2 ^ (-1074 : ℤ) := by rw [zpow_add₀ two_ne_zero, zpow_neg_one]
    _ ≤ t * 2 ^ x.exponent :=
      mul_le_mul hhalf (zpow_le_zpow_right₀ one_le_two hleast) (by positivity) (by linarith)

/-- A fraction that rounds to a finite number is below the power of two after them. -/
theorem NearestTo.lt_pow {r : ℚ} (hpos : x.magnitude ≠ 0) (hfinite : x.isFinite = true)
    (h : x.NearestTo r) : r < 2 ^ (1024 : ℤ) := by
  obtain ⟨-, hbits, -⟩ := significand_spec hpos
  obtain ⟨t, rfl, hround, -⟩ := h.exists_roundsTo
  have hbits : (x.significand : ℚ) + 1 ≤ 2 ^ 53 := by exact_mod_cast hbits
  have hmost : t < 2 ^ 53 := by linarith [hround.most]
  calc t * 2 ^ x.exponent < 2 ^ 53 * 2 ^ x.exponent := mul_lt_mul_of_pos_right hmost (by positivity)
    _ ≤ 2 ^ 53 * 2 ^ (971 : ℤ) := by
      have hpow := zpow_le_zpow_right₀ (one_le_two (α := ℚ)) (exponent_le hfinite)
      exact mul_le_mul_of_nonneg_left hpow (by positivity)
    _ = 2 ^ (1024 : ℤ) := by
      rw [← zpow_natCast, ← zpow_add₀ two_ne_zero]
      rfl

/-- Decimals with so small an exponent are below every number. -/
theorem pow_ten_lt_pow_two : (10 : ℚ) ^ (-330 : ℤ) < 2 ^ (-1075 : ℤ) := by
  have hnatural : 2 ^ 1075 < 10 ^ 330 := by decide +kernel
  rw [zpow_neg, zpow_neg, inv_lt_inv₀ (by positivity) (by positivity)]
  exact_mod_cast hnatural

/-- Decimals with so large an exponent are above every number. -/
theorem pow_two_lt_pow_ten : (2 : ℚ) ^ (1024 : ℤ) < 10 ^ (310 : ℤ) := by
  have hnatural : 2 ^ 1024 < 10 ^ 310 := by decide +kernel
  exact_mod_cast hnatural

/-- A decimal that rounds to a number is read as the number, with the sign that is given. -/
theorem ofDecimal_eq {n width : Nat} {power : ℤ} (hpos : x.magnitude ≠ 0)
    (hfinite : x.isFinite = true) (hwidth : n < 10 ^ width) (h : x.NearestTo (n * 10 ^ power))
    (negative : Bool) : ofDecimal negative n width power = ofMagnitude negative x.magnitude := by
  have hleast := h.pow_le hpos
  have hmost := h.lt_pow hpos hfinite
  have hten : (10 : ℚ) ≠ 0 := by norm_num
  have hone : (1 : ℚ) < 10 := by norm_num
  have hn : 0 < n := by
    by_contra hzero
    obtain rfl := Nat.eq_zero_of_not_pos hzero
    rw [Nat.cast_zero, zero_mul] at hleast
    exact absurd hleast (not_le.2 (by positivity))
  have hsmall : ¬ (n = 0 ∨ width + power < -330) := by
    rintro (hzero | htiny)
    · exact hn.ne' hzero
    · have hwidth : (n : ℚ) < 10 ^ (width : ℤ) := by exact_mod_cast hwidth
      refine absurd hleast (not_le.2 ?_)
      calc (n * 10 ^ power : ℚ) < 10 ^ (width : ℤ) * 10 ^ power :=
            mul_lt_mul_of_pos_right hwidth (by positivity)
        _ = 10 ^ (width + power) := (zpow_add₀ hten _ _).symm
        _ ≤ 10 ^ (-330 : ℤ) := zpow_le_zpow_right₀ hone.le htiny.le
        _ < 2 ^ (-1075 : ℤ) := pow_ten_lt_pow_two
  have hlarge : ¬ (310 < power ∧ 0 < n) := by
    rintro ⟨hhuge, -⟩
    have hn : (1 : ℚ) ≤ n := by exact_mod_cast hn
    refine absurd hmost (not_lt.2 ?_)
    calc (2 : ℚ) ^ (1024 : ℤ) ≤ 10 ^ (310 : ℤ) := pow_two_lt_pow_ten.le
      _ ≤ 10 ^ power := zpow_le_zpow_right₀ hone.le hhuge.le
      _ ≤ n * 10 ^ power := le_mul_of_one_le_left (by positivity) hn
  have hscale : ((n * tenTo power.toNat : Nat) / (tenTo (-power).toNat : Nat) : ℚ) =
      n * 10 ^ power := by
    have hscaled := scaled_div hten n 1 power
    rw [one_mul, div_one] at hscaled
    exact_mod_cast hscaled
  have hnum : 0 < n * tenTo power.toNat := Nat.mul_pos hn (tenTo_pos _)
  rw [ofDecimal, if_neg hsmall, if_neg hlarge,
    nearestMagnitude_eq hnum (tenTo_pos _) hpos hfinite (hscale ▸ h)]

end Binary64

end BackupControl
