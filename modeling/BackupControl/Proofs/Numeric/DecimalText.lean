/-
# The text of a decimal reads back

A decimal is written in digits around a point, with an exponent where a layout asks for one.
Whatever the layout, the digits that are read and the exponent that is read make up the value of
the decimal again, so a number is read back from the text of its shortest decimal.
-/
import BackupControl.Proofs.Numeric.IntegerLiteral
import BackupControl.Proofs.Numeric.ShortestDecimal

namespace BackupControl

/-! ## Literals of decimal fractions -/

/-- Decimal digits, perhaps none. -/
def AllDigits (cs : List Char) : Prop := ∀ c ∈ cs, c.isDigit = true

/-- The text of a fraction: nothing, or a point and the digits after it. -/
inductive FractionText : List Char → List Char → Prop where
  | none : FractionText [] []
  | some {ds : List Char} (h : AllDigits ds) : FractionText ('.' :: ds) ds

/-- The text of an exponent: nothing, or a letter, a sign and digits. -/
inductive ExponentText : List Char → ℤ → Prop where
  | none : ExponentText [] 0
  | plus {ds : List Char} (h : IsDigits ds) : ExponentText ('e' :: '+' :: ds) (decimalValue ds)
  | minus {ds : List Char} (h : IsDigits ds) :
      ExponentText ('e' :: '-' :: ds) (-(decimalValue ds : ℤ))

/-- A literal of a decimal fraction without sign, its digits, and the power of ten of the last. -/
inductive DecimalLiteral : List Char → List Char → ℤ → Prop where
  | mk {whole point fraction tail : List Char} {exponent : ℤ} (hwhole : IsDigits whole)
      (hfraction : FractionText point fraction) (htail : ExponentText tail exponent) :
      DecimalLiteral (whole ++ (point ++ tail)) (whole ++ fraction) (exponent - fraction.length)

/-! ## Digits -/

/-- The digits in front, at least one. -/
theorem IsDigits.take {ds : List Char} {n : Nat} (h : IsDigits ds) (hn : 0 < n) :
    IsDigits (ds.take n) := by
  refine ⟨?_, fun c hc => h.digits c (List.mem_of_mem_take hc)⟩
  rw [ne_eq, List.take_eq_nil_iff]
  rintro (hnone | hempty)
  · omega
  · exact h.nonempty hempty

/-- The digits after those in front, perhaps none. -/
theorem IsDigits.drop {ds : List Char} (h : IsDigits ds) (n : Nat) : AllDigits (ds.drop n) :=
  fun c hc => h.digits c (List.mem_of_mem_drop hc)

/-- Digits are read onto a number one after another. -/
theorem foldlM_digitValue? {ds : List Char} (h : AllDigits ds) (acc : Nat) :
    ds.foldlM (fun acc c => (digitValue? 10 c).map (10 * acc + ·)) acc =
      some (Nat.ofDigitChars 10 ds acc) := by
  -- the number read so far varies in the induction
  induction ds generalizing acc with
  | nil => rfl
  | cons c ds ih =>
    obtain ⟨hc, hds⟩ := List.forall_mem_cons.1 h
    rw [List.foldlM_cons, digitValue?_ten_eq_some_iff.2 ⟨hc, rfl⟩, Nat.ofDigitChars_cons]
    exact ih hds _

/-- Digits are read as the number that they stand for. -/
theorem digitsValue?_ten {ds : List Char} (h : IsDigits ds) :
    digitsValue? 10 ds = some (decimalValue ds) := by
  rw [digitsValue?, if_neg (mt List.isEmpty_iff.1 h.nonempty)]
  exact foldlM_digitValue? h.digits 0

/-- Digits stand for less than the power of ten with as many zeros. -/
theorem decimalValue_lt {ds : List Char} (h : AllDigits ds) : decimalValue ds < 10 ^ ds.length := by
  unfold decimalValue
  induction ds with
  | nil => exact Nat.one_pos
  | cons c ds ih =>
    obtain ⟨hc, hds⟩ := List.forall_mem_cons.1 h
    have hnine : c.toNat ≤ '9'.toNat := (isDigit_eq_true_iff.1 hc).2
    have hdigit : c.toNat - '0'.toNat ≤ 9 := Nat.sub_le_of_le_add hnine
    rw [Nat.ofDigitChars_cons, Nat.ofDigitChars_eq_ofDigitChars_zero, List.length_cons, pow_succ']
    have hrest := ih hds
    nlinarith

/-! ## Reading literals -/

/-- The digits of a fraction are digits. -/
theorem FractionText.allDigits {point fraction : List Char} (h : FractionText point fraction) :
    AllDigits fraction := by
  cases h with
  | none => exact fun _ hc => absurd hc List.not_mem_nil
  | some hds => exact hds

/-- The digits of a literal are digits. -/
theorem DecimalLiteral.isDigits {cs digits : List Char} {power : ℤ}
    (h : DecimalLiteral cs digits power) : IsDigits digits := by
  obtain ⟨hwhole, hfraction, -⟩ := h
  exact ⟨List.append_ne_nil_of_left_ne_nil hwhole.nonempty _,
    List.forall_mem_append.2 ⟨hwhole.digits, hfraction.allDigits⟩⟩

/-- No digits are at the front of an exponent. -/
theorem ExponentText.span_eq {tail : List Char} {exponent : ℤ} (h : ExponentText tail exponent) :
    tail.takeWhile Char.isDigit = [] ∧ tail.dropWhile Char.isDigit = tail := by
  cases h <;> exact ⟨rfl, rfl⟩

/-- Digits are what is taken and dropped in front of something that does not start with one. -/
theorem span_append {ds rest : List Char} (h : AllDigits ds)
    (hrest : rest.takeWhile Char.isDigit = [] ∧ rest.dropWhile Char.isDigit = rest) :
    (ds ++ rest).takeWhile Char.isDigit = ds ∧ (ds ++ rest).dropWhile Char.isDigit = rest := by
  rw [List.takeWhile_append_of_pos h, List.dropWhile_append_of_pos h, hrest.1, hrest.2,
    List.append_nil]
  exact ⟨rfl, rfl⟩

/-- A literal is read as the number nearest to its value. -/
theorem DecimalLiteral.readMagnitude?_eq {cs digits : List Char} {power : ℤ}
    (h : DecimalLiteral cs digits power) (negative : Bool) :
    readMagnitude? negative cs =
      some (.ofDecimal negative (decimalValue digits) digits.length power) := by
  have hvalue := digitsValue?_ten h.isDigits
  obtain @⟨whole, point, fraction, tail, exponent, hwhole, hfraction, htail⟩ := h
  unfold readMagnitude?
  dsimp only
  cases hfraction with
  | none =>
    obtain ⟨hfront, hrest⟩ := span_append hwhole.digits htail.span_eq
    rw [List.append_nil] at hvalue
    rw [List.nil_append, hfront, hrest]
    cases htail with
    | none => simp [hvalue]
    | plus hds => simp [hvalue, digitsValue?_ten hds]
    | minus hds => simp [hvalue, digitsValue?_ten hds]
  | some hfraction =>
    have hpoint : ('.' :: (fraction ++ tail)).takeWhile Char.isDigit = [] ∧
        ('.' :: (fraction ++ tail)).dropWhile Char.isDigit = '.' :: (fraction ++ tail) := ⟨rfl, rfl⟩
    obtain ⟨hfront, hrest⟩ := span_append hwhole.digits hpoint
    obtain ⟨hdigits, hback⟩ := span_append hfraction htail.span_eq
    rw [List.cons_append, hfront, hrest]
    cases htail with
    | none =>
      rw [List.append_nil] at hdigits hback
      simp [hdigits, hback, hvalue]
    | plus hds => simp [hdigits, hback, hvalue, digitsValue?_ten hds]
    | minus hds => simp [hdigits, hback, hvalue, digitsValue?_ten hds]

/-! ## Writing decimals -/

/-- A text spells a decimal: it is a literal of its value. -/
def SpellsDecimal (d : Decimal) (cs : List Char) : Prop :=
  ∃ digits power, DecimalLiteral cs digits power ∧
    (decimalValue digits * 10 ^ power : ℚ) = d.value

/-- Digits spell a decimal with the same value if the point is moved along with zeros. -/
theorem spellsDecimal_of {d : Decimal} {cs digits : List Char} {power : ℤ} (zeros : Nat)
    (h : DecimalLiteral cs digits power) (hdigits : decimalValue digits = d.digits * 10 ^ zeros)
    (hpower : power = d.power - zeros) : SpellsDecimal d cs := by
  refine ⟨digits, power, h, ?_⟩
  have hten : (10 : ℚ) ≠ 0 := by norm_num
  rw [hdigits, hpower, Decimal.value, zpow_sub₀ hten, zpow_natCast, Nat.cast_mul, Nat.cast_pow,
    Nat.cast_ofNat]
  field_simp

/-- Digits around a point spell a decimal if its digits and zeros make them up. -/
theorem spellsDecimal_point {d : Decimal} {whole fraction : List Char} (zeros : Nat)
    (hwhole : IsDigits whole) (hfraction : AllDigits fraction)
    (hdigits : decimalValue (whole ++ fraction) = d.digits * 10 ^ zeros)
    (hpower : (0 - fraction.length : ℤ) = d.power - zeros) :
    SpellsDecimal d (whole ++ '.' :: fraction) := by
  have hliteral := DecimalLiteral.mk hwhole (.some hfraction) .none
  rw [List.append_nil] at hliteral
  exact spellsDecimal_of zeros hliteral hdigits hpower

namespace DecimalLayout

/-- Zeros are digits that stand for nothing. -/
theorem allDigits_zeros (n : ℤ) : AllDigits (zeros n) := by
  intro c hc
  rw [(List.mem_replicate.1 hc).2]
  rfl

/-- Zeros before digits do not change what they stand for. -/
theorem decimalValue_zeros_append (n : ℤ) (ds : List Char) :
    decimalValue (zeros n ++ ds) = decimalValue ds := by
  rw [decimalValue, zeros, Nat.ofDigitChars_append, Nat.ofDigitChars_replicate_zero, Nat.mul_zero,
    decimalValue]

/-- Zeros after digits multiply what they stand for. -/
theorem decimalValue_append_zeros (n : ℤ) (ds : List Char) :
    decimalValue (ds ++ zeros n) = decimalValue ds * 10 ^ n.toNat := by
  rw [decimalValue, zeros, Nat.ofDigitChars_append, Nat.ofDigitChars_replicate_zero, Nat.mul_comm,
    decimalValue]

/-- The positional text of a decimal spells it. -/
theorem spellsDecimal_writePositional (d : Decimal) : SpellsDecimal d (writePositional d) := by
  obtain ⟨hdigits, hvalue⟩ := isDigits_toDigits d.digits
  have hpoint : d.leadingExponent + 1 = (Nat.toDigits 10 d.digits).length + d.power := by
    rw [Decimal.leadingExponent, Decimal.width]
    omega
  unfold writePositional
  dsimp only
  rw [hpoint]
  generalize Nat.toDigits 10 d.digits = ds at *
  split
  · -- the point stands before the digits, with zeros between
    rename_i hbefore
    have hfraction : AllDigits (zeros (-(ds.length + d.power)) ++ ds) :=
      List.forall_mem_append.2 ⟨allDigits_zeros _, hdigits.digits⟩
    have hzero : IsDigits ['0'] := ⟨List.cons_ne_nil _ _, allDigits_zeros 1⟩
    have hsame : decimalValue (['0'] ++ (zeros (-(ds.length + d.power)) ++ ds)) =
        d.digits * 10 ^ 0 := by
      rw [pow_zero, Nat.mul_one, ← hvalue]
      exact (decimalValue_zeros_append 1 _).trans (decimalValue_zeros_append _ ds)
    have hpower : (0 - (zeros (-(ds.length + d.power)) ++ ds).length : ℤ) = d.power - 0 := by
      rw [List.length_append, zeros, List.length_replicate]
      omega
    exact spellsDecimal_point 0 hzero hfraction hsame hpower
  · rename_i hpositive
    split
    · -- the point stands behind zeros after the digits
      rename_i hbehind
      have hwhole : IsDigits (ds ++ zeros (ds.length + d.power - ds.length)) :=
        ⟨List.append_ne_nil_of_left_ne_nil hdigits.nonempty _,
          List.forall_mem_append.2 ⟨hdigits.digits, allDigits_zeros _⟩⟩
      have hlonger : decimalValue (ds ++ zeros (ds.length + d.power - ds.length) ++ zeros 1) =
          d.digits * 10 ^ (d.power.toNat + 1) := by
        rw [decimalValue_append_zeros, decimalValue_append_zeros, hvalue, add_sub_cancel_left,
          pow_add, Nat.mul_assoc]
        rfl
      have hpower : (0 - (zeros 1).length : ℤ) = d.power - (d.power.toNat + 1 : Nat) := by
        rw [zeros, List.length_replicate]
        omega
      exact spellsDecimal_point (d.power.toNat + 1) hwhole (allDigits_zeros 1) hlonger hpower
    · -- the point stands within the digits
      rename_i hwithin
      refine spellsDecimal_point 0 (hdigits.take (by omega)) (hdigits.drop _) ?_ ?_
      · rw [List.take_append_drop, pow_zero, Nat.mul_one]
        exact hvalue
      · rw [List.length_drop]
        omega

/-- An exponent is written with its sign. -/
theorem exponentText_write (e : ℤ) :
    ExponentText ('e' :: (if e < 0 then '-' else '+') :: Nat.toDigits 10 e.natAbs) e := by
  obtain ⟨hdigits, hvalue⟩ := isDigits_toDigits e.natAbs
  split
  · rename_i hnegative
    have htext := ExponentText.minus hdigits
    rwa [hvalue, Int.natCast_natAbs, abs_of_neg hnegative, neg_neg] at htext
  · rename_i hpositive
    have htext := ExponentText.plus hdigits
    rwa [hvalue, Int.natCast_natAbs, abs_of_nonneg (not_lt.1 hpositive)] at htext

/-- A fraction is written if there is a digit after the first. -/
theorem fractionText_write {ds : List Char} (hdigits : IsDigits ds) :
    FractionText (if ds.length ≤ 1 then [] else '.' :: ds.drop 1) (ds.drop 1) := by
  split
  · rename_i hshort
    rw [List.drop_eq_nil_of_le hshort]
    exact .none
  · exact .some (hdigits.drop 1)

/-- The text of a decimal with an exponent spells it. -/
theorem spellsDecimal_writeScientific (d : Decimal) : SpellsDecimal d (writeScientific d) := by
  obtain ⟨hdigits, hvalue⟩ := isDigits_toDigits d.digits
  have hleading : d.leadingExponent = (Nat.toDigits 10 d.digits).length - 1 + d.power := rfl
  have hlength : 0 < (Nat.toDigits 10 d.digits).length := Nat.length_toDigits_pos
  have hliteral := DecimalLiteral.mk (hdigits.take Nat.one_pos) (fractionText_write hdigits)
    (exponentText_write d.leadingExponent)
  rw [← List.append_assoc] at hliteral
  refine spellsDecimal_of 0 hliteral ?_ ?_
  · rw [List.take_append_drop, pow_zero, Nat.mul_one]
    exact hvalue
  · rw [hleading, List.length_drop]
    omega

/-- Whatever the layout, the text of a decimal spells it. -/
theorem spellsDecimal_write (layout : DecimalLayout) (d : Decimal) :
    SpellsDecimal d (layout.write d) := by
  unfold write
  split
  · exact spellsDecimal_writePositional d
  · split
    · exact spellsDecimal_writePositional d
    · exact spellsDecimal_writeScientific d

/-! ## The front of a text -/

/-- The first digit of a positive number is not a zero. -/
theorem exists_toDigits_eq_cons {n : Nat} (hn : 0 < n) :
    ∃ c rest, Nat.toDigits 10 n = c :: rest ∧ c.isDigit = true ∧ c ≠ '0' := by
  obtain ⟨hdigits, hvalue⟩ := isDigits_toDigits n
  have hleast := Decimal.pow_width_le hn
  rw [Decimal.width] at hleast
  cases htext : Nat.toDigits 10 n with
  | nil => exact absurd htext hdigits.nonempty
  | cons c rest =>
    rw [htext] at hdigits hvalue hleast
    obtain ⟨hc, hrest⟩ := List.forall_mem_cons.1 hdigits.digits
    refine ⟨c, rest, rfl, hc, ?_⟩
    -- the number would be smaller than its length says
    rintro rfl
    have hsame : decimalValue rest = n := hvalue
    have hless := decimalValue_lt hrest
    rw [hsame] at hless
    exact absurd hleast (not_le.2 hless)

/-- The text of a positive decimal starts with a zero and a point, or with a digit that is not a
zero. -/
theorem write_eq_cons (layout : DecimalLayout) {d : Decimal} (hd : 0 < d.digits) :
    (∃ rest, layout.write d = '0' :: '.' :: rest) ∨
      ∃ c rest, layout.write d = c :: rest ∧ c.isDigit = true ∧ c ≠ '0' := by
  obtain ⟨c, rest, hdigits, hc, hzero⟩ := exists_toDigits_eq_cons hd
  have hpositional : (∃ rest, writePositional d = '0' :: '.' :: rest) ∨
      ∃ c rest, writePositional d = c :: rest ∧ c.isDigit = true ∧ c ≠ '0' := by
    unfold writePositional
    dsimp only
    rw [hdigits]
    split
    · exact .inl ⟨_, rfl⟩
    · rename_i hpositive
      split
      · exact .inr ⟨c, _, rfl, hc, hzero⟩
      · obtain ⟨k, hk⟩ := Nat.exists_eq_succ_of_ne_zero
          (n := (d.leadingExponent + 1).toNat) (by omega)
        rw [hk]
        exact .inr ⟨c, _, rfl, hc, hzero⟩
  unfold write
  split
  · exact hpositional
  · split
    · exact hpositional
    · unfold writeScientific
      dsimp only
      rw [hdigits]
      exact .inr ⟨c, _, rfl, hc, hzero⟩

/-- The text of a decimal has a point or an exponent. -/
theorem exists_mem_write (layout : DecimalLayout) (d : Decimal) :
    ∃ c ∈ layout.write d, c.isDigit = false := by
  have hpositional : '.' ∈ writePositional d := by
    unfold writePositional
    dsimp only
    split
    · simp
    · split <;> simp
  unfold write
  split
  · exact ⟨_, hpositional, rfl⟩
  · split
    · exact ⟨_, hpositional, rfl⟩
    · refine ⟨'e', ?_, rfl⟩
      unfold writeScientific
      simp

end DecimalLayout

/-- A literal has no other characters than digits and those four. -/
theorem DecimalLiteral.forall_mem {cs digits : List Char} {power : ℤ}
    (h : DecimalLiteral cs digits power) :
    ∀ c ∈ cs, c.isDigit = true ∨ c ∈ ['.', 'e', '+', '-'] := by
  obtain ⟨hwhole, hfraction, htail⟩ := h
  intro c hc
  rcases List.mem_append.1 hc with hc | hc
  · exact .inl (hwhole.digits c hc)
  rcases List.mem_append.1 hc with hc | hc
  · cases hfraction with
    | none => exact absurd hc List.not_mem_nil
    | some hds =>
      rcases List.mem_cons.1 hc with rfl | hc
      · exact .inr (by decide)
      · exact .inl (hds c hc)
  · cases htail with
    | none => exact absurd hc List.not_mem_nil
    | plus hds | minus hds =>
      rcases List.mem_cons.1 hc with rfl | hc
      · exact .inr (by decide)
      rcases List.mem_cons.1 hc with rfl | hc
      · exact .inr (by decide)
      · exact .inl (hds.digits c hc)

namespace Binary64

variable {x : Binary64}

/-- A number is made up of its sign and its magnitude. -/
theorem ofMagnitude_magnitude (x : Binary64) : ofMagnitude x.isNegative x.magnitude = x := by
  have hbits : x.bits.toNat < 2 ^ 64 := x.bits.toNat_lt
  have hsign : (if x.isNegative then twoTo 63 + x.magnitude else x.magnitude) = x.bits.toNat := by
    have hlimit : twoTo 63 = 2 ^ 63 := rfl
    simp only [isNegative, magnitude, hlimit, decide_eq_true_eq]
    split <;> omega
  rw [ofMagnitude, hsign, UInt64.ofNat_toNat]

/-- A positive number is read back from the text of its shortest decimal, with the sign that is
given. -/
theorem readMagnitude?_write (hpos : x.magnitude ≠ 0) (hfinite : x.isFinite = true)
    (layout : DecimalLayout) (negative : Bool) :
    readMagnitude? negative (layout.write x.shortest) =
      some (ofMagnitude negative x.magnitude) := by
  obtain ⟨digits, power, hliteral, hvalue⟩ := layout.spellsDecimal_write x.shortest
  have hnearest : x.NearestTo (decimalValue digits * 10 ^ power) := hvalue ▸ nearestTo_shortest hpos
  rw [hliteral.readMagnitude?_eq,
    ofDecimal_eq hpos hfinite (decimalValue_lt hliteral.isDigits.digits) hnearest]

end Binary64

end BackupControl
