/-
# Strings and numbers read back

A string and a number are read from the text that they are written as, whatever follows it: a
string ends with its quote, and a number where a character comes that no number has.
-/
import BackupControl.Json.Read
import BackupControl.Json.Render
import BackupControl.Proofs.Numeric.DecimalText

namespace BackupControl.Json

/-! ## Strings -/

/-- Four hexadecimal digits of a control character. -/
theorem digitsValue?_sixteen : ∀ n < 32,
    (List.replicate (4 - (Nat.toDigits 16 n).length) '0' ++ Nat.toDigits 16 n).length = 4 ∧
      digitsValue? 16 (List.replicate (4 - (Nat.toDigits 16 n).length) '0' ++ Nat.toDigits 16 n) =
        some n := by
  decide

/-- A character of a string stands for itself, or is written with a backslash in front of what is
read as it. -/
theorem escape_cases (c : Char) :
    (escape c = [c] ∧ c ≠ '"' ∧ c ≠ '\\' ∧ 32 ≤ c.toNat) ∨
      ∃ e, escape c = '\\' :: e ∧ ∀ rest, readEscape? (e ++ rest) = some (c, rest) := by
  unfold escape
  split
  · exact .inr ⟨['"'], rfl, fun _ => rfl⟩
  · exact .inr ⟨['\\'], rfl, fun _ => rfl⟩
  · exact .inr ⟨['n'], rfl, fun _ => rfl⟩
  · exact .inr ⟨['r'], rfl, fun _ => rfl⟩
  · exact .inr ⟨['t'], rfl, fun _ => rfl⟩
  · exact .inr ⟨['b'], rfl, fun _ => rfl⟩
  · exact .inr ⟨['f'], rfl, fun _ => rfl⟩
  · rename_i hquote hbackslash _ _ _ _ _
    split
    · rename_i hcontrol
      refine .inr ⟨'u' :: (List.replicate (4 - (Nat.toDigits 16 c.toNat).length) '0' ++
        Nat.toDigits 16 c.toNat), rfl, fun rest => ?_⟩
      obtain ⟨hlength, hvalue⟩ := digitsValue?_sixteen c.toNat hcontrol
      generalize List.replicate (4 - (Nat.toDigits 16 c.toNat).length) '0' ++
        Nat.toDigits 16 c.toNat = digits at hlength hvalue
      obtain ⟨h₁, h₂, h₃, h₄, rfl⟩ := List.length_eq_four.1 hlength
      have hread : readHex4? (h₁ :: h₂ :: h₃ :: h₄ :: rest) = some (c.toNat, rest) := by
        rw [readHex4?, hvalue]
        rfl
      have hplane : c.toNat < 0xd800 ∨ 0xdfff < c.toNat := .inl (by omega)
      simp only [readEscape?, List.cons_append, List.nil_append, hread, if_pos hplane,
        Char.ofNat_toNat]
    · rename_i hprintable
      exact .inl ⟨rfl, hquote, hbackslash, not_lt.1 hprintable⟩

/-- The characters of a string are read up to its closing quote. -/
theorem readChars?_flatMap_escape {fuel : Nat} {cs done rest : List Char}
    (hfuel : (cs.flatMap escape).length < fuel) :
    readChars? fuel done (cs.flatMap escape ++ '"' :: rest) = some (cs.reverse ++ done, rest) := by
  -- the characters read so far and the depth that is left vary in the induction
  induction cs generalizing fuel done with
  | nil =>
    obtain ⟨fuel, rfl⟩ := Nat.exists_eq_succ_of_ne_zero (Nat.ne_of_gt hfuel)
    rfl
  | cons c cs ih =>
    obtain ⟨fuel, rfl⟩ := Nat.exists_eq_succ_of_ne_zero (Nat.ne_zero_of_lt hfuel)
    rw [List.flatMap_cons, List.length_append] at hfuel
    rw [List.flatMap_cons, List.append_assoc, List.reverse_cons, List.append_assoc,
      List.singleton_append]
    rcases escape_cases c with ⟨hself, hquote, hbackslash, hprintable⟩ | ⟨e, hescape, hread⟩
    · rw [hself] at hfuel ⊢
      rw [List.singleton_append, readChars?, if_neg (not_lt.2 hprintable)]
      · exact ih (by rw [List.length_singleton] at hfuel; omega)
      · exact hquote
      · exact hbackslash
    · rw [hescape] at hfuel ⊢
      rw [List.cons_append, readChars?, hread]
      exact ih (by simp only [List.length_cons] at hfuel; omega)

/-- A string is read after its opening quote. -/
theorem readString?_writeString (s : String) (rest : List Char) :
    readString? (s.toList.flatMap escape ++ '"' :: rest) = some (s, rest) := by
  have hfuel : (s.toList.flatMap escape).length <
      (s.toList.flatMap escape ++ '"' :: rest).length + 1 := by
    rw [List.length_append]
    omega
  rw [readString?, readChars?_flatMap_escape hfuel, List.append_nil, Option.map_some]
  dsimp only
  rw [List.reverse_reverse, String.ofList_toList]

/-! ## Numbers -/

/-- A number without its sign starts with a digit, and a zero at the front stands alone or before
a point. -/
inductive ProperFront : List Char → Prop where
  | zero : ProperFront ['0']
  | fraction (rest : List Char) : ProperFront ('0' :: '.' :: rest)
  | digit {c : Char} (hc : c.isDigit = true) (hzero : c ≠ '0') (rest : List Char) :
      ProperFront (c :: rest)

/-- The sign of a number goes before it. -/
def signed (negative : Bool) (digits : List Char) : List Char :=
  if negative then '-' :: digits else digits

/-- A number starts with a digit, and no digit follows a zero at the front. -/
def isWellFormed : List Char → Bool
  | '0' :: d :: _ => !d.isDigit
  | d :: _ => d.isDigit
  | [] => false

/-- A number whose sign was read. -/
def unsigned? (rounding : Rounding) (negative : Bool) (digits : List Char) : Option Json :=
  if !isWellFormed digits then none
  else if digits.all Char.isDigit && !(negative && digits.all (· == '0')) then
    (digitsValue? 10 digits).map fun n => .int (if negative then -(n : Int) else n)
  else (rounding negative digits).map .real

namespace ProperFront

variable {digits : List Char}

/-- A number with a proper front is well-formed. -/
theorem isWellFormed_eq (h : ProperFront digits) : isWellFormed digits = true := by
  cases h with
  | zero => rfl
  | fraction rest => rfl
  | digit hc hzero rest =>
    unfold isWellFormed
    split
    · rename_i heq
      exact absurd (List.cons.inj heq).1 hzero
    · rename_i heq
      rw [← (List.cons.inj heq).1]
      exact hc
    · rename_i heq
      exact absurd heq nofun

/-- The sign of a number is read first. -/
theorem number?_signed (h : ProperFront digits) (rounding : Rounding) (negative : Bool) :
    number? rounding (signed negative digits) = unsigned? rounding negative digits := by
  cases negative with
  | true => rfl
  | false =>
    -- no digit is a sign
    cases h with
    | zero => rfl
    | fraction rest => rfl
    | @digit c hc hzero rest =>
      have hminus : c ≠ '-' := by
        rintro rfl
        exact absurd hc (by decide)
      have hsign : signed false (c :: rest) = c :: rest := rfl
      rw [hsign, number?.eq_def]
      split
      rename_i heq
      split at heq
      · rename_i hcons
        exact absurd (List.cons.inj hcons).1 hminus
      · obtain ⟨rfl, rfl⟩ := Prod.mk.inj heq
        rfl

/-- A number with a proper front is whole if it has digits only, and is not minus zero. -/
theorem number?_eq (h : ProperFront digits) (rounding : Rounding) (negative : Bool) :
    number? rounding (signed negative digits) =
      if digits.all Char.isDigit && !(negative && digits.all (· == '0')) then
        (digitsValue? 10 digits).map fun n => .int (if negative then -(n : Int) else n)
      else (rounding negative digits).map .real := by
  rw [h.number?_signed, unsigned?, h.isWellFormed_eq]
  cases digitsValue? 10 digits <;> rfl

end ProperFront

/-- The characters of a number are digits and those four. -/
theorem isNumberChar_of {c : Char} (h : c.isDigit = true ∨ c ∈ ['.', 'e', '+', '-']) :
    isNumberChar c = true := by
  unfold isNumberChar
  rcases h with h | h
  · rw [h]
    rfl
  · obtain rfl | rfl | rfl | rfl : c = '.' ∨ c = 'e' ∨ c = '+' ∨ c = '-' := by simpa using h
    all_goals rfl

/-- The digits of a number have a proper front. -/
theorem properFront_toDigits (n : Nat) : ProperFront (Nat.toDigits 10 n) := by
  rcases Nat.eq_zero_or_pos n with rfl | hn
  · exact .zero
  · obtain ⟨c, rest, hdigits, hc, hzero⟩ := DecimalLayout.exists_toDigits_eq_cons hn
    rw [hdigits]
    exact .digit hc hzero rest

/-- A whole number is written as its sign and its digits. -/
theorem repr_eq_signed (n : Int) :
    n.repr.toList = signed (decide (n < 0)) (Nat.toDigits 10 n.natAbs) := by
  cases n with
  | ofNat n =>
    have hsign : decide (Int.ofNat n < 0) = false :=
      decide_eq_false (not_lt.2 (Int.natCast_nonneg n))
    rw [hsign]
    exact Nat.toList_repr
  | negSucc n =>
    have hsign : decide (Int.negSucc n < 0) = true := decide_eq_true (Int.negSucc_lt_zero n)
    rw [hsign, Int.repr, String.toList_append, Nat.toList_repr]
    rfl

/-- A whole number is read from its text. -/
theorem number?_repr (rounding : Rounding) (n : Int) :
    number? rounding n.repr.toList = some (.int n) := by
  obtain ⟨hdigits, hvalue⟩ := isDigits_toDigits n.natAbs
  have hwhole : (Nat.toDigits 10 n.natAbs).all Char.isDigit = true :=
    List.all_eq_true.2 hdigits.digits
  have hzero : (decide (n < 0) && (Nat.toDigits 10 n.natAbs).all (· == '0')) = false := by
    rw [Bool.and_eq_false_iff, decide_eq_false_iff_not]
    by_cases hnegative : n < 0
    · obtain ⟨c, rest, htext, -, hc⟩ :=
        DecimalLayout.exists_toDigits_eq_cons (Int.natAbs_pos.2 hnegative.ne)
      rw [htext, List.all_cons, beq_false_of_ne hc]
      exact .inr rfl
    · exact .inl hnegative
  rw [repr_eq_signed, (properFront_toDigits _).number?_eq, hwhole, hzero, digitsValue?_ten hdigits,
    hvalue]
  have hsigned : (if n < 0 then -(n.natAbs : Int) else n.natAbs) = n := by split <;> omega
  simp only [Bool.not_false, Bool.and_self, if_true, Option.map_some, decide_eq_true_eq, hsigned]

/-- A finite number is written as its sign and the text of its magnitude. -/
theorem exists_writeReal_eq {x : Binary64} (hfinite : x.isFinite = true) :
    ∃ digits, writeReal x = signed x.isNegative digits ∧ ProperFront digits ∧
      digits.all Char.isDigit = false ∧
      (∀ c ∈ digits, c.isDigit = true ∨ c ∈ ['.', 'e', '+', '-']) ∧
      readMagnitude? x.isNegative digits = some x := by
  have hnumber : x.isNaN = false := by
    have hlimit : x.magnitude < Binary64.infiniteMagnitude := of_decide_eq_true hfinite
    exact decide_eq_false (Nat.not_lt.2 hlimit.le)
  have hsign : ∀ digits : String, ((if x.isNegative then "-" else "") ++ digits).toList =
      signed x.isNegative digits.toList := by
    intro digits
    rw [String.toList_append, signed]
    split <;> rfl
  unfold writeReal Binary64.text
  dsimp only
  rw [if_pos hfinite, hnumber, if_neg Bool.false_ne_true, if_pos hfinite]
  split
  · rename_i hzero
    have hread : ∀ b, readMagnitude? b "0.0".toList = some (.ofMagnitude b 0) := by
      intro b
      cases b <;> rfl
    have hchars : ∀ c ∈ "0.0".toList, c.isDigit = true ∨ c ∈ ['.', 'e', '+', '-'] :=
      List.forall_mem_cons.2 ⟨.inl rfl, List.forall_mem_cons.2
        ⟨.inr List.mem_cons_self, List.forall_mem_singleton.2 (.inl rfl)⟩⟩
    refine ⟨"0.0".toList, hsign _, .fraction ['0'], rfl, hchars, ?_⟩
    rw [hread, ← hzero, Binary64.ofMagnitude_magnitude]
  · rename_i hpos
    have hdigits := Binary64.digits_shortest_pos hpos
    refine ⟨DecimalLayout.ofData.write x.shortest, ?_, ?_, ?_, ?_, ?_⟩
    · rw [hsign, String.toList_ofList]
    · rcases DecimalLayout.ofData.write_eq_cons hdigits with hpoint | hdigit
      · obtain ⟨rest, htext⟩ := hpoint
        rw [htext]
        exact .fraction rest
      · obtain ⟨c, rest, htext, hc, hzero⟩ := hdigit
        rw [htext]
        exact .digit hc hzero rest
    · obtain ⟨c, hmem, hc⟩ := DecimalLayout.ofData.exists_mem_write x.shortest
      exact List.all_eq_false.2 ⟨c, hmem, by rw [hc]; exact Bool.false_ne_true⟩
    · obtain ⟨_, _, hliteral, -⟩ := DecimalLayout.ofData.spellsDecimal_write x.shortest
      exact hliteral.forall_mem
    · rw [Binary64.readMagnitude?_write hpos hfinite, Binary64.ofMagnitude_magnitude]

/-- A finite number is read from its text. -/
theorem number?_writeReal {x : Binary64} (hfinite : x.isFinite = true) :
    number? readMagnitude? (writeReal x) = some (.real x) := by
  obtain ⟨digits, htext, hfront, hfraction, -, hread⟩ := exists_writeReal_eq hfinite
  rw [htext, hfront.number?_eq, hfraction, Bool.false_and, hread]
  rfl

end BackupControl.Json
