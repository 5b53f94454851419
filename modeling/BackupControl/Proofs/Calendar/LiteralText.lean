/-
# The texts of dates and clock times

A field of a literal is its number with zeros in front, so a date of four-digit years and a clock
time have one text each: the one that is written for them.
-/
import BackupControl.Proofs.Calendar.InstantText
import BackupControl.Proofs.Calendar.TimeLiteral

namespace BackupControl

/-! ## Fields -/

/-- Digits in the same number of places come to the same value only if they are the same, whatever
was read before them. -/
theorem eq_of_ofDigitChars_eq {cs ds : List Char} {m n : Nat} (hlength : cs.length = ds.length)
    (hcs : AllDigits cs) (hds : AllDigits ds)
    (h : Nat.ofDigitChars 10 cs m = Nat.ofDigitChars 10 ds n) : m = n ∧ cs = ds := by
  induction cs generalizing ds m n with
  | nil =>
    obtain rfl := List.length_eq_zero_iff.1 hlength.symm
    exact ⟨h, rfl⟩
  | cons c cs ih =>
    cases ds with
    | nil => exact absurd hlength (Nat.succ_ne_zero _)
    | cons d ds =>
      obtain ⟨hc, hcs⟩ := List.forall_mem_cons.1 hcs
      obtain ⟨hd, hds⟩ := List.forall_mem_cons.1 hds
      rw [Nat.ofDigitChars_cons, Nat.ofDigitChars_cons] at h
      obtain ⟨hnumber, rfl⟩ := ih (Nat.succ.inj hlength) hcs hds h
      -- the last place of the number so far is the value of the digit
      have hzero : '0'.toNat = 48 := rfl
      have hnine : '9'.toNat = 57 := rfl
      have hcle : '0'.toNat ≤ c.toNat ∧ c.toNat ≤ '9'.toNat := isDigit_eq_true_iff.1 hc
      have hdle : '0'.toNat ≤ d.toNat ∧ d.toNat ≤ '9'.toNat := isDigit_eq_true_iff.1 hd
      have hchar : c = d := Char.toNat_inj.1 (by omega)
      exact ⟨by omega, by rw [hchar]⟩

/-- A field is written as its number with zeros in front. -/
theorem FieldText.eq_padded {width least most n : Nat} {cs : List Char} (hwidth : 0 < width)
    (hmost : most < 10 ^ width) (h : FieldText width least most cs n) :
    cs = (Date.padded width n).toList := by
  have hn : n < 10 ^ width := Nat.lt_of_le_of_lt h.most hmost
  have hlength : cs.length = (Date.padded width n).toList.length := by
    rw [h.length, Date.length_padded hwidth hn]
  have hvalue : decimalValue cs = decimalValue (Date.padded width n).toList := by
    rw [h.value, Date.decimalValue_padded]
  exact (eq_of_ofDigitChars_eq hlength h.digits Date.isDigit_of_mem_padded hvalue).2

/-- A number in range is a field, with zeros in front. -/
theorem fieldText_padded {width least most n : Nat} (hwidth : 0 < width)
    (hn : n < 10 ^ width) (hleast : least ≤ n) (hmost : n ≤ most) :
    FieldText width least most (Date.padded width n).toList n where
  digits := Date.isDigit_of_mem_padded
  length := Date.length_padded hwidth hn
  value := Date.decimalValue_padded width n
  least := hleast
  most := hmost

/-! ## Dates and clock times -/

/-- The parts of the text of a date within four-digit years. -/
theorem Date.toList_text_mk (year month day : Nat) (h : year ≤ 9999) :
    (Date.mk year month day).text.toList =
      (padded 4 year).toList ++ '-' :: ((padded 2 month).toList ++ '-' :: (padded 2 day).toList) := by
  have hhyphen : "-".toList = ['-'] := rfl
  have hyear : yearText (year : Int) = padded 4 year := by
    rw [yearText, if_neg (by omega), if_pos (by omega), Int.natAbs_natCast]
  simp only [text, hyear, String.toList_append, hhyphen, List.append_assoc, List.cons_append,
    List.nil_append]

/-- The parts of the text of a clock time. -/
theorem Clock.toList_text (c : Clock) :
    c.text.toList = (Date.padded 2 c.hour).toList ++
      ':' :: ((Date.padded 2 c.minute).toList ++ ':' :: (Date.padded 2 c.second).toList) := by
  have hcolon : ":".toList = [':'] := rfl
  simp only [text, String.toList_append, hcolon, List.append_assoc, List.cons_append,
    List.nil_append]

/-- What is the text of a date is what is written for it. -/
theorem DateText.eq_text {cs : List Char} {d : Date} (h : DateText cs d) : cs = d.text.toList := by
  obtain ⟨hyear, hmonth, hday⟩ := h
  rw [Date.toList_text_mk _ _ _ hyear.most, ← hyear.eq_padded (by decide) (by decide),
    ← hmonth.eq_padded (by decide) (by decide), ← hday.eq_padded (by decide) (by decide)]

/-- What is the text of a clock time is what is written for it. -/
theorem ClockText.eq_text {cs : List Char} {c : Clock} (h : ClockText cs c) :
    cs = c.text.toList := by
  obtain ⟨hhour, hminute, hsecond⟩ := h
  rw [Clock.toList_text, ← hhour.eq_padded (by decide) (by decide),
    ← hminute.eq_padded (by decide) (by decide), ← hsecond.eq_padded (by decide) (by decide)]

/-- What is written for a date of the calendar within four-digit years is its text. -/
theorem dateText_text {d : Date} (hvalid : d.isValid = true) (hleast : 0 ≤ d.year)
    (hmost : d.year ≤ 9999) : DateText d.text.toList d := by
  obtain ⟨year, month, day⟩ := d
  dsimp only at hleast hmost
  obtain ⟨year, rfl⟩ := Int.eq_ofNat_of_zero_le hleast
  obtain ⟨⟨hmonth, htwelve⟩, hday, hlong⟩ := Date.bounds_of_isValid hvalid
  dsimp only at hmonth htwelve hday hlong
  rw [Date.toList_text_mk _ _ _ (by omega)]
  exact ⟨fieldText_padded (by decide) (by omega) (Nat.zero_le _) (by omega),
    fieldText_padded (by decide) (by omega) hmonth htwelve,
    fieldText_padded (by decide) (by omega) hday hlong⟩

/-- What is written for a clock time is its text. -/
theorem clockText_text {c : Clock} (hhour : c.hour ≤ 23) (hminute : c.minute ≤ 59)
    (hsecond : c.second ≤ 60) : ClockText c.text.toList c := by
  rw [Clock.toList_text]
  exact ⟨fieldText_padded (by decide) (by omega) (Nat.zero_le _) hhour,
    fieldText_padded (by decide) (by omega) (Nat.zero_le _) hminute,
    fieldText_padded (by decide) (by omega) (Nat.zero_le _) hsecond⟩

end BackupControl
