/-
# The texts of instants

The text of an instant shows whole seconds of universal time.  It tells instants apart, except
that a leap second which is not the last of its minute shows as the second after it.
-/
import BackupControl.Proofs.Calendar.Days
import BackupControl.Proofs.Numeric.DecimalText

namespace BackupControl

attribute [ext] Date Clock

namespace Date

/-! ## Numbers with zeros in front -/

theorem toList_padded (width n : Nat) :
    (padded width n).toList =
      List.replicate (width - (Nat.toDigits 10 n).length) '0' ++ Nat.toDigits 10 n :=
  String.toList_ofList

/-- The zeros in front are digits too. -/
theorem isDigit_of_mem_padded {width n : Nat} :
    ∀ c ∈ (padded width n).toList, c.isDigit = true := by
  rw [toList_padded]
  refine List.forall_mem_append.2 ⟨fun c hc => ?_, (isDigits_toDigits n).1.digits⟩
  rw [List.eq_of_mem_replicate hc]
  rfl

/-- The text comes to the number. -/
theorem decimalValue_padded (width n : Nat) : decimalValue (padded width n).toList = n := by
  rw [toList_padded, decimalValue, Nat.ofDigitChars_append, Nat.ofDigitChars_replicate_zero,
    Nat.mul_zero]
  exact (isDigits_toDigits n).2

/-- The text tells the number. -/
theorem padded_injective (width : Nat) : Function.Injective (padded width) := by
  intro m n h
  rw [← decimalValue_padded width m, h, decimalValue_padded]

/-- A number that has no more digits than there are places fills all of them. -/
theorem length_padded {width n : Nat} (hwidth : 0 < width) (h : n < 10 ^ width) :
    (padded width n).toList.length = width := by
  have hdigits : (Nat.toDigits 10 n).length ≤ width :=
    (Nat.length_toDigits_le_iff (by decide) hwidth).2 h
  rw [toList_padded, List.length_append, List.length_replicate]
  omega

/-- A number of two digits at most fills both places. -/
theorem length_padded_two {n : Nat} (h : n < 100) : (padded 2 n).toList.length = 2 :=
  length_padded (by decide) h

/-- Two places in front of a text tell their number and leave the rest of the text. -/
theorem padded_two_append_inj {m n : Nat} {rest rest' : List Char} (hm : m < 100) (hn : n < 100)
    (h : (padded 2 m).toList ++ rest = (padded 2 n).toList ++ rest') : m = n ∧ rest = rest' := by
  have hlength := (length_padded_two hm).trans (length_padded_two hn).symm
  obtain ⟨hnumber, hrest⟩ := List.append_inj h hlength
  exact ⟨padded_injective 2 (String.toList_injective hnumber), hrest⟩

/-! ## Years -/

/-- The sign of a year: none within four digits. -/
def yearSign (year : Int) : List Char :=
  if year < 0 then ['-'] else if year ≤ 9999 then [] else ['+']

theorem toList_yearText (year : Int) :
    (yearText year).toList = yearSign year ++ (padded 4 year.natAbs).toList := by
  have hminus : "-".toList = ['-'] := rfl
  have hplus : "+".toList = ['+'] := rfl
  unfold yearText yearSign
  split
  · rw [String.toList_append, hminus]
  · split
    · rw [List.nil_append]
    · rw [String.toList_append, hplus]

/-- The sign is what comes before the digits. -/
theorem takeWhile_yearText (year : Int) :
    (yearText year).toList.takeWhile (fun c => !c.isDigit) = yearSign year := by
  have hsign : ∀ c ∈ yearSign year, (!c.isDigit) = true := by
    unfold yearSign
    split
    · exact List.forall_mem_singleton.2 rfl
    · split
      · exact nofun
      · exact List.forall_mem_singleton.2 rfl
  have hdigits : (padded 4 year.natAbs).toList.takeWhile (fun c => !c.isDigit) = [] := by
    refine List.takeWhile_eq_nil_iff.2 fun hpos => ?_
    rw [isDigit_of_mem_padded _ (List.get_mem _ _)]
    exact Bool.false_ne_true
  rw [toList_yearText, List.takeWhile_append_of_pos hsign, hdigits, List.append_nil]

/-- The text of a year tells the year. -/
theorem yearText_injective : Function.Injective yearText := by
  intro y y' h
  have hsign : yearSign y = yearSign y' := by
    rw [← takeWhile_yearText, h, takeWhile_yearText]
  have habs : y.natAbs = y'.natAbs := by
    have htext := congrArg String.toList h
    rw [toList_yearText, toList_yearText, hsign] at htext
    exact padded_injective 4 (String.toList_injective (List.append_cancel_left htext))
  have hnegative : y < 0 ↔ y' < 0 := by
    have hminus : ∀ year : Int, yearSign year = ['-'] ↔ year < 0 := by
      intro year
      unfold yearSign
      split
      · rename_i h
        exact iff_of_true rfl h
      · rename_i h
        refine iff_of_false ?_ h
        split <;> decide
    rw [← hminus, hsign, hminus]
  omega

end Date

/-! ## Instants -/

namespace Instant

/-- What the text of an instant tells of it: a leap second counts as one at the end of a minute
only, and elsewhere as the second after it. -/
def shown (t : Instant) : Instant :=
  if t.leap = true ∧ t.seconds % 60 ≠ 59 then ⟨t.seconds + 1, false⟩ else t

/-- The parts of the text of an instant. -/
theorem toList_text (t : Instant) : t.text.toList = (Date.yearText t.date.year).toList ++
    ('-' :: ((Date.padded 2 t.date.month).toList ++ '-' :: ((Date.padded 2 t.date.day).toList ++
      'T' :: ((Date.padded 2 t.clock.hour).toList ++ ':' ::
        ((Date.padded 2 t.clock.minute).toList ++ ':' ::
          ((Date.padded 2 t.clock.second).toList ++ ['Z'])))))) := by
  have hhyphen : "-".toList = ['-'] := rfl
  have hcolon : ":".toList = [':'] := rfl
  have hdate : "T".toList = ['T'] := rfl
  have hzone : "Z".toList = ['Z'] := rfl
  simp only [text, Date.text, Clock.text, String.toList_append, List.append_assoc, hhyphen, hcolon,
    hdate, hzone, List.cons_append, List.nil_append]

/-- The month, the day, and each reading of the clock have two digits at most. -/
theorem bounds (t : Instant) : t.date.month < 100 ∧ t.date.day < 100 ∧
    t.clock.hour < 100 ∧ t.clock.minute < 100 ∧ t.clock.second < 100 := by
  obtain ⟨hvalid, -⟩ := Date.ofDayNumber_spec (t.seconds / 86400 + Date.epochDay)
  obtain ⟨hmonth, hday⟩ := Date.isValid_bounds hvalid
  refine ⟨hmonth, hday, ?_⟩
  unfold clock
  dsimp only
  split <;> omega

/-- The text tells the date and the clock. -/
theorem text_eq_iff_date_clock {t t' : Instant} :
    t.text = t'.text ↔ t.date = t'.date ∧ t.clock = t'.clock := by
  refine ⟨fun h => ?_, fun ⟨hdate, hclock⟩ => by rw [text, text, hdate, hclock]⟩
  obtain ⟨hmonth, hday, hhour, hminute, hsecond⟩ := t.bounds
  obtain ⟨hmonth', hday', hhour', hminute', hsecond'⟩ := t'.bounds
  have htext := congrArg String.toList h
  rw [toList_text, toList_text] at htext
  -- what comes after the year is as long in both texts
  obtain ⟨hyear, htext⟩ := List.append_inj' htext (by
    simp only [List.length_append, List.length_cons, Date.length_padded_two, *])
  obtain ⟨hmonths, htext⟩ :=
    Date.padded_two_append_inj hmonth hmonth' (List.cons.inj htext).2
  obtain ⟨hdays, htext⟩ := Date.padded_two_append_inj hday hday' (List.cons.inj htext).2
  obtain ⟨hhours, htext⟩ := Date.padded_two_append_inj hhour hhour' (List.cons.inj htext).2
  obtain ⟨hminutes, htext⟩ :=
    Date.padded_two_append_inj hminute hminute' (List.cons.inj htext).2
  obtain ⟨hseconds, -⟩ := Date.padded_two_append_inj hsecond hsecond' (List.cons.inj htext).2
  have hyears := Date.yearText_injective (String.toList_injective hyear)
  exact ⟨Date.ext hyears hmonths hdays, Clock.ext hhours hminutes hseconds⟩

/-- The date and the clock tell the minute, and the second in it. -/
theorem date_clock_eq_iff {t t' : Instant} :
    t.date = t'.date ∧ t.clock = t'.clock ↔
      t.seconds / 60 = t'.seconds / 60 ∧
        t.seconds % 60 + t.leap.toNat = t'.seconds % 60 + t'.leap.toNat := by
  have hleap : ∀ b : Bool, (if b then 1 else 0) = b.toNat := by decide
  have hclock : t.clock = t'.clock ↔
      (t.seconds % 86400).toNat / 3600 = (t'.seconds % 86400).toNat / 3600 ∧
        (t.seconds % 86400).toNat / 60 % 60 = (t'.seconds % 86400).toNat / 60 % 60 ∧
        (t.seconds % 86400).toNat % 60 + t.leap.toNat =
          (t'.seconds % 86400).toNat % 60 + t'.leap.toNat := by
    simp only [clock, hleap, Clock.mk.injEq]
  have hdate : t.date = t'.date ↔ t.seconds / 86400 = t'.seconds / 86400 := by
    rw [date, date, Date.ofDayNumber_injective.eq_iff]
    omega
  rw [hdate, hclock]
  omega

/-- A leap second that shows as such is the last second of its minute. -/
theorem shown_cases (t : Instant) :
    (t.shown = t ∧ (t.leap = true → t.seconds % 60 = 59)) ∨
      (t.leap = true ∧ t.seconds % 60 ≠ 59 ∧ t.shown = ⟨t.seconds + 1, false⟩) := by
  unfold shown
  split
  · rename_i h
    exact .inr ⟨h.1, h.2, rfl⟩
  · rename_i h
    exact .inl ⟨rfl, fun hleap => by_contra fun hlast => h ⟨hleap, hlast⟩⟩

/-- An instant has the text of what it shows. -/
theorem text_shown (t : Instant) : t.shown.text = t.text := by
  rcases t.shown_cases with ⟨hsame, -⟩ | ⟨hleap, hinner, hnext⟩
  · rw [hsame]
  · rw [hnext, text_eq_iff_date_clock, date_clock_eq_iff, hleap]
    dsimp only [Bool.toNat_false, Bool.toNat_true]
    omega

/-- Instants that show themselves are told apart by their texts. -/
theorem text_inj {t t' : Instant} (h : t.leap = true → t.seconds % 60 = 59)
    (h' : t'.leap = true → t'.seconds % 60 = 59) : t.text = t'.text ↔ t = t' := by
  refine ⟨fun heq => ?_, congrArg text⟩
  obtain ⟨hminute, hsecond⟩ := date_clock_eq_iff.1 (text_eq_iff_date_clock.1 heq)
  obtain ⟨n, leap⟩ := t
  obtain ⟨n', leap'⟩ := t'
  simp only [Instant.mk.injEq] at h h' hminute hsecond ⊢
  -- a leap second is the sixtieth of its minute, and no other second is
  cases leap with
  | false =>
    cases leap' with
    | false => exact ⟨by omega, rfl⟩
    | true =>
      rw [Bool.toNat_false, Bool.toNat_true, h' rfl] at hsecond
      omega
  | true =>
    cases leap' with
    | false =>
      rw [Bool.toNat_false, Bool.toNat_true, h rfl] at hsecond
      omega
    | true => exact ⟨by omega, rfl⟩

/-- Instants have one text just if they show alike. -/
theorem text_eq_iff {t t' : Instant} : t.text = t'.text ↔ t.shown = t'.shown := by
  have hproper : ∀ t : Instant, t.shown.leap = true → t.shown.seconds % 60 = 59 := by
    intro t
    rcases t.shown_cases with ⟨hsame, hlast⟩ | ⟨-, -, hnext⟩
    · rwa [hsame]
    · rw [hnext]
      exact nofun
  rw [← text_shown t, ← text_shown t', text_inj (hproper t) (hproper t')]

end Instant

end BackupControl
