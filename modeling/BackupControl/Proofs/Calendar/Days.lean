/-
# Days of the calendar

A day falls in the year that begins at it or before it, and in a month of that year.  The date of
a day number has that day number, and a date of the calendar is that of its day number, so days
and dates correspond one to one.
-/
import BackupControl.Calendar.Date
import Mathlib.Algebra.BigOperators.Group.List.Basic
import Mathlib.Algebra.Order.Ring.Int
import Mathlib.Order.Monotone.Basic

namespace BackupControl.Date

/-! ## Years -/

/-- The number of days of a year. -/
def yearLength (year : Int) : Nat := if isLeap year then 366 else 365

/-- A year is as long as its months are together. -/
theorem sum_monthLengths (year : Int) :
    (monthLengths (isLeap year)).sum = yearLength year := by
  unfold yearLength
  cases isLeap year <;> rfl

/-- The next year begins when a year is over. -/
theorem daysBeforeYear_add_one (year : Int) :
    daysBeforeYear (year + 1) = daysBeforeYear year + yearLength year := by
  have hleap : isLeap year = true ↔ year % 4 = 0 ∧ (year % 100 ≠ 0 ∨ year % 400 = 0) := by
    simp [isLeap]
  unfold daysBeforeYear yearLength
  split <;> rename_i h <;> rw [hleap] at h <;> omega

/-- The year of a day begins at the day or before it, and the next year after it. -/
theorem yearOfDay_spec (n : Int) :
    daysBeforeYear (yearOfDay n) ≤ n ∧ n < daysBeforeYear (yearOfDay n + 1) := by
  -- the share of the cycle is off by one year at most
  have hbefore : daysBeforeYear (n * 400 / 146097 - 1) ≤ n := by
    unfold daysBeforeYear
    omega
  have hafter : n < daysBeforeYear (n * 400 / 146097 + 1 + 1) := by
    unfold daysBeforeYear
    omega
  unfold yearOfDay
  dsimp only
  split
  · rename_i hlate
    rw [sub_add_cancel]
    exact ⟨hbefore, hlate⟩
  · rename_i hbegun
    split
    · rename_i hover
      exact ⟨hover, hafter⟩
    · rename_i hopen
      exact ⟨Int.not_lt.1 hbegun, Int.not_le.1 hopen⟩

/-- Later years begin later. -/
theorem daysBeforeYear_lt_iff {year year' : Int} :
    daysBeforeYear year < daysBeforeYear year' ↔ year < year' := by
  have hmono : StrictMono daysBeforeYear := by
    apply strictMono_int_of_lt_succ
    intro year
    have hpos : 0 < yearLength year := by
      unfold yearLength
      split <;> decide
    rw [daysBeforeYear_add_one]
    omega
  exact hmono.lt_iff_lt

/-- A day falls in a year just if it lies between the beginnings of that year and the next. -/
theorem yearOfDay_eq {n year : Int} (hbegun : daysBeforeYear year ≤ n)
    (hopen : n < daysBeforeYear (year + 1)) : yearOfDay n = year := by
  obtain ⟨hbegun', hopen'⟩ := yearOfDay_spec n
  have hle : yearOfDay n < year + 1 := daysBeforeYear_lt_iff.1 (by omega)
  have hge : year < yearOfDay n + 1 := daysBeforeYear_lt_iff.1 (by omega)
  omega

/-! ## Months -/

/-- A day falls in one of the months: the months before it and the day of the month make up the
day. -/
theorem monthOfDay_spec {lengths : List Nat} (month : Nat) {n : Nat} (h : n < lengths.sum) :
    ∃ before day, monthOfDay month lengths n = (month + before, day) ∧
      1 ≤ day ∧ day ≤ lengths.getD before 0 ∧ (lengths.take before).sum + day = n + 1 := by
  induction lengths generalizing month n with
  | nil => exact absurd h (Nat.not_lt_zero n)
  | cons length rest ih =>
    rw [List.sum_cons] at h
    unfold monthOfDay
    split
    · rename_i hfirst
      exact ⟨0, n + 1, rfl, Nat.succ_pos n, hfirst, Nat.zero_add _⟩
    · rename_i hlater
      have hrest : n - length < rest.sum := by omega
      obtain ⟨before, day, heq, hday, hlength, hsum⟩ := ih (month + 1) hrest
      refine ⟨before + 1, day, ?_, hday, hlength, ?_⟩
      · rw [heq, Nat.add_right_comm, Nat.add_assoc]
      · rw [List.take_succ_cons, List.sum_cons]
        omega

/-- A day of a month that has it is found in that month. -/
theorem monthOfDay_eq {lengths : List Nat} (month : Nat) {before day n : Nat} (hfirst : 1 ≤ day)
    (hlast : day ≤ lengths.getD before 0) (hn : (lengths.take before).sum + day = n + 1) :
    monthOfDay month lengths n = (month + before, day) := by
  induction lengths generalizing month before n with
  | nil =>
    rw [List.getD_nil] at hlast
    omega
  | cons length rest ih =>
    unfold monthOfDay
    cases before with
    | zero =>
      have hday : day = n + 1 := by simpa using hn
      have hshort : n < length := by
        rw [List.getD_cons_zero] at hlast
        omega
      rw [if_pos hshort, hday]
      rfl
    | succ before =>
      rw [List.take_succ_cons, List.sum_cons] at hn
      rw [List.getD_cons_succ] at hlast
      rw [if_neg (by omega), ih (month + 1) hlast (by omega), Nat.add_right_comm, Nat.add_assoc]

/-- The months up to one of them are no longer than all of them. -/
theorem sum_take_add_getD_le (lengths : List Nat) (before : Nat) :
    (lengths.take before).sum + lengths.getD before 0 ≤ lengths.sum := by
  induction lengths generalizing before with
  | nil =>
    rw [List.take_nil, List.getD_nil]
    exact Nat.le_refl 0
  | cons length rest ih =>
    cases before with
    | zero =>
      show 0 + length ≤ (length :: rest).sum
      rw [List.sum_cons]
      omega
    | succ before =>
      have hrest := ih before
      rw [List.take_succ_cons, List.getD_cons_succ, List.sum_cons, List.sum_cons]
      omega

/-- The months before a month, added up. -/
theorem daysBeforeMonth_eq (year : Int) (before : Nat) :
    daysBeforeMonth year (1 + before) = ((monthLengths (isLeap year)).take before).sum := by
  rw [daysBeforeMonth, Nat.add_sub_cancel_left, List.sum_eq_foldl]

/-! ## Dates -/

/-- The date of a day is one of the calendar and has the number of the day. -/
theorem ofDayNumber_spec (n : Int) :
    (ofDayNumber n).isValid = true ∧ (ofDayNumber n).dayNumber = n := by
  obtain ⟨hbegun, hopen⟩ := yearOfDay_spec n
  rw [daysBeforeYear_add_one, ← sum_monthLengths] at hopen
  have hday : (n - daysBeforeYear (yearOfDay n)).toNat <
      (monthLengths (isLeap (yearOfDay n))).sum := by omega
  obtain ⟨before, day, heq, hfirst, hlength, hsum⟩ := monthOfDay_spec 1 hday
  have hdate : ofDayNumber n = ⟨yearOfDay n, 1 + before, day⟩ := by
    rw [ofDayNumber, heq]
  rw [hdate]
  constructor
  · have hmonth : 1 + before ≠ 0 := by omega
    rw [isValid, monthLength, if_neg hmonth, Nat.add_sub_cancel_left, Bool.and_eq_true,
      decide_eq_true_eq, decide_eq_true_eq]
    exact ⟨hfirst, hlength⟩
  · rw [dayNumber, daysBeforeMonth_eq]
    dsimp only
    omega

/-- The date of a day tells the day. -/
theorem ofDayNumber_injective : Function.Injective ofDayNumber :=
  Function.LeftInverse.injective fun n => (ofDayNumber_spec n).2

/-- A month and a day of the calendar, by how many months come before. -/
theorem isValid_eq_true_iff {d : Date} :
    d.isValid = true ↔
      1 ≤ d.month ∧ 1 ≤ d.day ∧ d.day ≤ (monthLengths (isLeap d.year)).getD (d.month - 1) 0 := by
  rw [isValid, Bool.and_eq_true, decide_eq_true_eq, decide_eq_true_eq, monthLength]
  split <;> omega

/-- A date of the calendar is that of its day number. -/
theorem ofDayNumber_dayNumber {d : Date} (h : d.isValid = true) : ofDayNumber d.dayNumber = d := by
  obtain ⟨year, month, day⟩ := d
  obtain ⟨hmonth, hfirst, hlast⟩ := isValid_eq_true_iff.1 h
  obtain ⟨before, rfl⟩ := Nat.exists_eq_add_of_le hmonth
  dsimp only at hfirst hlast
  rw [Nat.add_sub_cancel_left] at hlast
  have hnumber : dayNumber ⟨year, 1 + before, day⟩ = daysBeforeYear year +
      (((monthLengths (isLeap year)).take before).sum + day - 1 : Nat) := by
    rw [dayNumber, daysBeforeMonth_eq]
    dsimp only
    omega
  -- the months before and the day make up no more than the year
  have hsum : ((monthLengths (isLeap year)).take before).sum + day ≤ yearLength year := by
    have hlengths := sum_take_add_getD_le (monthLengths (isLeap year)) before
    rw [sum_monthLengths] at hlengths
    omega
  have hyear : yearOfDay (dayNumber ⟨year, 1 + before, day⟩) = year := by
    apply yearOfDay_eq
    · omega
    · rw [daysBeforeYear_add_one]
      omega
  rw [ofDayNumber, hyear, hnumber, add_sub_cancel_left, Int.toNat_natCast,
    monthOfDay_eq 1 hfirst hlast (by omega)]

/-- Dates of the calendar are told apart by their day numbers. -/
theorem dayNumber_inj {d d' : Date} (h : d.isValid = true) (h' : d'.isValid = true)
    (heq : d.dayNumber = d'.dayNumber) : d = d' := by
  rw [← ofDayNumber_dayNumber h, heq, ofDayNumber_dayNumber h']

/-- No month is longer than 31 days. -/
theorem monthLength_le (year : Int) (month : Nat) : monthLength year month ≤ 31 := by
  unfold monthLength
  split
  · exact Nat.zero_le _
  · rw [List.getD_eq_getElem?_getD]
    cases hmonth : (monthLengths (isLeap year))[month - 1]? with
    | none => exact Nat.zero_le _
    | some length =>
      have hmem := List.mem_of_getElem? hmonth
      have hall : ∀ leap, ∀ length ∈ monthLengths leap, length ≤ 31 := by decide
      exact hall _ _ hmem

/-- A year has twelve months. -/
theorem monthLength_eq_zero {year : Int} {month : Nat} (h : 12 < month) :
    monthLength year month = 0 := by
  rw [monthLength, if_neg (by omega), List.getD_eq_getElem?_getD, List.getElem?_eq_none]
  · rfl
  · cases isLeap year
    all_goals
      change 12 ≤ month - 1
      omega

/-- The month and the day of a date of the calendar are counted from one. -/
theorem bounds_of_isValid {d : Date} (h : d.isValid = true) :
    (1 ≤ d.month ∧ d.month ≤ 12) ∧ 1 ≤ d.day ∧ d.day ≤ 31 := by
  obtain ⟨hmonth, hfirst, -⟩ := isValid_eq_true_iff.1 h
  have hlast : d.day ≤ monthLength d.year d.month :=
    of_decide_eq_true (Bool.and_eq_true_iff.1 h).2
  refine ⟨⟨hmonth, ?_⟩, hfirst, Nat.le_trans hlast (monthLength_le _ _)⟩
  by_contra hlate
  rw [monthLength_eq_zero (by omega)] at hlast
  omega

/-- The month and the day of a date have two digits at most. -/
theorem isValid_bounds {d : Date} (h : d.isValid = true) : d.month < 100 ∧ d.day < 100 := by
  obtain ⟨hmonth, hday⟩ := bounds_of_isValid h
  omega

end BackupControl.Date
