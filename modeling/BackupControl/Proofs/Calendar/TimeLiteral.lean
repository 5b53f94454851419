/-
# What a time literal denotes

The fields of a literal are read from the left, each up to its width.  A literal that has one of
the shapes is exactly as long as its fields are wide, so each field fills its width, and a digit
of another script, which a shape lets pass, is refused where the field is read.
-/
import BackupControl.Calendar.TimeLiteral
import BackupControl.Proofs.Numeric.IntegerLiteral
import Mathlib.Data.List.TakeWhile

namespace BackupControl

/-! ## Texts of dates and clock times -/

/-- A field of a literal: so many digits, which stand for a number between two bounds. -/
structure FieldText (width least most : Nat) (cs : List Char) (n : Nat) : Prop where
  digits : ∀ c ∈ cs, c.isDigit = true
  length : cs.length = width
  value : decimalValue cs = n
  least : least ≤ n
  most : n ≤ most

/-- The text of a date: year, month and day with hyphens between. -/
inductive DateText : List Char → Date → Prop where
  | mk {ys ms ds : List Char} {y m d : Nat} (hyear : FieldText 4 0 9999 ys y)
      (hmonth : FieldText 2 1 12 ms m) (hday : FieldText 2 1 31 ds d) :
      DateText (ys ++ '-' :: (ms ++ '-' :: ds)) ⟨y, m, d⟩

/-- The text of a clock time: hour, minute and second with colons between. -/
inductive ClockText : List Char → Clock → Prop where
  | mk {hs ms ss : List Char} {h m s : Nat} (hhour : FieldText 2 0 23 hs h)
      (hminute : FieldText 2 0 59 ms m) (hsecond : FieldText 2 0 60 ss s) :
      ClockText (hs ++ ':' :: (ms ++ ':' :: ss)) ⟨h, m, s⟩

/-- The local date and clock time that a literal denotes: both of them, a clock time of the day,
or the midnight of a date. -/
inductive LocalTimeText (today : Date) : List Char → Date → Clock → Prop where
  | full {ds cs : List Char} {d : Date} {c : Clock} (hdate : DateText ds d)
      (hclock : ClockText cs c) : LocalTimeText today (ds ++ '_' :: cs) d c
  | clock {cs : List Char} {c : Clock} (hclock : ClockText cs c) : LocalTimeText today cs today c
  | date {ds : List Char} {d : Date} (hdate : DateText ds d) :
      LocalTimeText today ds d ⟨0, 0, 0⟩

theorem DateText.length_eq {cs : List Char} {d : Date} (h : DateText cs d) : cs.length = 10 := by
  obtain ⟨hyear, hmonth, hday⟩ := h
  simp only [List.length_append, List.length_cons, hyear.length, hmonth.length, hday.length]

theorem ClockText.length_eq {cs : List Char} {c : Clock} (h : ClockText cs c) :
    cs.length = 8 := by
  obtain ⟨hhour, hminute, hsecond⟩ := h
  simp only [List.length_append, List.length_cons, hhour.length, hminute.length, hsecond.length]

/-! ## Reading fields -/

namespace FieldReader

variable {α : Type} {cs rest : List Char} {n : Nat}

/-- A guard lets the fields after it be read just if its condition does not hold. -/
theorem run_guard_eq_ok_iff {condition : Prop} [Decidable condition] {fault : TimeFault}
    {r : FieldReader α} {result : α × List Char} :
    (if condition then (throw fault : FieldReader PUnit) >>= fun _ => r else r).run cs =
        .ok result ↔
      ¬ condition ∧ r.run cs = .ok result := by
  split
  · rename_i hrefused
    exact ⟨nofun, fun h => absurd hrefused h.1⟩
  · rename_i hpassed
    exact ⟨fun h => ⟨hpassed, h⟩, (·.2)⟩

/-- Fields in a row are read just if each of them is. -/
theorem run_bind_eq_ok_iff {β : Type} {r : FieldReader α} {f : α → FieldReader β}
    {result : β × List Char} :
    (r >>= f).run cs = .ok result ↔
      ∃ a rest, r.run cs = .ok (a, rest) ∧ (f a).run rest = .ok result := by
  rw [StateT.run_bind, bind_eq_ok_iff, Prod.exists]

/-- A number is read from the digits in front, as many as its width has room for. -/
theorem run_number_eq_ok_iff {width least most : Nat} :
    (number width least most).run cs = .ok (n, rest) ↔
      (cs.take width).takeWhile Char.isDigit ≠ [] ∧ (least ≤ n ∧ n ≤ most) ∧
        decimalValue ((cs.take width).takeWhile Char.isDigit) = n ∧
        cs.drop ((cs.take width).takeWhile Char.isDigit).length = rest := by
  have hget : (get : FieldReader (List Char)).run cs = .ok (cs, cs) := rfl
  unfold number
  rw [run_bind_eq_ok_iff]
  constructor
  · rintro ⟨_, _, hread, h⟩
    obtain ⟨rfl, rfl⟩ := Prod.mk.inj (Except.ok.inj (hget.symm.trans hread))
    obtain ⟨hdigits, h⟩ := run_guard_eq_ok_iff.1 h
    obtain ⟨hbounds, h⟩ := run_guard_eq_ok_iff.1 h
    obtain ⟨rfl, rfl⟩ := Prod.mk.inj (Except.ok.inj h)
    rw [List.isEmpty_iff] at hdigits
    exact ⟨hdigits, by omega, rfl, rfl⟩
  · rintro ⟨hdigits, hbounds, rfl, rfl⟩
    have hsome : ¬ ((cs.take width).takeWhile Char.isDigit).isEmpty = true := by
      rwa [List.isEmpty_iff]
    refine ⟨cs, cs, hget, run_guard_eq_ok_iff.2 ⟨hsome, run_guard_eq_ok_iff.2 ⟨?_, rfl⟩⟩⟩
    rw [decimalValue, Nat.ofDigitChars] at hbounds
    omega

/-- A number that is read is a field, of its width at most. -/
theorem of_run_number {width least most : Nat}
    (h : (number width least most).run cs = .ok (n, rest)) :
    ∃ ds w, w ≤ width ∧ FieldText w least most ds n ∧ cs = ds ++ rest := by
  obtain ⟨-, ⟨hleast, hmost⟩, hvalue, hrest⟩ := run_number_eq_ok_iff.1 h
  have hdigits : (cs.take width).takeWhile Char.isDigit <+: cs.take width :=
    List.takeWhile_prefix _
  refine ⟨_, _, ?_, ⟨fun c hc => List.mem_takeWhile_imp hc, rfl, hvalue, hleast, hmost⟩, ?_⟩
  · exact Nat.le_trans hdigits.length_le (List.length_take_le _ _)
  · rw [← hrest]
    exact List.prefix_iff_eq_append.1 (hdigits.trans (List.take_prefix _ _)) |>.symm

/-- A field of full width is read as a number. -/
theorem run_number {width least most : Nat} {ds : List Char} (hpos : 0 < width)
    (h : FieldText width least most ds n) :
    (number width least most).run (ds ++ rest) = .ok (n, rest) := by
  have htake : ((ds ++ rest).take width).takeWhile Char.isDigit = ds := by
    rw [← h.length, List.take_left, List.takeWhile_eq_self_iff]
    exact h.digits
  rw [run_number_eq_ok_iff, htake, List.drop_left]
  refine ⟨?_, ⟨h.least, h.most⟩, h.value, rfl⟩
  rw [← h.length] at hpos
  exact List.ne_nil_of_length_pos hpos

/-- A certain character is read just if it comes first. -/
theorem run_mark_eq_ok_iff {c : Char} {u : Unit} :
    (mark c).run cs = .ok (u, rest) ↔ cs = c :: rest := by
  have hget : (get : FieldReader (List Char)).run cs = .ok (cs, cs) := rfl
  unfold mark
  rw [run_bind_eq_ok_iff]
  constructor
  · rintro ⟨_, _, hread, h⟩
    obtain ⟨rfl, rfl⟩ := Prod.mk.inj (Except.ok.inj (hget.symm.trans hread))
    split at h
    · rename_i d rest'
      split at h
      · rename_i hsame
        obtain ⟨-, rfl⟩ := Prod.mk.inj (Except.ok.inj h)
        rw [hsame]
      · exact absurd h nofun
    · exact absurd h nofun
  · rintro rfl
    refine ⟨_, _, hget, ?_⟩
    dsimp only
    rw [if_pos rfl]
    rfl

/-- The end is read just if nothing is left. -/
theorem run_finish_eq_ok_iff {u : Unit} :
    finish.run cs = .ok (u, rest) ↔ cs = [] ∧ rest = [] := by
  cases cs with
  | nil =>
    constructor
    · intro h
      exact ⟨rfl, (Prod.mk.inj (Except.ok.inj h)).2.symm⟩
    · rintro ⟨-, rfl⟩
      rfl
  | cons c cs => exact ⟨nofun, nofun⟩

/-! ## Reading dates and clock times -/

/-- What is read as a date is one, if it is long enough for each of its fields. -/
theorem of_run_date {d : Date} (h : date.run cs = .ok (d, rest)) :
    ∃ text, cs = text ++ rest ∧ text.length ≤ 10 ∧ (text.length = 10 → DateText text d) := by
  simp only [date, run_bind_eq_ok_iff, run_mark_eq_ok_iff] at h
  obtain ⟨y, _, hy, _, _, rfl, m, _, hm, _, _, rfl, day, _, hday, hpure⟩ := h
  obtain ⟨rfl, rfl⟩ := Prod.mk.inj (Except.ok.inj hpure)
  obtain ⟨ys, wy, hwy, hyear, rfl⟩ := of_run_number hy
  obtain ⟨ms, wm, hwm, hmonth, rfl⟩ := of_run_number hm
  obtain ⟨ds, wd, hwd, hdays, rfl⟩ := of_run_number hday
  -- each field is at most as long as its width, so in a full text each of them is as long
  have hlength : (ys ++ '-' :: (ms ++ '-' :: ds)).length = wy + (wm + (wd + 1) + 1) := by
    simp only [List.length_append, List.length_cons, hyear.length, hmonth.length, hdays.length]
  refine ⟨ys ++ '-' :: (ms ++ '-' :: ds), ?_, by omega, fun hfull => ?_⟩
  · simp only [List.append_assoc, List.cons_append]
  · obtain ⟨rfl, rfl, rfl⟩ : wy = 4 ∧ wm = 2 ∧ wd = 2 := by omega
    exact ⟨hyear, hmonth, hdays⟩

/-- A date is read from its text. -/
theorem run_date {d : Date} {text : List Char} (h : DateText text d) :
    date.run (text ++ rest) = .ok (d, rest) := by
  obtain ⟨hyear, hmonth, hday⟩ := h
  simp only [date, run_bind_eq_ok_iff, run_mark_eq_ok_iff, List.append_assoc, List.cons_append]
  exact ⟨_, _, run_number (by decide) hyear, (), _, rfl, _, _, run_number (by decide) hmonth, (), _,
    rfl, _, _, run_number (by decide) hday, rfl⟩

/-- What is read as a clock time is one, if it is long enough for each of its fields. -/
theorem of_run_clock {c : Clock} (h : clock.run cs = .ok (c, rest)) :
    ∃ text, cs = text ++ rest ∧ text.length ≤ 8 ∧ (text.length = 8 → ClockText text c) := by
  simp only [clock, run_bind_eq_ok_iff, run_mark_eq_ok_iff] at h
  obtain ⟨hour, _, hh, _, _, rfl, minute, _, hm, _, _, rfl, second, _, hs, hpure⟩ := h
  obtain ⟨rfl, rfl⟩ := Prod.mk.inj (Except.ok.inj hpure)
  obtain ⟨hs', wh, hwh, hhour, rfl⟩ := of_run_number hh
  obtain ⟨ms, wm, hwm, hminute, rfl⟩ := of_run_number hm
  obtain ⟨ss, ws, hws, hsecond, rfl⟩ := of_run_number hs
  have hlength : (hs' ++ ':' :: (ms ++ ':' :: ss)).length = wh + (wm + (ws + 1) + 1) := by
    simp only [List.length_append, List.length_cons, hhour.length, hminute.length, hsecond.length]
  refine ⟨hs' ++ ':' :: (ms ++ ':' :: ss), ?_, by omega, fun hfull => ?_⟩
  · simp only [List.append_assoc, List.cons_append]
  · obtain ⟨rfl, rfl, rfl⟩ : wh = 2 ∧ wm = 2 ∧ ws = 2 := by omega
    exact ⟨hhour, hminute, hsecond⟩

/-- A clock time is read from its text. -/
theorem run_clock {c : Clock} {text : List Char} (h : ClockText text c) :
    clock.run (text ++ rest) = .ok (c, rest) := by
  obtain ⟨hhour, hminute, hsecond⟩ := h
  simp only [clock, run_bind_eq_ok_iff, run_mark_eq_ok_iff, List.append_assoc, List.cons_append]
  exact ⟨_, _, run_number (by decide) hhour, (), _, rfl, _, _, run_number (by decide) hminute, (),
    _, rfl, _, _, run_number (by decide) hsecond, rfl⟩

/-- The state that is left over does not matter for what is read. -/
theorem run'_eq_ok_iff {r : FieldReader α} {a : α} :
    r.run' cs = .ok a ↔ ∃ rest, r.run cs = .ok (a, rest) := by
  have hmap : r.run' cs = (r.run cs).map (·.1) := rfl
  rw [hmap, map_eq_ok_iff, Prod.exists]
  constructor
  · rintro ⟨_, rest, h, rfl⟩
    exact ⟨rest, h⟩
  · rintro ⟨rest, h⟩
    exact ⟨a, rest, h, rfl⟩

/-- A date and a clock time are read to the end just from their texts, if there is room for each
field. -/
theorem run_dateAndClock_eq_ok_iff {d : Date} {c : Clock} (hlength : cs.length = 19) :
    dateAndClock.run' cs = .ok (d, c) ↔
      ∃ ds ts, cs = ds ++ '_' :: ts ∧ DateText ds d ∧ ClockText ts c := by
  simp only [run'_eq_ok_iff, dateAndClock, run_bind_eq_ok_iff, run_mark_eq_ok_iff,
    run_finish_eq_ok_iff]
  constructor
  · rintro ⟨_, d, _, hdate, _, ts, rfl, c, _, hclock, _, _, ⟨rfl, rfl⟩, hpure⟩
    obtain ⟨hpair, -⟩ := Prod.mk.inj (Except.ok.inj hpure)
    obtain ⟨rfl, rfl⟩ := Prod.mk.inj hpair
    obtain ⟨ds, rfl, hds, hdate⟩ := of_run_date hdate
    obtain ⟨text, htext, hts, hclock⟩ := of_run_clock hclock
    -- both parts are as long as they can be, since they make up the whole length
    rw [List.append_nil] at htext
    subst htext
    rw [List.length_append, List.length_cons] at hlength
    exact ⟨ds, ts, rfl, hdate (by omega), hclock (by omega)⟩
  · rintro ⟨ds, ts, rfl, hdate, hclock⟩
    have htail : clock.run (ts ++ []) = .ok (c, []) := run_clock hclock
    rw [List.append_nil] at htail
    exact ⟨[], d, _, run_date hdate, (), _, rfl, c, _, htail, (), _, ⟨rfl, rfl⟩, rfl⟩

/-- A clock time is read to the end just from its text, if there is room for each field. -/
theorem run_clockOn_eq_ok_iff {today d : Date} {c : Clock} (hlength : cs.length = 8) :
    (clockOn today).run' cs = .ok (d, c) ↔ d = today ∧ ClockText cs c := by
  simp only [run'_eq_ok_iff, clockOn, run_bind_eq_ok_iff, run_finish_eq_ok_iff]
  constructor
  · rintro ⟨_, c, _, hclock, _, _, ⟨rfl, rfl⟩, hpure⟩
    obtain ⟨hpair, -⟩ := Prod.mk.inj (Except.ok.inj hpure)
    obtain ⟨rfl, rfl⟩ := Prod.mk.inj hpair
    obtain ⟨ts, rfl, hlong, hclock⟩ := of_run_clock hclock
    rw [List.append_nil] at hlength ⊢
    exact ⟨rfl, hclock hlength⟩
  · rintro ⟨rfl, hclock⟩
    have htail : clock.run (cs ++ []) = .ok (c, []) := run_clock hclock
    rw [List.append_nil] at htail
    exact ⟨[], c, _, htail, (), _, ⟨rfl, rfl⟩, rfl⟩

end FieldReader

/-! ## Shapes -/

/-- The characters fill the places of a shape. -/
def Fits (places cs : List Char) : Prop :=
  List.Forall₂ (fun place c => fitsPlace place c = true) places cs

/-- A text has a shape just if its characters fill the places. -/
theorem hasShape_eq_true_iff {shape : String} {cs : List Char} :
    hasShape shape cs = true ↔ Fits shape.toList cs := by
  rw [hasShape, Bool.and_eq_true, beq_iff_eq, List.all_eq_true, Fits, List.forall₂_iff_zip]
  exact and_congr_right' ⟨fun h _ _ hmem => h _ hmem, fun h p hmem => h hmem⟩

/-- A text of a shape is as long as the shape. -/
theorem length_of_hasShape {shape : String} {cs : List Char} (h : hasShape shape cs = true) :
    cs.length = shape.toList.length :=
  (hasShape_eq_true_iff.1 h).length_eq.symm

/-- Texts that fill places one after another fill all of them. -/
theorem Fits.append {ps qs cs ds : List Char} (h : Fits ps cs) (h' : Fits qs ds) :
    Fits (ps ++ qs) (cs ++ ds) :=
  List.rel_append h h'

/-- A certain character fills its place. -/
theorem Fits.cons {p : Char} {ps cs : List Char} (hplace : fitsPlace p p = true)
    (h : Fits ps cs) : Fits (p :: ps) (p :: cs) :=
  List.Forall₂.cons hplace h

/-- An ASCII digit is a decimal digit. -/
theorem isDecimalDigit_of_isDigit {c : Char} (h : c.isDigit = true) : isDecimalDigit c = true := by
  obtain ⟨hleast, hmost⟩ := isDigit_eq_true_iff.1 h
  refine List.any_eq_true.2 ⟨(0x30, 0x39), List.mem_cons_self, ?_⟩
  have hzero : '0'.toNat ≤ c.toNat := hleast
  have hnine : c.toNat ≤ '9'.toNat := hmost
  exact Bool.and_eq_true_iff.2 ⟨decide_eq_true hzero, decide_eq_true hnine⟩

/-- Digits fill the places of digits. -/
theorem fits_of_digits {cs : List Char} (h : ∀ c ∈ cs, c.isDigit = true) :
    Fits (List.replicate cs.length '9') cs := by
  induction cs with
  | nil => exact .nil
  | cons c cs ih =>
    obtain ⟨hc, hcs⟩ := List.forall_mem_cons.1 h
    exact List.Forall₂.cons (isDecimalDigit_of_isDigit hc) (ih hcs)

/-- A field fills the places of its digits. -/
theorem FieldText.fits {width least most n : Nat} {cs : List Char}
    (h : FieldText width least most cs n) : Fits (List.replicate width '9') cs :=
  h.length ▸ fits_of_digits h.digits

/-- The text of a date has the shape of one. -/
theorem DateText.fits {cs : List Char} {d : Date} (h : DateText cs d) :
    Fits "9999-99-99".toList cs := by
  obtain ⟨hyear, hmonth, hday⟩ := h
  exact hyear.fits.append (.cons (by decide) (hmonth.fits.append (.cons (by decide) hday.fits)))

/-- The text of a clock time has the shape of one. -/
theorem ClockText.fits {cs : List Char} {c : Clock} (h : ClockText cs c) :
    Fits "99:99:99".toList cs := by
  obtain ⟨hhour, hminute, hsecond⟩ := h
  exact hhour.fits.append (.cons (by decide) (hminute.fits.append (.cons (by decide) hsecond.fits)))

/-! ## Literals -/

/-- Midnight is the only clock time of its text. -/
theorem ClockText.eq_midnight {cs : List Char} {c : Clock} (h : ClockText cs c)
    (hcs : cs = "00:00:00".toList) : c = ⟨0, 0, 0⟩ := by
  obtain @⟨hs, ms, ss, h, m, s, hhour, hminute, hsecond⟩ := h
  have hparts : hs ++ ':' :: (ms ++ ':' :: ss) =
      ['0', '0'] ++ ':' :: (['0', '0'] ++ ':' :: ['0', '0']) := hcs
  obtain ⟨rfl, hminutes⟩ := List.append_inj hparts hhour.length
  obtain ⟨rfl, hseconds⟩ := List.append_inj (List.cons.inj hminutes).2 hminute.length
  obtain rfl := (List.cons.inj hseconds).2
  obtain rfl := hhour.value
  obtain rfl := hminute.value
  obtain rfl := hsecond.value
  rfl

/-- Midnight has a text. -/
theorem clockText_midnight : ClockText "00:00:00".toList ⟨0, 0, 0⟩ := by
  have hzero : ∀ most, FieldText 2 0 most ['0', '0'] 0 := fun most =>
    ⟨List.all_eq_true.1 rfl, rfl, rfl, Nat.zero_le _, Nat.zero_le _⟩
  exact .mk (hzero 23) (hzero 59) (hzero 60)

/-- The fields of a literal, which may be a date that does not exist. -/
def readFields (today : Date) (cs : List Char) : Except TimeLiteralFault (Date × Clock) :=
  if hasShape "9999-99-99_99:99:99" cs then
    (FieldReader.dateAndClock.run' cs).mapError .malformed
  else if hasShape "99:99:99" cs then
    ((FieldReader.clockOn today).run' cs).mapError .malformed
  else if hasShape "9999-99-99" cs then
    (FieldReader.dateAndClock.run' (cs ++ "_00:00:00".toList)).mapError .malformed
  else .error .unknownFormat

/-- A local time is read from the fields of a literal, and then its date must exist. -/
theorem readLocalTime_eq (today : Date) (input : String) :
    readLocalTime today input = readFields today input.toList >>= fun (d, c) =>
      if d.isValid then .ok (d, c) else .error (.malformed .outOfRange) := by
  unfold readLocalTime
  dsimp only
  rw [← readFields]
  cases readFields today input.toList with
  | error e => rfl
  | ok fields => rfl

/-- The fields are those of the local time that a literal is the text of. -/
theorem readFields_eq_ok_iff {today d : Date} {c : Clock} {cs : List Char} :
    readFields today cs = .ok (d, c) ↔ LocalTimeText today cs d c := by
  unfold readFields
  constructor
  · intro h
    split at h
    · rename_i hfull
      rw [mapError_eq_ok_iff,
        FieldReader.run_dateAndClock_eq_ok_iff (length_of_hasShape hfull)] at h
      obtain ⟨ds, ts, rfl, hdate, hclock⟩ := h
      exact .full hdate hclock
    · split at h
      · rename_i hshape
        rw [mapError_eq_ok_iff, FieldReader.run_clockOn_eq_ok_iff (length_of_hasShape hshape)] at h
        obtain ⟨rfl, hclock⟩ := h
        exact .clock hclock
      · split at h
        · rename_i hshape
          have hlength : cs.length = 10 := length_of_hasShape hshape
          rw [mapError_eq_ok_iff, FieldReader.run_dateAndClock_eq_ok_iff (by
            rw [List.length_append, hlength]
            rfl)] at h
          obtain ⟨ds, ts, htext, hdate, hclock⟩ := h
          -- the clock time that was read is the midnight that was put behind the date
          obtain ⟨rfl, hmidnight⟩ := List.append_inj htext (hlength.trans hdate.length_eq.symm)
          obtain rfl := hclock.eq_midnight (List.cons.inj hmidnight).2.symm
          exact .date hdate
        · exact absurd h nofun
  · -- the shapes differ in length, so no literal has two of them
    have hother : ∀ {shape : String}, cs.length ≠ shape.toList.length →
        ¬ hasShape shape cs = true := fun hne h => hne (length_of_hasShape h)
    intro h
    cases h with
    | @full ds ts _ _ hdate hclock =>
      have hshape : hasShape "9999-99-99_99:99:99" (ds ++ '_' :: ts) = true :=
        hasShape_eq_true_iff.2 (hdate.fits.append (.cons (by decide) hclock.fits))
      rw [if_pos hshape, mapError_eq_ok_iff,
        FieldReader.run_dateAndClock_eq_ok_iff (length_of_hasShape hshape)]
      exact ⟨ds, ts, rfl, hdate, hclock⟩
    | clock hclock =>
      have hlength := hclock.length_eq
      rw [if_neg (hother (by rw [hlength]; decide)),
        if_pos (hasShape_eq_true_iff.2 hclock.fits), mapError_eq_ok_iff,
        FieldReader.run_clockOn_eq_ok_iff hlength]
      exact ⟨rfl, hclock⟩
    | date hdate =>
      have hlength := hdate.length_eq
      rw [if_neg (hother (by rw [hlength]; decide)), if_neg (hother (by rw [hlength]; decide)),
        if_pos (hasShape_eq_true_iff.2 hdate.fits), mapError_eq_ok_iff,
        FieldReader.run_dateAndClock_eq_ok_iff (by rw [List.length_append, hlength]; rfl)]
      exact ⟨cs, _, rfl, hdate, clockText_midnight⟩

/-- A literal is read as a local time just if it is the text of it and the date exists. -/
theorem readLocalTime_eq_ok_iff {today d : Date} {c : Clock} {input : String} :
    readLocalTime today input = .ok (d, c) ↔
      LocalTimeText today input.toList d c ∧ d.isValid = true := by
  rw [readLocalTime_eq, bind_eq_ok_iff, ← readFields_eq_ok_iff]
  constructor
  · rintro ⟨⟨d', c'⟩, hfields, hvalid⟩
    dsimp only at hvalid
    split at hvalid
    · rename_i hexists
      obtain ⟨rfl, rfl⟩ := Prod.mk.inj (Except.ok.inj hvalid)
      exact ⟨hfields, hexists⟩
    · exact absurd hvalid nofun
  · rintro ⟨hfields, hvalid⟩
    exact ⟨(d, c), hfields, if_pos hvalid⟩

/-- A literal is read as an instant just if the zone has one for its local time. -/
theorem readTime_eq_ok_iff {zone : Zone} {today : Date} {input : String} {t : Instant} :
    readTime zone today input = .ok t ↔
      ∃ d c, LocalTimeText today input.toList d c ∧ d.isValid = true ∧
        zone.resolve (localSeconds d c) = some t.seconds ∧ t.leap = c.isLeap := by
  unfold readTime
  split
  · rename_i fault hfault
    refine ⟨nofun, fun ⟨d, c, htext, hvalid, _⟩ => ?_⟩
    exact absurd (hfault.symm.trans (readLocalTime_eq_ok_iff.2 ⟨htext, hvalid⟩)) nofun
  · rename_i d c hread
    obtain ⟨htext, hvalid⟩ := readLocalTime_eq_ok_iff.1 hread
    constructor
    · intro h
      split at h
      · rename_i seconds hresolve
        obtain rfl := Except.ok.inj h
        exact ⟨d, c, htext, hvalid, hresolve, rfl⟩
      · exact absurd h nofun
    · rintro ⟨d', c', htext', hvalid', hresolve, hleap⟩
      have hsame := hread.symm.trans (readLocalTime_eq_ok_iff.2 ⟨htext', hvalid'⟩)
      obtain ⟨rfl, rfl⟩ := Prod.mk.inj (Except.ok.inj hsame)
      rw [hresolve, ← hleap]

end BackupControl
