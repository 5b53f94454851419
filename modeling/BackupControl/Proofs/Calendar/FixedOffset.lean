/-
# Literals in a zone of one offset

Where the offset never changes no local time is skipped or repeated, so a literal denotes the
local time that it spells, less the offset.  Each second of the local calendar has one full
literal.

Main statement: `literals_denote_local_times`.
-/
import BackupControl.Proofs.Calendar.LiteralText

namespace BackupControl

/-! ## Zones of one offset -/

/-- The zone has one offset at all times. -/
structure Zone.KeepsOffset (z : Zone) (offset : Int) : Prop where
  base : z.base = offset
  changes : ∀ change ∈ z.changes, change.offset = offset

/-- A change that keeps the offset skips no local time. -/
theorem Zone.readFrom_of_same {offset : Int} (n : Int) {changes : List OffsetChange}
    (h : ∀ change ∈ changes, change.offset = offset) :
    readFrom offset n changes = .once offset ∨ readFrom offset n changes = .twice offset offset := by
  induction changes with
  | nil => exact .inl rfl
  | cons change rest ih =>
    obtain ⟨hchange, hrest⟩ := List.forall_mem_cons.1 h
    unfold readFrom
    rw [hchange]
    dsimp only
    rw [if_neg (Int.lt_irrefl _)]
    split_ifs
    · exact .inl rfl
    · exact .inr rfl
    · exact ih hrest

/-- Where the offset never changes, an instant is its local time less the offset. -/
theorem Zone.KeepsOffset.resolve {z : Zone} {offset : Int} (h : z.KeepsOffset offset) (n : Int) :
    z.resolve n = some (n - offset) := by
  have hearliest : z.earliestOffset? n = some offset := by
    unfold earliestOffset? read
    rw [h.base]
    rcases readFrom_of_same n h.changes with hread | hread <;> rw [hread]
  rw [Zone.resolve, hearliest]

/-! ## Local seconds -/

/-- The text of a second of the local calendar, counted from 1970, as a full literal. -/
def localText (n : Int) : String :=
  (Instant.mk n false).date.text ++ "_" ++ (Instant.mk n false).clock.text

/-- A clock shows no leap second unless one is meant. -/
theorem Instant.clock_bounds (n : Int) :
    (Instant.mk n false).clock.hour ≤ 23 ∧ (Instant.mk n false).clock.minute ≤ 59 ∧
      (Instant.mk n false).clock.second ≤ 59 := by
  have hzero : (if false = true then 1 else 0) = 0 := rfl
  unfold Instant.clock
  dsimp only
  rw [hzero]
  omega

/-- The date and the clock of a second are those of the second. -/
theorem localSeconds_date_clock (n : Int) :
    localSeconds (Instant.mk n false).date (Instant.mk n false).clock = n := by
  have hday : (Instant.mk n false).date.dayNumber = n / 86400 + Date.epochDay :=
    (Date.ofDayNumber_spec _).2
  have hclock : ((Instant.mk n false).clock.secondOfDay : Int) = n % 86400 := by
    have hzero : (if false = true then 1 else 0) = 0 := rfl
    unfold Instant.clock Clock.secondOfDay
    dsimp only
    rw [hzero]
    omega
  rw [localSeconds, hday, hclock]
  omega

/-- A clock time on the text of one is within the day. -/
theorem ClockText.bounds {cs : List Char} {c : Clock} (h : ClockText cs c) :
    c.hour ≤ 23 ∧ c.minute ≤ 59 ∧ c.second ≤ 60 := by
  obtain ⟨hhour, hminute, hsecond⟩ := h
  exact ⟨hhour.most, hminute.most, hsecond.most⟩

/-- A second of the calendar tells its date and its clock time. -/
theorem localSeconds_inj {d d' : Date} {c c' : Clock} (hd : d.isValid = true)
    (hd' : d'.isValid = true) (hc : c.hour ≤ 23 ∧ c.minute ≤ 59 ∧ c.second ≤ 60)
    (hc' : c'.hour ≤ 23 ∧ c'.minute ≤ 59 ∧ c'.second ≤ 60)
    (hseconds : localSeconds d c = localSeconds d' c') (hleap : c.isLeap = c'.isLeap) :
    d = d' ∧ c = c' := by
  obtain ⟨hour, minute, second⟩ := c
  obtain ⟨hour', minute', second'⟩ := c'
  dsimp only at hc hc'
  -- A leap second counts as the second before it, and only the mark tells the two apart.
  have hsixty : second = 60 ↔ second' = 60 := by
    simpa only [Clock.isLeap, decide_eq_decide] using hleap
  unfold localSeconds Clock.secondOfDay at hseconds
  dsimp only at hseconds
  constructor
  · exact Date.dayNumber_inj hd hd' (by omega)
  · rw [Clock.mk.injEq]
    omega

/-! ## Literals -/

/-- The local date and clock time that a literal spells, on a day of the local calendar: both of
them, a clock time of that day, or the midnight of a date. -/
inductive Denotes (today : Date) : List Char → Date → Clock → Prop where
  | full {ds cs : List Char} {d : Date} {c : Clock} (hdate : DateText ds d)
      (hexists : d.isValid = true) (hclock : ClockText cs c) : Denotes today (ds ++ '_' :: cs) d c
  | clock {cs : List Char} {c : Clock} (hclock : ClockText cs c) : Denotes today cs today c
  | date {ds : List Char} {d : Date} (hdate : DateText ds d) (hexists : d.isValid = true) :
      Denotes today ds d ⟨0, 0, 0⟩

/-- A literal spells a date and a clock time just if it is their text and the date exists. -/
theorem denotes_iff {today d : Date} {c : Clock} {cs : List Char} (htoday : today.isValid = true) :
    Denotes today cs d c ↔ LocalTimeText today cs d c ∧ d.isValid = true := by
  constructor
  · intro h
    cases h with
    | full hdate hexists hclock => exact ⟨.full hdate hclock, hexists⟩
    | clock hclock => exact ⟨.clock hclock, htoday⟩
    | date hdate hexists => exact ⟨.date hdate, hexists⟩
  · rintro ⟨h, hexists⟩
    cases h with
    | full hdate hclock => exact .full hdate hexists hclock
    | clock hclock => exact .clock hclock
    | date hdate => exact .date hdate hexists

/-- A text that has one of the shapes of a literal, with decimal digits of any script. -/
def HasTimeShape (cs : List Char) : Prop :=
  hasShape "9999-99-99_99:99:99" cs = true ∨ hasShape "99:99:99" cs = true ∨
    hasShape "9999-99-99" cs = true

/-- Fields are looked for just in a text of one of the shapes. -/
theorem readFields_eq_unknownFormat_iff {today : Date} {cs : List Char} :
    readFields today cs = .error .unknownFormat ↔ ¬ HasTimeShape cs := by
  have hmalformed : ∀ r : Except TimeFault (Date × Clock),
      r.mapError TimeLiteralFault.malformed ≠ .error .unknownFormat := by
    intro r h
    obtain ⟨fault, -, hfault⟩ := mapError_eq_error_iff.1 h
    exact absurd hfault nofun
  unfold readFields HasTimeShape
  split_ifs with hfull hclock hdate
  · exact iff_of_false (hmalformed _) (fun h => h (.inl hfull))
  · exact iff_of_false (hmalformed _) (fun h => h (.inr (.inl hclock)))
  · exact iff_of_false (hmalformed _) (fun h => h (.inr (.inr hdate)))
  · exact iff_of_true rfl (fun h => h.elim hfull (·.elim hclock hdate))

/-- A text without any of the shapes is the only one of an unknown format. -/
theorem readLocalTime_eq_unknownFormat_iff {today : Date} {input : String} :
    readLocalTime today input = .error .unknownFormat ↔ ¬ HasTimeShape input.toList := by
  rw [readLocalTime_eq, bind_eq_error_iff, readFields_eq_unknownFormat_iff]
  constructor
  · rintro (hshape | ⟨⟨d, c⟩, -, h⟩)
    · exact hshape
    · dsimp only at h
      split at h
      · exact absurd h nofun
      · exact absurd (Except.error.inj h) nofun
  · exact .inl

/-- A text is refused for its format just if it has none of the shapes. -/
theorem readTime_eq_unknownFormat_iff {zone : Zone} {today : Date} {input : String} :
    readTime zone today input = .error .unknownFormat ↔ ¬ HasTimeShape input.toList := by
  rw [← @readLocalTime_eq_unknownFormat_iff today]
  unfold readTime
  split
  · rename_i fault hfault
    rw [hfault, Except.error.injEq, Except.error.injEq]
  · rename_i d c hread
    rw [hread]
    split
    · exact iff_of_false nofun nofun
    · exact iff_of_false (fun h => absurd (Except.error.inj h) nofun) nofun

/-- The midnight of a date may be spelled out. -/
theorem readLocalTime_append_midnight {today : Date} {input : String}
    (h : hasShape "9999-99-99" input.toList = true) :
    readLocalTime today (input ++ "_00:00:00") = readLocalTime today input := by
  have hlength : input.toList.length = 10 := length_of_hasShape h
  -- Ten characters fill none of the other shapes.
  have hother : ∀ {shape : String}, input.toList.length ≠ shape.toList.length →
      ¬ hasShape shape input.toList = true := fun hne hshape => hne (length_of_hasShape hshape)
  have hmidnight : Fits "_99:99:99".toList "_00:00:00".toList :=
    .cons (by decide) clockText_midnight.fits
  have hfull : hasShape "9999-99-99_99:99:99" (input.toList ++ "_00:00:00".toList) = true :=
    hasShape_eq_true_iff.2 ((hasShape_eq_true_iff.1 h).append hmidnight)
  rw [readLocalTime_eq, readLocalTime_eq, String.toList_append, readFields, readFields,
    if_pos hfull, if_neg (hother (by rw [hlength]; decide)),
    if_neg (hother (by rw [hlength]; decide)), if_pos h]

/-! ## Reading -/

section Reading

variable {z : Zone} {offset : Int} {today : Date}

/-- A literal is read as the local time that it spells, less the offset. -/
theorem Zone.KeepsOffset.readTime_eq_ok_iff (hz : z.KeepsOffset offset)
    (htoday : today.isValid = true) {input : String} {t : Instant} :
    readTime z today input = .ok t ↔
      ∃ d c, Denotes today input.toList d c ∧ t = ⟨localSeconds d c - offset, c.isLeap⟩ := by
  rw [BackupControl.readTime_eq_ok_iff]
  simp only [denotes_iff htoday, hz.resolve, Option.some.injEq]
  constructor
  · rintro ⟨d, c, htext, hexists, hseconds, hleap⟩
    exact ⟨d, c, ⟨htext, hexists⟩, by rw [hseconds, ← hleap]⟩
  · rintro ⟨d, c, ⟨htext, hexists⟩, rfl⟩
    exact ⟨d, c, htext, hexists, rfl, rfl⟩

/-- The full literal of a second spells that second. -/
theorem denotes_localText {n : Int} (hleast : 0 ≤ (Instant.mk n false).date.year)
    (hmost : (Instant.mk n false).date.year ≤ 9999) :
    Denotes today (localText n).toList (Instant.mk n false).date (Instant.mk n false).clock := by
  have hunderscore : "_".toList = ['_'] := rfl
  have hexists : (Instant.mk n false).date.isValid = true := (Date.ofDayNumber_spec _).1
  obtain ⟨hhour, hminute, hsecond⟩ := Instant.clock_bounds n
  rw [localText, String.toList_append, String.toList_append, hunderscore, List.append_assoc]
  exact .full (dateText_text hexists hleast hmost) hexists
    (clockText_text hhour hminute (Nat.le_succ_of_le hsecond))

/-- A full literal spells its date and its clock time. -/
theorem Denotes.of_full {cs : List Char} {d : Date} {c : Clock} (h : Denotes today cs d c)
    (hshape : hasShape "9999-99-99_99:99:99" cs = true) :
    d.isValid = true ∧ (c.hour ≤ 23 ∧ c.minute ≤ 59 ∧ c.second ≤ 60) ∧
      cs = d.text.toList ++ '_' :: c.text.toList := by
  have hlength : cs.length = 19 := length_of_hasShape hshape
  cases h with
  | full hdate hexists hclock =>
    exact ⟨hexists, hclock.bounds, by rw [← hdate.eq_text, ← hclock.eq_text]⟩
  | clock hclock =>
    rw [hclock.length_eq] at hlength
    exact absurd hlength (by decide)
  | date hdate =>
    rw [hdate.length_eq] at hlength
    exact absurd hlength (by decide)

/-- Full literals of one instant are the same text. -/
theorem Zone.KeepsOffset.full_inj (hz : z.KeepsOffset offset) (htoday : today.isValid = true)
    {s s' : String} {t : Instant} (hs : hasShape "9999-99-99_99:99:99" s.toList = true)
    (hs' : hasShape "9999-99-99_99:99:99" s'.toList = true) (h : readTime z today s = .ok t)
    (h' : readTime z today s' = .ok t) : s = s' := by
  obtain ⟨d, c, hdenotes, rfl⟩ := (hz.readTime_eq_ok_iff htoday).1 h
  obtain ⟨d', c', hdenotes', hsame⟩ := (hz.readTime_eq_ok_iff htoday).1 h'
  obtain ⟨hexists, hbounds, htext⟩ := hdenotes.of_full hs
  obtain ⟨hexists', hbounds', htext'⟩ := hdenotes'.of_full hs'
  obtain ⟨hseconds, hleap⟩ := Instant.mk.inj hsame
  obtain ⟨rfl, rfl⟩ := localSeconds_inj hexists hexists' hbounds hbounds' (by omega) hleap
  exact String.toList_injective (htext.trans htext'.symm)

/-- In a zone of one offset, on a day of the calendar:

* the literals are the texts of a date and a clock time, of a clock time of the day, or of a date
  that means its midnight, where the date exists, and each is read as the local time that it
  spells, less the offset;
* the full literal of a second of the local calendar is read as that second less the offset;
* a date is read like the full literal of its midnight;
* full literals of one instant are the same text;
* a text is of an unknown format just if it has none of the shapes, and denotes no time just if it
  has one, with decimal digits of any script, and is no literal. -/
theorem literals_denote_local_times (hz : z.KeepsOffset offset) (htoday : today.isValid = true) :
    (∀ input t, readTime z today input = .ok t ↔
      ∃ d c, Denotes today input.toList d c ∧ t = ⟨localSeconds d c - offset, c.isLeap⟩) ∧
    (∀ n, 0 ≤ (Instant.mk n false).date.year → (Instant.mk n false).date.year ≤ 9999 →
      readTime z today (localText n) = .ok ⟨n - offset, false⟩) ∧
    (∀ input, hasShape "9999-99-99" input.toList = true →
      readTime z today (input ++ "_00:00:00") = readTime z today input) ∧
    (∀ s s' t, hasShape "9999-99-99_99:99:99" s.toList = true →
      hasShape "9999-99-99_99:99:99" s'.toList = true → readTime z today s = .ok t →
      readTime z today s' = .ok t → s = s') ∧
    (∀ input, readTime z today input = .error .unknownFormat ↔ ¬ HasTimeShape input.toList) ∧
    ∀ input, (∃ fault, readTime z today input = .error (.malformed fault)) ↔
      HasTimeShape input.toList ∧ ¬ ∃ d c, Denotes today input.toList d c := by
  refine ⟨fun input t => hz.readTime_eq_ok_iff htoday, fun n hleast hmost => ?_,
    fun input hshape => ?_, fun s s' t hs hs' => hz.full_inj htoday hs hs',
    fun input => readTime_eq_unknownFormat_iff, fun input => ?_⟩
  · refine (hz.readTime_eq_ok_iff htoday).2 ⟨_, _, denotes_localText hleast hmost, ?_⟩
    have hplain : (Instant.mk n false).clock.isLeap = false :=
      decide_eq_false (Nat.lt_succ_of_le (Instant.clock_bounds n).2.2).ne
    rw [localSeconds_date_clock, hplain]
  · unfold readTime
    rw [readLocalTime_append_midnight hshape]
  · have hshape : HasTimeShape input.toList ↔ readTime z today input ≠ .error .unknownFormat := by
      rw [ne_eq, readTime_eq_unknownFormat_iff, Classical.not_not]
    have hnone : (∃ d c, Denotes today input.toList d c) ↔ ∃ t, readTime z today input = .ok t := by
      simp only [hz.readTime_eq_ok_iff htoday]
      constructor
      · rintro ⟨d, c, h⟩
        exact ⟨_, d, c, h, rfl⟩
      · rintro ⟨_, d, c, h, -⟩
        exact ⟨d, c, h⟩
    rw [hshape, hnone]
    cases hread : readTime z today input with
    | ok t => exact iff_of_false nofun fun h => h.2 ⟨t, rfl⟩
    | error fault =>
      cases fault with
      | unknownFormat => exact iff_of_false nofun fun h => h.1 rfl
      | malformed fault => exact iff_of_true ⟨fault, rfl⟩ ⟨nofun, nofun⟩

/-- The literals of a leap day in a zone that is half an hour off the whole hours. -/
theorem literals_denote_local_times_of_leap_day :
    Zone.KeepsOffset ⟨19800, []⟩ 19800 ∧ (Date.mk 2024 1 1).isValid = true ∧
      readTime ⟨19800, []⟩ ⟨2024, 1, 1⟩ "2024-02-29" = .ok ⟨1709145000, false⟩ ∧
      readTime ⟨19800, []⟩ ⟨2024, 1, 1⟩ (localText 1709164800) = .ok ⟨1709145000, false⟩ := by
  have hzone : Zone.KeepsOffset ⟨19800, []⟩ 19800 := ⟨rfl, nofun⟩
  have htoday : (Date.mk 2024 1 1).isValid = true := by decide
  have htext : (Date.mk 2024 2 29).text = "2024-02-29" := by decide
  have hdate : DateText "2024-02-29".toList ⟨2024, 2, 29⟩ := by
    rw [← htext]
    exact dateText_text (by decide) (by decide) (by decide)
  obtain ⟨hdenotes, hfull, -⟩ := literals_denote_local_times hzone htoday
  exact ⟨hzone, htoday, (hdenotes _ _).2 ⟨_, _, .date hdate (by decide), by decide⟩,
    hfull 1709164800 (by decide) (by decide)⟩

/-- Digits of another script have the shape of a date and denote none. -/
example : readTime .universal ⟨2024, 1, 1⟩ "２０２４-01-01" =
    .error (.malformed .invalidCharacters) := by
  decide

end Reading

end BackupControl
