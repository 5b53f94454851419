/-
# Which file prefixes are safe

A prefix is accepted just if each of its characters may stand in a file name and neither end is
white space.  The characters are looked at from the left, so the ends matter only once all of
them are allowed.  A refusal has the class of the first character that is not allowed, and its
place in bytes of UTF-8.

Main statement: `checkFilePrefix_decides_and_places`.
-/
import BackupControl.Rules.FilePrefix
import Mathlib.Data.List.TakeWhile

namespace BackupControl

/-- A character that a file name may hold on every platform. -/
def AllowedInName (c : Char) : Prop := c ∉ reservedChars ∧ 32 ≤ c.toNat ∧ c.toNat ≠ 127

/-- A text that file names may begin with: each character is allowed, and neither the first nor
the last is white space. -/
structure SafePrefix (s : String) : Prop where
  allowed : ∀ c ∈ s.toList, AllowedInName c
  first : ∀ c ∈ s.toList.head?, isBlank c = false
  last : ∀ c ∈ s.toList.getLast?, isBlank c = false

/-- A character without an offence is allowed. -/
theorem offence?_eq_none_iff {c : Char} : offence? c = none ↔ AllowedInName c := by
  have hcontains : reservedChars.contains c = true ↔ c ∈ reservedChars := List.contains_iff_mem
  unfold offence? AllowedInName
  by_cases hreserved : c ∈ reservedChars
  · rw [if_pos (hcontains.2 hreserved)]
    exact ⟨nofun, fun h => absurd hreserved h.1⟩
  · rw [if_neg (mt hcontains.1 hreserved)]
    split_ifs with hcontrol hdelete
    · exact ⟨nofun, fun h => absurd h.2.1 (Nat.not_le.2 hcontrol)⟩
    · exact ⟨nofun, fun h => absurd hdelete h.2.2⟩
    · exact ⟨fun _ => ⟨hreserved, Nat.not_lt.1 hcontrol, hdelete⟩, fun _ => rfl⟩

/-- No character offends just if all of them are allowed. -/
theorem firstOffence?_eq_none_iff {position : Nat} {cs : List Char} :
    firstOffence? position cs = none ↔ ∀ c ∈ cs, AllowedInName c := by
  induction cs generalizing position with
  | nil => exact ⟨fun _ => nofun, fun _ => rfl⟩
  | cons c cs ih =>
    rw [List.forall_mem_cons, ← offence?_eq_none_iff]
    unfold firstOffence?
    cases hoffence : offence? c with
    | some o => exact ⟨nofun, fun h => absurd h.1 nofun⟩
    | none => exact ih.trans ⟨fun h => ⟨rfl, h⟩, (·.2)⟩

/-- Nothing is dropped from the front just if the first character stays. -/
theorem dropWhile_eq_self_iff_head? {p : Char → Bool} {cs : List Char} :
    cs.dropWhile p = cs ↔ ∀ c ∈ cs.head?, p c = false := by
  cases cs with
  | nil => exact ⟨fun _ => nofun, fun _ => rfl⟩
  | cons c cs =>
    rw [List.dropWhile_eq_self_iff]
    simp

/-- Trimming changes nothing just if neither end is white space. -/
theorem trimBlanks_eq_self_iff {cs : List Char} :
    trimBlanks cs = cs ↔
      (∀ c ∈ cs.head?, isBlank c = false) ∧ ∀ c ∈ cs.getLast?, isBlank c = false := by
  have hback : ∀ ds : List Char, (ds.reverse.dropWhile isBlank).reverse = ds ↔
      ∀ c ∈ ds.getLast?, isBlank c = false := by
    intro ds
    rw [List.reverse_eq_iff, dropWhile_eq_self_iff_head?, List.head?_reverse]
  unfold trimBlanks
  constructor
  · intro h
    -- both steps only drop characters, so neither of them drops any
    have hlength := congrArg List.length h
    have hinner : ((cs.dropWhile isBlank).reverse.dropWhile isBlank).length ≤
        (cs.dropWhile isBlank).length := by
      have hle := (List.dropWhile_sublist isBlank (l := (cs.dropWhile isBlank).reverse)).length_le
      rwa [List.length_reverse] at hle
    have hfront : cs.dropWhile isBlank = cs := by
      apply (List.dropWhile_sublist isBlank).eq_of_length_le
      rw [List.length_reverse] at hlength
      omega
    rw [hfront] at h
    exact ⟨dropWhile_eq_self_iff_head?.1 hfront, (hback cs).1 h⟩
  · rintro ⟨hfirst, hlast⟩
    rw [dropWhile_eq_self_iff_head?.2 hfirst]
    exact (hback cs).2 hlast

/-- The prefixes that are accepted are the safe ones. -/
theorem checkFilePrefix_eq_ok_iff {s : String} : checkFilePrefix s = .ok () ↔ SafePrefix s := by
  unfold checkFilePrefix
  cases hoffence : firstOffence? 0 s.toList with
  | some found =>
    refine ⟨nofun, fun h => ?_⟩
    rw [firstOffence?_eq_none_iff.2 h.allowed] at hoffence
    exact absurd hoffence nofun
  | none =>
    have hallowed := firstOffence?_eq_none_iff.1 hoffence
    dsimp only
    split
    · rename_i htrimmed
      obtain ⟨hfirst, hlast⟩ := trimBlanks_eq_self_iff.1 htrimmed
      exact ⟨fun _ => ⟨hallowed, hfirst, hlast⟩, fun _ => rfl⟩
    · rename_i htrimmed
      refine ⟨nofun, fun h => ?_⟩
      exact absurd (trimBlanks_eq_self_iff.2 ⟨h.first, h.last⟩) htrimmed

/-! ## Classes of characters -/

/-- The characters of the property White_Space. -/
def whiteSpace : List Char := [
  '\t', '\n', '\x0b', '\x0c', '\r', ' ', '\u0085', '\u00a0', '\u1680', '\u2000', '\u2001',
  '\u2002', '\u2003', '\u2004', '\u2005', '\u2006', '\u2007', '\u2008', '\u2009', '\u200a',
  '\u2028', '\u2029', '\u202f', '\u205f', '\u3000']

/-- The ranges of white space hold its characters and no others. -/
theorem isBlank_eq_true_iff {c : Char} : isBlank c = true ↔ c ∈ whiteSpace := by
  have hcode : c ∈ whiteSpace ↔ c.toNat ∈ whiteSpace.map Char.toNat := by
    constructor
    · exact List.mem_map_of_mem
    · intro h
      obtain ⟨d, hd, hcode⟩ := List.mem_map.1 h
      rwa [← Char.toNat_inj.1 hcode]
  have hcodes : whiteSpace.map Char.toNat = [0x9, 0xa, 0xb, 0xc, 0xd, 0x20, 0x85, 0xa0, 0x1680,
      0x2000, 0x2001, 0x2002, 0x2003, 0x2004, 0x2005, 0x2006, 0x2007, 0x2008, 0x2009, 0x200a,
      0x2028, 0x2029, 0x202f, 0x205f, 0x3000] := by decide
  rw [hcode, hcodes]
  simp only [isBlank, inRanges, blankRanges, List.any_cons, List.any_nil, Bool.or_eq_true,
    Bool.and_eq_true, decide_eq_true_eq, Bool.false_eq_true, List.mem_cons, List.not_mem_nil,
    or_false]
  omega

/-- The characters of a class of offences: those that separate or match names, those below the
space, and DEL. -/
def Offence.Covers (o : Offence) (c : Char) : Prop :=
  match o with
  | .reserved => c ∈ ['\\', '/', ':', '*', '?', '"', '<', '>', '|']
  | .control => c.toNat < 0x20
  | .delete => c.toNat = 0x7f

/-- The characters that separate or match names are neither control characters nor DEL. -/
theorem printable_of_mem_reservedChars {c : Char} (h : c ∈ reservedChars) :
    32 ≤ c.toNat ∧ c.toNat ≠ 127 := by
  simp only [reservedChars, List.mem_cons, List.not_mem_nil, or_false] at h
  rcases h with rfl | rfl | rfl | rfl | rfl | rfl | rfl | rfl | rfl <;> decide

/-- A character has the offence of the one class that covers it. -/
theorem offence?_eq_some_iff {c : Char} {o : Offence} : offence? c = some o ↔ o.Covers c := by
  have hcontains : reservedChars.contains c = true ↔ c ∈ reservedChars := List.contains_iff_mem
  constructor
  · intro h
    unfold offence? at h
    split_ifs at h with hreserved hcontrol hdelete
    · obtain rfl := Option.some.inj h
      exact hcontains.1 hreserved
    · obtain rfl := Option.some.inj h
      exact hcontrol
    · obtain rfl := Option.some.inj h
      exact hdelete
  · intro h
    unfold offence?
    cases o with
    | reserved => exact if_pos (hcontains.2 h)
    | control =>
      have hcontrol : c.toNat < 32 := h
      have hfree : c ∉ reservedChars := fun hmem =>
        absurd (printable_of_mem_reservedChars hmem).1 (Nat.not_le.2 hcontrol)
      rw [if_neg (mt hcontains.1 hfree), if_pos hcontrol]
    | delete =>
      have hdelete : c.toNat = 127 := h
      have hfree : c ∉ reservedChars := fun hmem => (printable_of_mem_reservedChars hmem).2 hdelete
      rw [if_neg (mt hcontains.1 hfree), if_neg (by omega), if_pos hdelete]

/-- A character is allowed just if no class covers it. -/
theorem allowedInName_iff {c : Char} : AllowedInName c ↔ ∀ o : Offence, ¬ o.Covers c := by
  rw [← offence?_eq_none_iff, Option.eq_none_iff_forall_ne_some]
  exact forall_congr' fun o => not_congr offence?_eq_some_iff

/-! ## The first offender -/

/-- The first character of a list that is not allowed is found, and the bytes of what stands before
it are added to the position. -/
theorem firstOffence?_eq_some_iff {position place : Nat} {cs : List Char} {o : Offence} {c : Char} :
    firstOffence? position cs = some (o, c, place) ↔
      ∃ before after, cs = before ++ c :: after ∧ (∀ b ∈ before, AllowedInName b) ∧ o.Covers c ∧
        place = position + (String.ofList before).utf8ByteSize := by
  -- the position moves on with the list
  induction cs generalizing position with
  | nil => exact ⟨nofun, fun ⟨_, _, h, _⟩ => absurd h.symm (by simp)⟩
  | cons d cs ih =>
    rw [firstOffence?]
    cases hoffence : offence? d with
    | some o' =>
      have hd : ¬ AllowedInName d := fun hallowed =>
        absurd (hoffence.symm.trans (offence?_eq_none_iff.2 hallowed)) nofun
      constructor
      · intro h
        obtain ⟨rfl, rfl, rfl⟩ := by simpa only [Option.some.injEq, Prod.mk.injEq] using h
        exact ⟨[], cs, rfl, nofun, offence?_eq_some_iff.1 hoffence, rfl⟩
      · rintro ⟨before, after, hcs, hbefore, hcovers, rfl⟩
        cases before with
        | nil =>
          obtain ⟨rfl, -⟩ := List.cons.inj hcs
          rw [offence?_eq_some_iff.2 hcovers] at hoffence
          obtain rfl := Option.some.inj hoffence
          rfl
        | cons b before =>
          obtain ⟨rfl, -⟩ := List.cons.inj hcs
          exact absurd (hbefore d List.mem_cons_self) hd
    | none =>
      have hd := offence?_eq_none_iff.1 hoffence
      have hbytes (before : List Char) : (String.ofList (d :: before)).utf8ByteSize =
          d.utf8Size + (String.ofList before).utf8ByteSize := by
        rw [String.ofList_cons, String.utf8ByteSize_append, String.utf8ByteSize_singleton]
      refine ih.trans ⟨?_, ?_⟩
      · rintro ⟨before, after, rfl, hbefore, hcovers, rfl⟩
        refine ⟨d :: before, after, rfl, List.forall_mem_cons.2 ⟨hd, hbefore⟩, hcovers, ?_⟩
        rw [hbytes, Nat.add_assoc]
      · rintro ⟨before, after, hcs, hbefore, hcovers, rfl⟩
        cases before with
        | nil =>
          obtain ⟨rfl, -⟩ := List.cons.inj hcs
          exact absurd hcovers (allowedInName_iff.1 hd o)
        | cons b before =>
          obtain ⟨rfl, rfl⟩ := List.cons.inj hcs
          refine ⟨before, after, rfl, (List.forall_mem_cons.1 hbefore).2, hcovers, ?_⟩
          rw [hbytes, Nat.add_assoc]

/-- The first character of a text that is not allowed, with its class and the number of bytes of
the text before it. -/
def OffendsFirst (s : String) (o : Offence) (c : Char) (position : Nat) : Prop :=
  ∃ before after : String, s = before ++ c.toString ++ after ∧
    (∀ b ∈ before.toList, ∀ o : Offence, ¬ o.Covers b) ∧ o.Covers c ∧
      position = before.utf8ByteSize

/-- The offence that is found in a text is its first. -/
theorem firstOffence?_zero_eq_some_iff {s : String} {o : Offence} {c : Char} {position : Nat} :
    firstOffence? 0 s.toList = some (o, c, position) ↔ OffendsFirst s o c position := by
  simp only [firstOffence?_eq_some_iff, allowedInName_iff]
  constructor
  · rintro ⟨before, after, hs, hbefore, hcovers, rfl⟩
    refine ⟨String.ofList before, String.ofList after, ?_, ?_, hcovers, Nat.zero_add _⟩
    · rw [← String.toList_inj, hs]
      simp [Char.toString]
    · rwa [String.toList_ofList]
  · rintro ⟨before, after, rfl, hbefore, hcovers, rfl⟩
    refine ⟨before.toList, after.toList, ?_, hbefore, hcovers, ?_⟩
    · simp [Char.toString]
    · rw [String.ofList_toList, Nat.zero_add]

/-! ## Refusals -/

/-- A refusal for a character names the first that is not allowed. -/
theorem checkFilePrefix_eq_offence_iff {s whole : String} {o : Offence} {c : Char}
    {position : Nat} :
    checkFilePrefix s = .error (.offence o c position whole) ↔
      whole = s ∧ OffendsFirst s o c position := by
  rw [← firstOffence?_zero_eq_some_iff, checkFilePrefix]
  cases hfound : firstOffence? 0 s.toList with
  | some found =>
    obtain ⟨o', c', position'⟩ := found
    simp only [Except.error.injEq, PrefixFault.offence.injEq, Option.some.injEq, Prod.mk.injEq]
    constructor
    · rintro ⟨rfl, rfl, rfl, rfl⟩
      exact ⟨rfl, rfl, rfl, rfl⟩
    · rintro ⟨rfl, rfl, rfl, rfl⟩
      exact ⟨rfl, rfl, rfl, rfl⟩
  | none =>
    refine ⟨fun h => ?_, fun h => absurd h.2 nofun⟩
    dsimp only at h
    split at h <;> exact absurd h nofun

/-- A text is refused for its ends just if all of its characters are allowed, but it is not
safe. -/
theorem checkFilePrefix_eq_outerBlank_iff {s whole : String} :
    checkFilePrefix s = .error (.outerBlank whole) ↔
      whole = s ∧ (∀ c ∈ s.toList, AllowedInName c) ∧ ¬ SafePrefix s := by
  rw [← @firstOffence?_eq_none_iff 0, ← checkFilePrefix_eq_ok_iff, checkFilePrefix]
  cases hfound : firstOffence? 0 s.toList with
  | some found => exact ⟨fun h => absurd h nofun, fun h => absurd h.2.1 nofun⟩
  | none =>
    dsimp only
    split
    · exact ⟨fun h => absurd h nofun, fun h => absurd rfl h.2.2⟩
    · exact ⟨fun h => ⟨(PrefixFault.outerBlank.inj (Except.error.inj h)).symm, rfl, nofun⟩,
        fun h => by rw [h.1]⟩

/-! ## Prefixes one after another -/

/-- Two safe prefixes, one after the other, are a safe prefix. -/
theorem SafePrefix.append {s t : String} (hs : SafePrefix s) (ht : SafePrefix t) :
    SafePrefix (s ++ t) where
  allowed c hc := by
    rw [String.toList_append] at hc
    exact (List.mem_append.1 hc).elim (hs.allowed c) (ht.allowed c)
  first c hc := by
    rw [String.toList_append, List.head?_append] at hc
    cases hhead : s.toList.head? with
    | some d =>
      rw [hhead] at hc
      exact hs.first c (hhead ▸ hc)
    | none =>
      rw [hhead] at hc
      exact ht.first c hc
  last c hc := by
    rw [String.toList_append, List.getLast?_append] at hc
    cases hlast : t.toList.getLast? with
    | some d =>
      rw [hlast] at hc
      exact ht.last c (hlast ▸ hc)
    | none =>
      rw [hlast] at hc
      exact hs.last c hc

/-- **The check of file prefixes decides which are safe, and says where one is not.**

* A text is accepted just if none of its characters belongs to a class of offences and neither its
  first nor its last character is white space.
* It is refused for a character just if that is the first one that a class covers; the refusal has
  this class, and as its position the length of the text before it in bytes of UTF-8.
* It is refused for its ends just if no character is covered, but it begins or ends with white
  space.
* One accepted text after another is accepted. -/
theorem checkFilePrefix_decides_and_places :
    (∀ s, checkFilePrefix s = .ok () ↔
      (∀ c ∈ s.toList, ∀ o : Offence, ¬ o.Covers c) ∧
        (∀ c ∈ s.toList.head?, c ∉ whiteSpace) ∧ ∀ c ∈ s.toList.getLast?, c ∉ whiteSpace) ∧
    (∀ s o c position whole, checkFilePrefix s = .error (.offence o c position whole) ↔
      whole = s ∧ OffendsFirst s o c position) ∧
    (∀ s whole, checkFilePrefix s = .error (.outerBlank whole) ↔
      whole = s ∧ (∀ c ∈ s.toList, ∀ o : Offence, ¬ o.Covers c) ∧
        ((∃ c ∈ s.toList.head?, c ∈ whiteSpace) ∨ ∃ c ∈ s.toList.getLast?, c ∈ whiteSpace)) ∧
    ∀ s t, checkFilePrefix s = .ok () → checkFilePrefix t = .ok () →
      checkFilePrefix (s ++ t) = .ok () := by
  have hsafe (s : String) : SafePrefix s ↔ (∀ c ∈ s.toList, ∀ o : Offence, ¬ o.Covers c) ∧
      (∀ c ∈ s.toList.head?, c ∉ whiteSpace) ∧ ∀ c ∈ s.toList.getLast?, c ∉ whiteSpace := by
    simp only [← isBlank_eq_true_iff, ← allowedInName_iff, Bool.not_eq_true]
    exact ⟨fun h => ⟨h.allowed, h.first, h.last⟩, fun h => ⟨h.1, h.2.1, h.2.2⟩⟩
  refine ⟨fun s => ?_, fun _ _ _ _ _ => checkFilePrefix_eq_offence_iff, fun s whole => ?_,
    fun s t hs ht => ?_⟩
  · rw [checkFilePrefix_eq_ok_iff, hsafe]
  · rw [checkFilePrefix_eq_outerBlank_iff, hsafe]
    simp only [allowedInName_iff]
    refine and_congr_right fun _ => and_congr_right fun hcovers => ?_
    rw [not_and_or, not_and_or, or_iff_right (not_not_intro hcovers)]
    simp only [not_forall, Classical.not_not, exists_prop]
  · rw [checkFilePrefix_eq_ok_iff] at hs ht ⊢
    exact hs.append ht

/-- The colon is the first offender, after three bytes of two characters; the white space at the
front does not count beside it. -/
example : checkFilePrefix " é:\n" = .error (.offence .reserved ':' 3 " é:\n") := by decide

end BackupControl
