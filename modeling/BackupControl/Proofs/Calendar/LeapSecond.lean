/-
# Leap seconds that show

A leap second is typed as the sixtieth second of a local minute.  Where the offsets of the zone
are whole minutes it is the last second of a minute in universal time too, so its text shows it.
-/
import BackupControl.Proofs.Calendar.InstantText
import BackupControl.Proofs.Calendar.TimeLiteral

namespace BackupControl

/-! ## Zones -/

/-- The offsets under which a local time is shown. -/
def LocalReading.offsets : LocalReading → List Int
  | .once offset => [offset]
  | .skipped => []
  | .twice earlier later => [earlier, later]

namespace Zone

/-- Every offset of the zone is a whole number of minutes. -/
structure KeepsMinutes (z : Zone) : Prop where
  base : z.base % 60 = 0
  changes : ∀ change ∈ z.changes, change.offset % 60 = 0

/-- A local time is shown under the offsets of the zone only. -/
theorem offsets_readFrom {p : Int → Prop} (n : Int) {changes : List OffsetChange} :
    ∀ {offset : Int}, p offset → (∀ change ∈ changes, p change.offset) →
      ∀ o ∈ (readFrom offset n changes).offsets, p o := by
  induction changes with
  | nil =>
    intro offset hoffset _ o ho
    rwa [List.mem_singleton.1 ho]
  | cons change rest ih =>
    intro offset hoffset hchanges
    obtain ⟨hchange, hrest⟩ := List.forall_mem_cons.1 hchanges
    have hlater := ih hchange hrest
    unfold readFrom
    dsimp only
    split_ifs
    all_goals first
      | exact hlater
      | simp [LocalReading.offsets, hoffset, hchange]

/-- In a zone of whole minutes an instant is as far into its minute as its local time. -/
theorem KeepsMinutes.resolve {z : Zone} (h : z.KeepsMinutes) {n seconds : Int}
    (hresolve : z.resolve n = some seconds) : seconds % 60 = n % 60 := by
  have hoffset : ∀ {n offset : Int}, z.earliestOffset? n = some offset → offset % 60 = 0 := by
    intro n offset hearliest
    have hall := offsets_readFrom (p := (· % 60 = 0)) n h.base h.changes
    unfold earliestOffset? read at hearliest
    split at hearliest
    · rename_i hread
      rw [hread] at hall
      exact hall _ (by rw [Option.some.inj hearliest]; exact List.mem_cons_self)
    · rename_i hread
      rw [hread] at hall
      exact hall _ (by rw [Option.some.inj hearliest]; exact List.mem_cons_self)
    · exact absurd hearliest nofun
  unfold Zone.resolve at hresolve
  split at hresolve
  · rename_i offset hearliest
    have hwhole := hoffset hearliest
    have hseconds := Option.some.inj hresolve
    omega
  · obtain ⟨offset, hearliest, hseconds⟩ := Option.map_eq_some_iff.1 hresolve
    have hwhole := hoffset hearliest
    omega

end Zone

/-! ## Literals -/

/-- A leap second on a clock is the last whole second of its minute. -/
theorem localSeconds_of_isLeap {d : Date} {c : Clock} (h : c.isLeap = true) :
    localSeconds d c % 60 = 59 := by
  have hsecond : c.second = 60 := of_decide_eq_true h
  have hday : (c.secondOfDay : Int) % 60 = 59 := by
    rw [Clock.secondOfDay, hsecond]
    omega
  unfold localSeconds
  omega

/-- In a zone of whole minutes every instant that is read shows itself. -/
theorem shown_of_readTime {zone : Zone} {today : Date} {input : String} {t : Instant}
    (hzone : zone.KeepsMinutes) (h : readTime zone today input = .ok t) : t.shown = t := by
  obtain ⟨d, c, -, -, hresolve, hleap⟩ := readTime_eq_ok_iff.1 h
  rcases t.shown_cases with ⟨hsame, -⟩ | ⟨hmeant, hinner, -⟩
  · exact hsame
  · rw [hleap] at hmeant
    have hminute := hzone.resolve hresolve
    rw [localSeconds_of_isLeap hmeant] at hminute
    exact absurd hminute hinner

end BackupControl
