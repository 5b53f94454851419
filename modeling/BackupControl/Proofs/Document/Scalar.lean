/-
# Scalars of a document

What a scalar of a document says about an option, whether its type is fixed or it is read from
how it is written.  A value of an option comes back from every scalar that spells it; in the
other direction, an option that counts takes no number beyond the range of its kind.
-/
import BackupControl.Options.OfDocument

namespace BackupControl

/-! ## Types of plain scalars -/

/-- What the text of a plain scalar with this type is. -/
def Scalar.WrittenAs (v : Scalar) (s : String) : Prop :=
  match v with
  | .null => True
  | .bool b => boolWord? s = some b
  | .int n =>
    (∃ m, naturalNumber? s.toList = some m ∧ m < twoTo 64 ∧ n = m) ∨
      naturalNumber? s.toList = none ∧ negatedNumber? s.toList = some n ∧ -(twoTo 63 : Int) ≤ n
  | .real x => fraction? s = some x
  | .text t => t = s

/-- The type of a scalar that is no whole number, null or truth value. -/
def fractionOrText (s : String) : Scalar :=
  if isZeroPadded s.toList then .text s
  else match fraction? s with
    | some x => .real x
    | none => .text s

/-- A fraction is written as one, and any other text is itself. -/
theorem fractionOrText_writtenAs (s : String) : (fractionOrText s).WrittenAs s := by
  rw [fractionOrText]
  split
  · rfl
  split
  · assumption
  · rfl

/-- A plain scalar is written as its type asks, and is no word for null unless it is null. -/
theorem writtenAs_of_plainScalar? {s : String} {v : Scalar} (h : plainScalar? s = some v)
    (hv : v ≠ .null) : v.WrittenAs s ∧ (s.isEmpty || isNullWord s) = false := by
  -- the last resort of the reader, also for whole numbers that are too large for it
  have hrest := fractionOrText_writtenAs s
  rw [plainScalar?] at h
  split at h
  · cases h
    exact absurd rfl hv
  rename_i hnull
  refine ⟨?_, Bool.eq_false_iff.2 hnull⟩
  split at h
  · rename_i b hbool
    cases h
    exact hbool
  rw [fractionOrText] at hrest
  generalize (if isZeroPadded s.toList then Scalar.text s else _) = rest at h hrest
  dsimp only at h
  cases hm : naturalNumber? s.toList with
  | some m =>
    rw [hm] at h
    dsimp only at h
    split at h
    · rename_i hlt
      cases h
      exact .inl ⟨m, hm, hlt, rfl⟩
    split at h
    · cases h
    · exact Option.some.inj h ▸ hrest
  | none =>
    rw [hm] at h
    cases hn : negatedNumber? s.toList with
    | some n =>
      rw [hn] at h
      dsimp only at h
      split at h
      · rename_i hle
        cases h
        exact .inr ⟨hm, hn, hle⟩
      split at h
      · cases h
      · exact Option.some.inj h ▸ hrest
    | none =>
      rw [hn] at h
      exact Option.some.inj h ▸ hrest

/-- A number that is read after a minus sign begins with one and is not positive. -/
theorem of_negatedNumber? {cs : List Char} {n : Int} (h : negatedNumber? cs = some n) :
    cs.head? = some '-' ∧ n ≤ 0 := by
  unfold negatedNumber? at h
  split at h
  · cases h
  split at h
  · obtain ⟨m, hm, rfl⟩ := Option.map_eq_some_iff.1 h
    obtain ⟨magnitude, -, hmagnitude⟩ := Option.bind_eq_some_iff.1 hm
    cases hmagnitude
    exact ⟨rfl, Int.neg_nonpos_of_nonneg (Int.natCast_nonneg magnitude)⟩
  · cases h

/-! ## Numbers of a kind -/

namespace Kind

/-- A value of an option as a scalar. -/
def scalar : (k : Kind) → k.Value → Scalar
  | .text, s => .text s
  | .list, s => .text s
  | .switch, b => .bool b
  | .word16, n => .int n.toNat
  | .word32, n => .int n.toNat
  | .word64, n => .int n.toNat
  | .size, n => .int n.toNat
  | .int32, n => .int n.toInt
  | .int64, n => .int n.toInt
  | .real, x => .real x

/-- A value of an option is not null. -/
theorem scalar_ne_null (k : Kind) (v : k.Value) : k.scalar v ≠ .null := by
  cases k <;> simp only [scalar, ne_eq, reduceCtorEq, not_false_eq_true]

/-- A whole number is of a kind just if it is in the range of the kind. -/
theorem isSome_ofInt?_iff {k : Kind} {below above : Nat} (h : k.range? = some (below, above))
    (n : Int) : (k.ofInt? n).isSome = true ↔ -(below : Int) ≤ n ∧ n ≤ above := by
  have h16 : twoTo 16 = 65536 := by decide
  have h31 : twoTo 31 = 2147483648 := by decide
  have h32 : twoTo 32 = 4294967296 := by decide
  have h63 : twoTo 63 = 9223372036854775808 := by decide
  have h64 : twoTo 64 = 18446744073709551616 := by decide
  cases k <;>
    simp only [range?, reduceCtorEq, Option.some.injEq, Prod.mk.injEq] at h <;>
    obtain ⟨rfl, rfl⟩ := h <;>
    simp only [ofInt?, Option.isSome_ite] <;>
    omega

/-- The whole number that a value stands for is read as that value. -/
theorem ofInt?_of_scalar {k : Kind} {v : k.Value} {n : Int} (h : k.scalar v = .int n) :
    k.ofInt? n = some v := by
  have h16 : twoTo 16 = 2 ^ 16 := rfl
  have h31 : twoTo 31 = 2 ^ 31 := rfl
  have h32 : twoTo 32 = 2 ^ 32 := rfl
  have h63 : twoTo 63 = 2 ^ 63 := rfl
  have h64 : twoTo 64 = 2 ^ 64 := rfl
  cases k with
  | text | list | switch | real => cases h
  | word16 =>
    cases h
    have hlt := UInt16.toNat_lt v
    rw [ofInt?, if_pos (by omega), Int.toNat_natCast, UInt16.ofNat_toNat]
  | word32 =>
    cases h
    have hlt := UInt32.toNat_lt v
    rw [ofInt?, if_pos (by omega), Int.toNat_natCast, UInt32.ofNat_toNat]
  | word64 | size =>
    cases h
    have hlt := UInt64.toNat_lt v
    rw [ofInt?, if_pos (by omega), Int.toNat_natCast, UInt64.ofNat_toNat]
  | int32 =>
    cases h
    have hle := Int32.le_toInt v
    have hlt := Int32.toInt_lt v
    rw [ofInt?, if_pos (by omega), Int32.ofInt_toInt]
  | int64 =>
    cases h
    have hle := Int64.le_toInt v
    have hlt := Int64.toInt_lt v
    rw [ofInt?, if_pos (by omega), Int64.ofInt_toInt]

/-- A whole number of a kind is read from every plain scalar of that type, except from a zero
with a minus sign. -/
theorem countOf?_of_writtenAs {k : Kind} {n : Int} {s : String} (hk : (k.ofInt? n).isSome = true)
    (hs : (Scalar.int n).WrittenAs s) (hzero : n = 0 → s.toList.head? ≠ some '-') :
    k.countOf? s = some n := by
  have h31 : twoTo 31 = 2147483648 := by decide
  have h63 : twoTo 63 = 9223372036854775808 := by decide
  rcases hs with ⟨m, hm, hlt, rfl⟩ | ⟨hnone, hn, hle⟩
  · have hwhole : wholeNumber? s.toList = some (m : Int) := by simp only [wholeNumber?, hm]
    cases k with
    | word16 | word32 | word64 | size => simp only [countOf?, hm, Option.bind_some, hlt, if_true]
    | int32 | int64 =>
      simp only [ofInt?, Option.isSome_ite] at hk
      rw [countOf?, hwhole, Option.bind_some, if_pos (by omega)]
    | text | list | switch | real => cases hk
  · -- a kind without signs has no such number but zero, whose sign is ruled out
    obtain ⟨hsign, hnonpos⟩ := of_negatedNumber? hn
    have hwhole : wholeNumber? s.toList = some n := by simp only [wholeNumber?, hnone, hn]
    cases k with
    | word16 | word32 | word64 | size =>
      simp only [ofInt?, Option.isSome_ite] at hk
      exact absurd hsign (hzero (by omega))
    | int32 | int64 =>
      simp only [ofInt?, Option.isSome_ite] at hk
      rw [countOf?, hwhole, Option.bind_some, if_pos (by omega)]
    | text | list | switch | real => cases hk

/-- A number that a counting kind reads from a scalar is the one that the scalar stands for. -/
theorem wholeNumber?_of_countOf? {k : Kind} {n : Int} {s : String} (h : k.countOf? s = some n) :
    wholeNumber? s.toList = some n := by
  cases k with
  | word16 | word32 | word64 | size =>
    simp only [countOf?, Option.bind_eq_some_iff] at h
    obtain ⟨m, hm, h⟩ := h
    split at h
    · cases h
      simp only [wholeNumber?, hm]
    · cases h
  | int32 | int64 =>
    simp only [countOf?, Option.bind_eq_some_iff] at h
    obtain ⟨m, hm, h⟩ := h
    split at h
    · cases h
      exact hm
    · cases h
  | text | list | switch | real => cases h

end Kind

/-! ## Spellings of a scalar -/

namespace Document

/-- The document spells the scalar: it is of that type and value, or it is written without a
tag in a way that gives the type and the value.  A zero has no minus sign. -/
def Spells (d : Document) (v : Scalar) : Prop :=
  d.resolved = .fixed v ∨
    ∃ style s, d.resolved = .written none style s ∧ scalarType? none style s = some v ∧
      (v = .int 0 → s.toList.head? ≠ some '-')

/-- The whole number that a document stands for where one is asked for. -/
def Denotes (d : Document) (n : Int) : Prop :=
  d.resolved = .fixed (.int n) ∨
    ∃ tag style s, d.resolved = .written tag style s ∧ isUnquoted "int" tag style = true ∧
      wholeNumber? s.toList = some n

variable {d : Document}

/-- An alias has a local tag inside just where its target has one. -/
theorem localTagIn?_resolved : (d : Document) → localTagIn? d.resolved = localTagIn? d
  | .alias d => by rw [resolved, localTagIn?, localTagIn?_resolved d]
  | .written _ _ _ | .fixed _ | .sequence _ _ | .mapping _ _ => rfl

/-- A scalar that is written without a tag is plain and written as its type asks, or is a text
that stands for itself. -/
theorem writtenAs_of_scalarType? {style : Yaml.ScalarStyle} {s : String} {v : Scalar}
    (h : scalarType? none style s = some v) (hv : v ≠ .null) :
    v.WrittenAs s ∧ (style = .plain ∧ (s.isEmpty || isNullWord s) = false ∨
      style ≠ .plain ∧ v = .text s) := by
  by_cases hstyle : style = .plain
  · simp only [scalarType?, hstyle, if_true] at h
    obtain ⟨hs, hnull⟩ := writtenAs_of_plainScalar? h hv
    exact ⟨hs, .inl ⟨hstyle, hnull⟩⟩
  · simp only [scalarType?, hstyle, if_false, Option.some.injEq] at h
    subst h
    exact ⟨rfl, .inr ⟨hstyle, rfl⟩⟩

/-- A document that spells a scalar other than null says so. -/
theorem Spells.isUnset {v : Scalar} (h : d.Spells v) (hv : v ≠ .null) : d.isUnset = false := by
  rcases h with hd | ⟨style, s, hd, htype, -⟩
  · rw [Document.isUnset, hd]
    cases v with
    | null => exact absurd rfl hv
    | _ => rfl
  · rw [Document.isUnset, hd]
    rcases (writtenAs_of_scalarType? htype hv).2 with ⟨rfl, hnull⟩ | ⟨hstyle, -⟩
    · exact hnull
    · cases style with
      | plain => exact absurd rfl hstyle
      | _ => rfl

/-- A scalar that spells something other than a text is read as it is, or where it is plain. -/
theorem Spells.cases {v : Scalar} (h : d.Spells v) (hv : v ≠ .null) (htext : ∀ s, v ≠ .text s) :
    d.resolved = .fixed v ∨
      ∃ s, d.resolved = .written none .plain s ∧ v.WrittenAs s ∧
        (v = .int 0 → s.toList.head? ≠ some '-') := by
  refine h.imp_right ?_
  rintro ⟨style, s, hd, htype, hzero⟩
  obtain ⟨hs, ⟨rfl, -⟩ | ⟨-, rfl⟩⟩ := writtenAs_of_scalarType? htype hv
  · exact ⟨s, hd, hs, hzero⟩
  · exact absurd rfl (htext s)

/-! ## Reading a spelling back -/

/-- A text is read back. -/
theorem Spells.readText {s : String} (h : d.Spells (.text s)) : readText d = .ok s := by
  rcases h with hd | ⟨style, t, hd, htype, -⟩
  · simp only [BackupControl.readText, hd]
  · obtain rfl : s = t := (writtenAs_of_scalarType? htype nofun).1
    simp only [BackupControl.readText, hd]

/-- A truth value is read back. -/
theorem Spells.readSwitch {b : Bool} (h : d.Spells (.bool b)) : readSwitch d = .ok b := by
  rcases h.cases nofun nofun with hd | ⟨s, hd, hs, -⟩
  · simp only [BackupControl.readSwitch, hd]
  · have hword : boolWord? s = some b := hs
    simp only [BackupControl.readSwitch, hd, isUnquoted, if_true, hword]

/-- A binary fraction is read back. -/
theorem Spells.readReal {x : Binary64} (h : d.Spells (.real x)) : readReal d = .ok x := by
  rcases h.cases nofun nofun with hd | ⟨s, hd, hs, -⟩
  · simp only [BackupControl.readReal, hd]
  · have hfraction : fraction? s = some x := hs
    simp only [BackupControl.readReal, hd, isUnquoted, if_true, hfraction]

/-- A whole number of a kind is read back. -/
theorem Spells.readCount {k : Kind} {v : k.Value} {n : Int} (h : d.Spells (k.scalar v))
    (hn : k.scalar v = .int n) : readCount k d = .ok v := by
  have hk : k.ofInt? n = some v := Kind.ofInt?_of_scalar hn
  have hcount : k.ofCount n = .ok v := by simp only [Kind.ofCount, hk]
  rw [hn] at h
  rcases h.cases nofun nofun with hd | ⟨s, hd, hs, hzero⟩
  · simp only [BackupControl.readCount, hd, hcount]
  · have hread : k.countOf? s = some n :=
      Kind.countOf?_of_writtenAs (by rw [hk]; rfl) hs fun hn => hzero (by rw [hn])
    simp only [BackupControl.readCount, hd, isUnquoted, if_true, hread, hcount]

/-- The text of a comma list is read back. -/
theorem Spells.listText? {s : String} (h : d.Spells (.text s)) :
    localTagIn? d = none ∧ listText? d = some s := by
  rw [← localTagIn?_resolved]
  rcases h with hd | ⟨style, t, hd, htype, hzero⟩
  · rw [hd]
    refine ⟨rfl, ?_⟩
    simp only [BackupControl.listText?, hd, listItem?, found]
  · rw [hd]
    refine ⟨rfl, ?_⟩
    simp only [BackupControl.listText?, hd, listItem?, found, htype, Option.getD_some]

/-- A value of any kind is read back from every spelling of it. -/
theorem Spells.readValue {k : Kind} {v : k.Value} (h : d.Spells (k.scalar v))
    (place : List Step) : readValue k place d = .ok v := by
  cases k with
  | text => simp only [BackupControl.readValue, h.readText]; rfl
  | switch => simp only [BackupControl.readValue, h.readSwitch]; rfl
  | real => simp only [BackupControl.readValue, h.readReal]; rfl
  | list => simp only [BackupControl.readValue, h.listText?]
  | word16 | word32 | word64 | size | int32 | int64 =>
    simp only [BackupControl.readValue, h.readCount rfl]
    rfl

/-! ## Values out of range -/

/-- A counting option that is read has a whole number of its kind. -/
theorem exists_denotes_of_readCount {k : Kind} {v : k.Value} (h : readCount k d = .ok v) :
    ∃ n, d.Denotes n ∧ k.ofInt? n = some v := by
  have hcount {n : Int} (h : k.ofCount n = .ok v) : k.ofInt? n = some v := by
    rw [Kind.ofCount] at h
    split at h
    · cases h
      assumption
    · cases h
  rw [BackupControl.readCount] at h
  split at h
  · rename_i tag style s hd
    split at h
    · rename_i hplain
      split at h
      · rename_i n hn
        exact ⟨n, .inr ⟨tag, style, s, hd, hplain, Kind.wholeNumber?_of_countOf? hn⟩, hcount h⟩
      · cases h
    · cases h
  · rename_i n hd
    exact ⟨n, .inl hd, hcount h⟩
  · cases h

/-- An option that counts has no value outside the range of its kind. -/
theorem readValue_ne_ok {k : Kind} {below above : Nat} (hk : k.range? = some (below, above))
    (hd : ∀ n, d.Denotes n → n < -(below : Int) ∨ above < n) (place : List Step) (v : k.Value) :
    readValue k place d ≠ .ok v := by
  have hcount (v : k.Value) : BackupControl.readCount k d ≠ .ok v := by
    intro h
    obtain ⟨n, hn, hv⟩ := exists_denotes_of_readCount h
    have hrange := (Kind.isSome_ofInt?_iff hk n).1 (by rw [hv]; rfl)
    have hout := hd n hn
    omega
  have hplaced {r : Reading k.Value} (h : ∀ v, r ≠ .ok v) : Reading.placed place r ≠ .ok v := by
    cases r with
    | error e => intro h; cases h
    | ok v => exact absurd rfl (h v)
  cases k with
  | word16 | word32 | word64 | size | int32 | int64 => exact hplaced hcount
  | text | list | switch | real => cases hk

end Document

end BackupControl
