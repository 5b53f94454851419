/-
# Base64 has one spelling

Reading is the inverse of writing: a text stands for bytes just if it is what is written for
them.  The symbols are handled in groups of four, so the lemmas are about symbols first, then
about one group, then about the tail that may hold padding, and last about texts.
-/
import BackupControl.Proofs.Rules.Check
import BackupControl.Text.Base64

namespace BackupControl.Base64

/-! ## Symbols -/

/-- A byte is a symbol of a number just if it is the one that is written for it. -/
theorem symbolValue?_eq_some_iff {b : UInt8} {v : Nat} :
    symbolValue? b = some v ↔ v < 64 ∧ symbolOf v = b := by
  constructor
  · intro h
    have hb : UInt8.ofNat b.toNat = b := UInt8.ofNat_toNat
    unfold symbolValue? at h
    dsimp only at h
    split at h
    · obtain rfl := Option.some.inj h
      refine ⟨by omega, ?_⟩
      rw [symbolOf, if_pos (by omega), Nat.sub_add_cancel (by omega), hb]
    · split at h
      · obtain rfl := Option.some.inj h
        refine ⟨by omega, ?_⟩
        rw [symbolOf, if_neg (by omega), if_pos (by omega), Nat.sub_add_cancel (by omega), hb]
      · split at h
        · obtain rfl := Option.some.inj h
          refine ⟨by omega, ?_⟩
          rw [symbolOf, if_neg (by omega), if_neg (by omega), if_pos (by omega),
            Nat.add_sub_cancel, hb]
        · split at h
          · rename_i hplus
            obtain rfl := Option.some.inj h
            rw [hplus] at hb
            exact ⟨by decide, hb⟩
          · split at h
            · rename_i hslash
              obtain rfl := Option.some.inj h
              rw [hslash] at hb
              exact ⟨by decide, hb⟩
            · exact absurd h nofun
  · rintro ⟨hv, rfl⟩
    -- in this direction there are only sixty-four cases
    have hall : ∀ v < 64, symbolValue? (symbolOf v) = some v := by decide
    exact hall v hv

/-- No symbol is padding. -/
theorem symbolOf_ne_pad {v : Nat} (hv : v < 64) : symbolOf v ≠ pad := by
  intro h
  have hnone : symbolValue? pad = none := by decide
  exact absurd (hnone.symm.trans (symbolValue?_eq_some_iff.2 ⟨hv, h⟩)) nofun

/-- A symbol is read as the number that it is written for. -/
theorem readSymbol_eq_ok_iff {offset : Nat} {b : UInt8} {v : Nat} :
    readSymbol offset b = .ok v ↔ v < 64 ∧ symbolOf v = b := by
  rw [← symbolValue?_eq_some_iff]
  unfold readSymbol
  split
  · rename_i hsome
    rw [hsome]
    exact ⟨fun h => congrArg some (Except.ok.inj h), fun h => congrArg _ (Option.some.inj h)⟩
  · rename_i hnone
    rw [hnone]
    exact ⟨nofun, nofun⟩

/-- Symbols are read as the numbers that they are written for. -/
theorem readSymbols_eq_ok_iff {offset : Nat} {bs : List UInt8} {vs : List Nat} :
    readSymbols offset bs = .ok vs ↔ (∀ v ∈ vs, v < 64) ∧ vs.map symbolOf = bs := by
  induction bs generalizing offset vs with
  | nil =>
    rw [List.map_eq_nil_iff]
    constructor
    · intro h
      obtain rfl := Except.ok.inj h
      exact ⟨nofun, rfl⟩
    · rintro ⟨-, rfl⟩
      rfl
  | cons b bs ih =>
    rw [readSymbols, bind_eq_ok_iff]
    constructor
    · rintro ⟨v, hv, hrest⟩
      obtain ⟨rest, hvs, hpure⟩ := bind_eq_ok_iff.1 hrest
      obtain rfl := pure_eq_ok_iff.1 hpure
      obtain ⟨hsmall, rfl⟩ := readSymbol_eq_ok_iff.1 hv
      obtain ⟨hsmalls, rfl⟩ := ih.1 hvs
      exact ⟨List.forall_mem_cons.2 ⟨hsmall, hsmalls⟩, rfl⟩
    · rintro ⟨hsmall, hmap⟩
      obtain ⟨v, rest, rfl, hv, hrest⟩ := List.map_eq_cons_iff.1 hmap
      obtain ⟨hv', hrest'⟩ := List.forall_mem_cons.1 hsmall
      exact ⟨v, readSymbol_eq_ok_iff.2 ⟨hv', hv⟩,
        bind_eq_ok_iff.2 ⟨rest, ih.2 ⟨hrest', hrest⟩, rfl⟩⟩

/-! ## Groups -/

/-- A number below 256 is the byte of that number. -/
theorem ofNat_eq_iff {n : Nat} {x : UInt8} (hn : n < 256) : UInt8.ofNat n = x ↔ n = x.toNat := by
  rw [← UInt8.toNat_inj, UInt8.toNat_ofNat_of_lt' hn]

/-- The numbers of six bits that one to three bytes are cut into. -/
def sixBits : List UInt8 → List Nat
  | [x] => [x.toNat / 4, x.toNat % 4 * 16]
  | [x, y] => [x.toNat / 4, x.toNat % 4 * 16 + y.toNat / 16, y.toNat % 16 * 4]
  | [x, y, z] =>
    [x.toNat / 4, x.toNat % 4 * 16 + y.toNat / 16, y.toNat % 16 * 4 + z.toNat / 64, z.toNat % 64]
  | _ => []

/-- The pieces of a group have six bits each. -/
theorem sixBits_lt (bytes : List UInt8) : ∀ v ∈ sixBits bytes, v < 64 := by
  unfold sixBits
  split
  · rename_i x
    have hx := x.toNat_lt
    grind
  · rename_i x y
    have hx := x.toNat_lt
    have hy := y.toNat_lt
    grind
  · rename_i x y z
    have hx := x.toNat_lt
    have hy := y.toNat_lt
    have hz := z.toNat_lt
    grind
  · exact nofun

/-- Two pieces with no other bits are those of one byte. -/
theorem joinBits_two_iff {a b : Nat} {bytes : List UInt8} (ha : a < 64) (hb : b < 64) :
    joinBits [a, b] = (bytes, 0) ↔ bytes.length = 1 ∧ sixBits bytes = [a, b] := by
  rw [joinBits, Prod.mk.injEq]
  constructor
  · rintro ⟨rfl, hleft⟩
    refine ⟨rfl, ?_⟩
    rw [sixBits, UInt8.toNat_ofNat_of_lt' (by simp only [UInt8.size]; omega)]
    simp only [List.cons.injEq, and_true]
    omega
  · rintro ⟨hlength, hpieces⟩
    obtain ⟨x, rfl⟩ := List.length_eq_one_iff.1 hlength
    simp only [sixBits, List.cons.injEq, and_true] at hpieces
    have hx : x.toNat < 256 := x.toNat_lt
    simp only [List.cons.injEq, and_true]
    rw [ofNat_eq_iff (by omega)]
    omega

/-- Three pieces with no other bits are those of two bytes. -/
theorem joinBits_three_iff {a b c : Nat} {bytes : List UInt8} (ha : a < 64) (hb : b < 64)
    (hc : c < 64) :
    joinBits [a, b, c] = (bytes, 0) ↔ bytes.length = 2 ∧ sixBits bytes = [a, b, c] := by
  rw [joinBits, Prod.mk.injEq]
  constructor
  · rintro ⟨rfl, hleft⟩
    refine ⟨rfl, ?_⟩
    rw [sixBits, UInt8.toNat_ofNat_of_lt' (by simp only [UInt8.size]; omega),
      UInt8.toNat_ofNat_of_lt' (by simp only [UInt8.size]; omega)]
    simp only [List.cons.injEq, and_true]
    omega
  · rintro ⟨hlength, hpieces⟩
    obtain ⟨x, y, rfl⟩ := List.length_eq_two.1 hlength
    simp only [sixBits, List.cons.injEq, and_true] at hpieces
    have hx : x.toNat < 256 := x.toNat_lt
    have hy : y.toNat < 256 := y.toNat_lt
    simp only [List.cons.injEq, and_true]
    rw [ofNat_eq_iff (by omega), ofNat_eq_iff (by omega)]
    omega

/-- Four pieces are those of three bytes. -/
theorem joinBits_four_iff {a b c d : Nat} {bytes : List UInt8} (ha : a < 64) (hb : b < 64)
    (hc : c < 64) (hd : d < 64) :
    joinBits [a, b, c, d] = (bytes, 0) ↔ bytes.length = 3 ∧ sixBits bytes = [a, b, c, d] := by
  rw [joinBits, Prod.mk.injEq]
  constructor
  · rintro ⟨rfl, -⟩
    refine ⟨rfl, ?_⟩
    rw [sixBits, UInt8.toNat_ofNat_of_lt' (by simp only [UInt8.size]; omega),
      UInt8.toNat_ofNat_of_lt' (by simp only [UInt8.size]; omega),
      UInt8.toNat_ofNat_of_lt' (by simp only [UInt8.size]; omega)]
    simp only [List.cons.injEq, and_true]
    omega
  · rintro ⟨hlength, hpieces⟩
    obtain ⟨x, y, z, rfl⟩ := List.length_eq_three.1 hlength
    simp only [sixBits, List.cons.injEq, and_true] at hpieces
    have hx : x.toNat < 256 := x.toNat_lt
    have hy : y.toNat < 256 := y.toNat_lt
    have hz : z.toNat < 256 := z.toNat_lt
    simp only [List.cons.injEq, and_true]
    rw [ofNat_eq_iff (by omega), ofNat_eq_iff (by omega), ofNat_eq_iff (by omega)]
    omega

/-- Joining is the inverse of cutting, on groups with no other bits. -/
theorem joinBits_eq_iff {values : List Nat} {bytes : List UInt8} (hsmall : ∀ v ∈ values, v < 64)
    (hleast : 2 ≤ values.length) (hmost : values.length ≤ 4) :
    joinBits values = (bytes, 0) ↔ bytes.length + 1 = values.length ∧ sixBits bytes = values := by
  match values, hsmall, hleast, hmost with
  | [a, b], hsmall, _, _ =>
    rw [joinBits_two_iff (hsmall a (by simp)) (hsmall b (by simp))]
    exact and_congr_left' ⟨fun h => congrArg (· + 1) h, Nat.succ.inj⟩
  | [a, b, c], hsmall, _, _ =>
    rw [joinBits_three_iff (hsmall a (by simp)) (hsmall b (by simp)) (hsmall c (by simp))]
    exact and_congr_left' ⟨fun h => congrArg (· + 1) h, Nat.succ.inj⟩
  | [a, b, c, d], hsmall, _, _ =>
    rw [joinBits_four_iff (hsmall a (by simp)) (hsmall b (by simp)) (hsmall c (by simp))
      (hsmall d (by simp))]
    exact and_congr_left' ⟨fun h => congrArg (· + 1) h, Nat.succ.inj⟩

/-! ## Padding -/

/-- Symbols of numbers, and padding up to a group of four. -/
structure Padded (values : List Nat) (tail : List UInt8) : Prop where
  small : ∀ v ∈ values, v < 64
  least : 2 ≤ values.length
  most : values.length ≤ 4
  spelled : values.map symbolOf ++ List.replicate (4 - values.length) pad = tail

namespace Padded

variable {values : List Nat} {tail : List UInt8}

/-- The symbols of a padded group are those in front of the padding. -/
theorem takeWhile_eq (h : Padded values tail) :
    tail.takeWhile (· != pad) = values.map symbolOf := by
  have hsymbols : ∀ b ∈ values.map symbolOf, (b != pad) = true := by
    intro b hb
    obtain ⟨v, hv, rfl⟩ := List.mem_map.1 hb
    exact bne_iff_ne.2 (symbolOf_ne_pad (h.small v hv))
  rw [← h.spelled, List.takeWhile_append_of_pos hsymbols, List.takeWhile_replicate,
    if_neg (by decide), List.append_nil]

/-- What follows the symbols of a padded group is padding. -/
theorem dropWhile_eq (h : Padded values tail) :
    tail.dropWhile (· != pad) = List.replicate (4 - values.length) pad := by
  have hspan : tail.takeWhile (· != pad) ++ tail.dropWhile (· != pad) = tail :=
    List.takeWhile_append_dropWhile
  have hspelled := h.spelled
  rw [← h.takeWhile_eq] at hspelled
  exact List.append_cancel_left (hspan.trans hspelled.symm)

/-- A padded group has four symbols. -/
theorem length_eq (h : Padded values tail) : tail.length = 4 := by
  have hmost := h.most
  rw [← h.spelled, List.length_append, List.length_map, List.length_replicate]
  omega

end Padded

/-- The last group is read just if it is padded and no bits are left over. -/
theorem readTail_eq_ok_iff {offset : Nat} {tail bytes : List UInt8} (hnonempty : tail ≠ [])
    (hshort : tail.length ≤ 4) :
    readTail offset tail = .ok bytes ↔
      ∃ values, Padded values tail ∧ joinBits values = (bytes, 0) := by
  simp only [readTail, bind_eq_ok_iff, guard_eq_ok_iff, readSymbols_eq_ok_iff]
  refine exists_congr fun values => ?_
  constructor
  · rintro ⟨⟨hsmall, hbody⟩, hpadding, hleast, hlength, hleft, hbytes⟩
    have hspan : tail.takeWhile (· != pad) ++ tail.dropWhile (· != pad) = tail :=
      List.takeWhile_append_dropWhile
    have hfour : tail.length = 4 := by
      have hpos := List.length_pos_of_ne_nil hnonempty
      omega
    rw [← hbody, List.length_map] at hleast
    rw [← hbody] at hspan hpadding
    have hlengths := congrArg List.length hspan
    rw [List.length_append, List.length_map, hfour] at hlengths
    -- what follows the symbols is padding, and just as much as is missing
    refine ⟨⟨hsmall, by omega, by omega, ?_⟩, ?_⟩
    · have hrest : tail.dropWhile (· != pad) = List.replicate (4 - values.length) pad := by
        refine List.eq_replicate_iff.2 ⟨by omega, fun b hb => ?_⟩
        grind
      rw [← hrest, hspan]
    · exact Prod.ext (Except.ok.inj hbytes) (Classical.not_not.1 hleft)
  · rintro ⟨h, hjoin⟩
    have hleast := h.least
    rw [h.takeWhile_eq, h.dropWhile_eq, h.length_eq, hjoin, List.length_map]
    refine ⟨⟨h.small, rfl⟩, ?_, by omega, by decide, by simp, rfl⟩
    simp only [Bool.and_eq_true, Bool.or_eq_true, decide_eq_true_eq, List.any_replicate]
    grind

/-! ## Lists of symbols -/

/-- One to three bytes are written as their pieces, padded to four symbols. -/
theorem encodeBytes_of_short {bytes : List UInt8} (hnonempty : bytes ≠ [])
    (hshort : bytes.length ≤ 3) :
    encodeBytes bytes =
      (sixBits bytes).map symbolOf ++ List.replicate (4 - (sixBits bytes).length) pad := by
  match bytes, hnonempty, hshort with
  | [x], _, _ => rfl
  | [x, y], _, _ => rfl
  | [x, y, z], _, _ => rfl

/-- The pieces of a group are one more than its bytes. -/
theorem length_sixBits {bytes : List UInt8} (hnonempty : bytes ≠ []) (hshort : bytes.length ≤ 3) :
    (sixBits bytes).length = bytes.length + 1 := by
  match bytes, hnonempty, hshort with
  | [x], _, _ => rfl
  | [x, y], _, _ => rfl
  | [x, y, z], _, _ => rfl

/-- Three bytes in front of others are written as their four pieces. -/
theorem encodeBytes_append {group rest : List UInt8} (hgroup : group.length = 3) :
    encodeBytes (group ++ rest) = (sixBits group).map symbolOf ++ encodeBytes rest := by
  obtain ⟨x, y, z, rfl⟩ := List.length_eq_three.1 hgroup
  rfl

/-- The symbols of a list of bytes come in groups of four. -/
theorem length_encodeBytes (bytes : List UInt8) :
    (encodeBytes bytes).length = 4 * ((bytes.length + 2) / 3) := by
  fun_induction encodeBytes bytes with
  | case1 => rfl
  | case2 x => rw [List.length_singleton]; rfl
  | case3 x y => simp only [List.length_cons, List.length_nil]
  | case4 x y z rest ih =>
    simp only [List.length_cons, ih]
    omega

/-- Bytes that are not in groups of three are written with padding. -/
theorem pad_mem_encodeBytes {bytes : List UInt8} (h : bytes.length % 3 ≠ 0) :
    pad ∈ encodeBytes bytes := by
  fun_induction encodeBytes bytes with
  | case1 => exact absurd rfl h
  | case2 => simp
  | case3 => simp
  | case4 x y z rest ih =>
    have hrest : rest.length % 3 ≠ 0 := by
      simp only [List.length_cons] at h
      omega
    simp only [List.mem_cons, ih hrest, or_true]

/-- The last group is read just if it is what is written for the bytes. -/
theorem readTail_eq_ok_iff_encodeBytes {offset : Nat} {tail bytes : List UInt8}
    (hnonempty : tail ≠ []) (hshort : tail.length ≤ 4) :
    readTail offset tail = .ok bytes ↔ encodeBytes bytes = tail := by
  rw [readTail_eq_ok_iff hnonempty hshort]
  constructor
  · rintro ⟨values, h, hjoin⟩
    obtain ⟨hlength, rfl⟩ := (joinBits_eq_iff h.small h.least h.most).1 hjoin
    have hleast := h.least
    have hmost := h.most
    have hbytes : bytes ≠ [] := List.ne_nil_of_length_pos (by omega)
    rw [encodeBytes_of_short hbytes (by omega), h.spelled]
  · rintro rfl
    have hlength := length_encodeBytes bytes
    have hpos := List.length_pos_of_ne_nil hnonempty
    have hbytes : bytes ≠ [] := List.ne_nil_of_length_pos (by omega)
    have hpieces := length_sixBits hbytes (by omega)
    have hsmall := sixBits_lt bytes
    refine ⟨sixBits bytes, ⟨hsmall, by omega, by omega, ?_⟩, ?_⟩
    · exact (encodeBytes_of_short hbytes (by omega)).symm
    · exact (joinBits_eq_iff hsmall (by omega) (by omega)).2 ⟨hpieces.symm, rfl⟩

/-- Four pieces leave no bits over. -/
theorem joinBits_snd_of_four {values : List Nat} (h : values.length = 4) :
    (joinBits values).2 = 0 := by
  match values, h with
  | [a, b, c, d], _ => rfl

/-- Symbols are read as bytes just if they are what is written for them. -/
theorem readGroups_eq_ok_iff {offset : Nat} {symbols bytes : List UInt8} :
    readGroups offset symbols = .ok bytes ↔ encodeBytes bytes = symbols := by
  fun_induction readGroups offset symbols generalizing bytes with
  | case1 offset a b c d e rest ih =>
    -- a group with more symbols after it holds three bytes
    simp only [bind_eq_ok_iff, readSymbols_eq_ok_iff, ih, pure_eq_ok_iff]
    constructor
    · rintro ⟨values, ⟨hsmall, hspelled⟩, others, hothers, rfl⟩
      have hfour : values.length = 4 := by
        have hlength := congrArg List.length hspelled
        rwa [List.length_map] at hlength
      have hjoin : joinBits values = ((joinBits values).1, 0) :=
        Prod.ext rfl (joinBits_snd_of_four hfour)
      obtain ⟨hlength, hpieces⟩ := (joinBits_eq_iff hsmall (by omega) (by omega)).1 hjoin
      rw [encodeBytes_append (by omega), hpieces, hspelled, hothers]
      rfl
    · -- the first three bytes were written as the group, the others as what follows
      intro hwritten
      have hlength := length_encodeBytes bytes
      rw [hwritten] at hlength
      simp only [List.length_cons] at hlength
      have hgroup : (bytes.take 3).length = 3 := List.length_take_of_le (by omega)
      have hbytes : bytes.take 3 ≠ [] := List.ne_nil_of_length_pos (by omega)
      have hpieces := length_sixBits hbytes (by omega)
      have hsplit : (sixBits (bytes.take 3)).map symbolOf ++ encodeBytes (bytes.drop 3) =
          [a, b, c, d] ++ e :: rest := by
        rw [← encodeBytes_append hgroup, List.take_append_drop, hwritten]
        rfl
      obtain ⟨hspelled, hothers⟩ := List.append_inj hsplit (by
        rw [List.length_map, hpieces, hgroup]
        rfl)
      have hsmall := sixBits_lt (bytes.take 3)
      have hjoin : joinBits (sixBits (bytes.take 3)) = (bytes.take 3, 0) :=
        (joinBits_eq_iff hsmall (by omega) (by omega)).2 ⟨hpieces.symm, rfl⟩
      refine ⟨_, ⟨hsmall, hspelled⟩, _, hothers, ?_⟩
      rw [hjoin, List.take_append_drop]
  | case2 offset =>
    constructor
    · intro h
      obtain rfl := Except.ok.inj h
      rfl
    · intro hwritten
      have hlength := length_encodeBytes bytes
      rw [hwritten, List.length_nil] at hlength
      have hbytes : bytes = [] := List.eq_nil_of_length_eq_zero (by omega)
      rw [hbytes]
  | case3 offset tail hlong hnonempty =>
    have hshort : tail.length ≤ 4 := by
      match tail, hlong with
      | [], _ | [_], _ | [_, _], _ | [_, _, _], _ | [_, _, _, _], _ => simp
      | _ :: _ :: _ :: _ :: _ :: _, hlong => exact absurd rfl (hlong _ _ _ _ _ _)
    exact readTail_eq_ok_iff_encodeBytes hnonempty hshort

/-! ## Texts -/

/-- Every symbol is an ASCII character. -/
theorem symbolOf_lt (v : Nat) : (symbolOf v).toNat < 128 := by
  unfold symbolOf
  rw [UInt8.toNat_ofNat']
  grind

/-- What holds of each symbol and of the padding holds of all that is written. -/
theorem forall_mem_encodeBytes {p : UInt8 → Prop} (hsymbol : ∀ v, p (symbolOf v)) (hpad : p pad)
    (bytes : List UInt8) : ∀ b ∈ encodeBytes bytes, p b := by
  fun_induction encodeBytes bytes with
  | case1 => exact nofun
  | case2 => simp [hsymbol, hpad]
  | case3 => simp [hsymbol, hpad]
  | case4 x y z rest ih => simpa [hsymbol] using ih

/-- All that is written is ASCII. -/
theorem encodeBytes_lt (bytes : List UInt8) : ∀ b ∈ encodeBytes bytes, b.toNat < 128 :=
  forall_mem_encodeBytes symbolOf_lt (by decide) bytes

/-- The code point of an ASCII character is its byte. -/
theorem toNat_charOfNat {b : UInt8} (h : b.toNat < 128) : (Char.ofNat b.toNat).toNat = b.toNat := by
  have hvalid : b.toNat.isValidChar := .inl (by omega)
  rw [Char.ofNat, dif_pos hvalid]
  exact UInt32.toNat_ofNatLT ..

/-- An ASCII character is one byte in UTF-8. -/
theorem utf8EncodeChar_ofNat {b : UInt8} (h : b.toNat < 128) :
    String.utf8EncodeChar (Char.ofNat b.toNat) = [b] := by
  have hvalue : (Char.ofNat b.toNat).val.toNat = b.toNat := toNat_charOfNat h
  rw [String.utf8EncodeChar, hvalue, if_pos (by omega), UInt8.ofNat_toNat]

/-- No symbol is a comma. -/
theorem symbolOf_ne_comma (v : Nat) : (symbolOf v).toNat ≠ ','.toNat := by
  have hcomma : ','.toNat = 44 := rfl
  rw [hcomma]
  unfold symbolOf
  rw [UInt8.toNat_ofNat']
  grind

/-- No base64 has a comma. -/
theorem comma_notMem_encode (bytes : List UInt8) : ',' ∉ (encode bytes).toList := by
  have hsymbols : ∀ b ∈ encodeBytes bytes, b.toNat ≠ ','.toNat :=
    forall_mem_encodeBytes symbolOf_ne_comma (by decide) bytes
  rw [encode, String.toList_ofList, List.mem_map]
  rintro ⟨b, hb, hcomma⟩
  refine hsymbols b hb ?_
  rw [← hcomma, toNat_charOfNat (encodeBytes_lt bytes b hb)]

/-- The bytes of a written text are its symbols. -/
theorem toUTF8_encode (bytes : List UInt8) :
    (encode bytes).toUTF8.data.toList = encodeBytes bytes := by
  have hascii : ∀ bs : List UInt8, (∀ b ∈ bs, b.toNat < 128) →
      (bs.map fun b => Char.ofNat b.toNat).flatMap String.utf8EncodeChar = bs := by
    intro bs hbs
    induction bs with
    | nil => rfl
    | cons b bs ih =>
      obtain ⟨hb, hrest⟩ := List.forall_mem_cons.1 hbs
      rw [List.map_cons, List.flatMap_cons, utf8EncodeChar_ofNat hb, ih hrest]
      rfl
  rw [encode, String.toUTF8, String.toByteArray_ofList, List.utf8Encode, List.data_toByteArray,
    List.toList_toArray, hascii _ (encodeBytes_lt bytes)]

/-- Texts with the same bytes are equal. -/
theorem toUTF8_inj {s t : String} : s.toUTF8.data.toList = t.toUTF8.data.toList ↔ s = t := by
  rw [Array.toList_inj, ← ByteArray.ext_iff]
  exact String.toByteArray_inj

/-- A text is read as bytes just if it is what is written for them. -/
theorem decode_eq_ok_iff {s : String} {bytes : List UInt8} :
    decode s = .ok bytes ↔ encode bytes = s := by
  rw [← toUTF8_inj, toUTF8_encode, ← @readGroups_eq_ok_iff 0]
  unfold decode
  dsimp only
  split
  · -- one symbol over a multiple of four is refused in any case
    rename_i hover
    refine ⟨nofun, fun h => ?_⟩
    have hlength := length_encodeBytes bytes
    rw [readGroups_eq_ok_iff.1 h] at hlength
    omega
  · exact Iff.rfl

end BackupControl.Base64
