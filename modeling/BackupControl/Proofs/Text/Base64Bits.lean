/-
# Base64 bit by bit

Base64 writes the bits of its bytes, the highest first, as symbols of six bits each.  Where the
last symbol has bits to spare they are zero, and padding makes the text a multiple of four
characters.  That is what is written, and no other text has the bits of the same bytes.

Main statement: `isSpelling_iff`.
-/
import BackupControl.Proofs.Text.Base64
import Mathlib.Algebra.Group.Nat.Defs
import Mathlib.Data.List.GetD
import Mathlib.Data.List.Nodup

namespace BackupControl.Base64

/-! ## Bits -/

/-- The lowest bits of a number, the highest of them first. -/
def bits : Nat → Nat → List Nat
  | 0, _ => []
  | width + 1, n => n / 2 ^ width % 2 :: bits width n

/-- The bits of numbers of one width, one number after another. -/
def bitsOf (width : Nat) (ns : List Nat) : List Nat := ns.flatMap (bits width)

variable {width : Nat}

/-- There are as many bits as are asked for. -/
theorem length_bits (width n : Nat) : (bits width n).length = width := by
  induction width with
  | zero => rfl
  | succ width ih => rw [bits, List.length_cons, ih]

/-- Each number has as many bits as are asked for. -/
theorem length_bitsOf (width : Nat) (ns : List Nat) :
    (bitsOf width ns).length = width * ns.length := by
  induction ns with
  | nil => rfl
  | cons n ns ih =>
    rw [bitsOf, List.flatMap_cons, List.length_append, length_bits, ← bitsOf, ih,
      List.length_cons, Nat.mul_succ, Nat.add_comm]

/-- The bits of more numbers follow those of the first. -/
theorem bitsOf_append (width : Nat) (ns ns' : List Nat) :
    bitsOf width (ns ++ ns') = bitsOf width ns ++ bitsOf width ns' :=
  List.flatMap_append

/-- Two numbers with the same lowest bits leave the same remainder. -/
theorem mod_eq_of_bits_eq {m n : Nat} (h : bits width m = bits width n) :
    m % 2 ^ width = n % 2 ^ width := by
  induction width with
  | zero => rw [Nat.pow_zero, Nat.mod_one, Nat.mod_one]
  | succ width ih =>
    obtain ⟨hhead, htail⟩ := List.cons.inj h
    rw [Nat.mod_pow_succ, Nat.mod_pow_succ, ih htail, hhead]

/-- Numbers of a width are determined by their bits. -/
theorem bitsOf_inj {ns ns' : List Nat} (hlength : ns.length = ns'.length)
    (hsmall : ∀ n ∈ ns, n < 2 ^ width) (hsmall' : ∀ n ∈ ns', n < 2 ^ width)
    (h : bitsOf width ns = bitsOf width ns') : ns = ns' := by
  induction ns generalizing ns' with
  | nil => exact (List.eq_nil_of_length_eq_zero hlength.symm).symm
  | cons n ns ih =>
    cases ns' with
    | nil => exact absurd hlength nofun
    | cons n' ns' =>
      obtain ⟨hn, hsmall⟩ := List.forall_mem_cons.1 hsmall
      obtain ⟨hn', hsmall'⟩ := List.forall_mem_cons.1 hsmall'
      have hsplit : bits width n ++ bitsOf width ns = bits width n' ++ bitsOf width ns' := h
      obtain ⟨hhead, htail⟩ := List.append_inj hsplit (by rw [length_bits, length_bits])
      have hmod := mod_eq_of_bits_eq hhead
      rw [Nat.mod_eq_of_lt hn, Nat.mod_eq_of_lt hn'] at hmod
      rw [hmod, ih (Nat.succ.inj hlength) hsmall hsmall' htail]

/-- Whatever stands above the lowest bits does not change them. -/
theorem bits_mul_add (k n : Nat) : bits width (2 ^ width * k + n) = bits width n := by
  induction width generalizing k with
  | zero => rfl
  | succ width ih =>
    have hhigh : 2 ^ (width + 1) * k + n = 2 ^ width * (2 * k) + n := by
      rw [Nat.pow_succ, Nat.mul_assoc]
    rw [bits, bits, hhigh, ih, Nat.mul_add_div (Nat.two_pow_pos width), Nat.mul_add_mod]

/-- The bits above the lowest ones are those of what is left without them. -/
theorem bits_add (width low n : Nat) :
    bits (width + low) n = bits width (n / 2 ^ low) ++ bits low n := by
  induction width with
  | zero =>
    rw [Nat.zero_add]
    rfl
  | succ width ih =>
    rw [Nat.succ_add, bits, ih, bits, Nat.div_div_eq_div_mul, ← Nat.pow_add, Nat.add_comm low]
    rfl

/-- Each list of bits is that of a number. -/
theorem exists_bits_eq {bs : List Nat} (hbits : ∀ b ∈ bs, b < 2) (hlength : bs.length = width) :
    ∃ n < 2 ^ width, bits width n = bs := by
  induction width generalizing bs with
  | zero => exact ⟨0, by decide, (List.eq_nil_of_length_eq_zero hlength).symm⟩
  | succ width ih =>
    cases bs with
    | nil => exact absurd hlength nofun
    | cons b bs =>
      obtain ⟨hb, hbits⟩ := List.forall_mem_cons.1 hbits
      obtain ⟨n, hn, hrest⟩ := ih hbits (Nat.succ.inj hlength)
      refine ⟨2 ^ width * b + n, ?_, ?_⟩
      · have hb : b ≤ 1 := Nat.le_of_lt_succ hb
        have hle : 2 ^ width * b ≤ 2 ^ width * 1 := Nat.mul_le_mul_left _ hb
        rw [Nat.pow_succ]
        omega
      · rw [bits, bits_mul_add, hrest, Nat.mul_add_div (Nat.two_pow_pos width),
          Nat.div_eq_of_lt hn, Nat.add_zero, Nat.mod_eq_of_lt hb]

/-- A list of bits that can be cut into parts of one width is that of numbers. -/
theorem exists_bitsOf_eq {count : Nat} {bs : List Nat} (hbits : ∀ b ∈ bs, b < 2)
    (hlength : bs.length = width * count) :
    ∃ ns, ns.length = count ∧ (∀ n ∈ ns, n < 2 ^ width) ∧ bitsOf width ns = bs := by
  induction count generalizing bs with
  | zero => exact ⟨[], rfl, nofun, (List.eq_nil_of_length_eq_zero hlength).symm⟩
  | succ count ih =>
    rw [Nat.mul_succ] at hlength
    have hfirst : (bs.take width).length = width := List.length_take_of_le (by omega)
    have hrest : (bs.drop width).length = width * count := by
      rw [List.length_drop]
      omega
    obtain ⟨n, hn, hfirst⟩ :=
      exists_bits_eq (fun b hb => hbits b (List.mem_of_mem_take hb)) hfirst
    obtain ⟨ns, hcount, hsmall, hrest⟩ :=
      ih (fun b hb => hbits b (List.mem_of_mem_drop hb)) hrest
    refine ⟨n :: ns, congrArg (· + 1) hcount, List.forall_mem_cons.2 ⟨hn, hsmall⟩, ?_⟩
    rw [bitsOf, List.flatMap_cons, hfirst, ← bitsOf, hrest, List.take_append_drop]

/-- Bits are zero or one. -/
theorem forall_mem_bitsOf_lt (width : Nat) (ns : List Nat) : ∀ b ∈ bitsOf width ns, b < 2 := by
  have hbits (n : Nat) : ∀ b ∈ bits width n, b < 2 := by
    induction width with
    | zero => exact nofun
    | succ width ih => exact List.forall_mem_cons.2 ⟨Nat.mod_lt _ (by decide), ih⟩
  intro b hb
  obtain ⟨n, -, hn⟩ := List.mem_flatMap.1 hb
  exact hbits n b hn

/-! ## Groups -/

/-- The bits of bytes. -/
def byteBits (bytes : List UInt8) : List Nat := bitsOf 8 (bytes.map UInt8.toNat)

/-- The pieces of one to three bytes have the bits of the bytes, and zeros to spare. -/
theorem bitsOf_sixBits {group : List UInt8} (hnonempty : group ≠ [])
    (hshort : group.length ≤ 3) :
    bitsOf 6 (sixBits group) = byteBits group ++ List.replicate (2 * (3 - group.length)) 0 := by
  match group, hnonempty, hshort with
  | [x], _, _ =>
    show _ = byteBits [x] ++ [0, 0, 0, 0]
    have hx : x.toNat < 256 := x.toNat_lt
    simp only [byteBits, bitsOf, sixBits, List.map_cons, List.map_nil, List.flatMap_cons,
      List.flatMap_nil, bits, List.cons_append, List.nil_append, List.cons.injEq, and_true]
    and_intros <;> omega
  | [x, y], _, _ =>
    show _ = byteBits [x, y] ++ [0, 0]
    have hx : x.toNat < 256 := x.toNat_lt
    have hy : y.toNat < 256 := y.toNat_lt
    simp only [byteBits, bitsOf, sixBits, List.map_cons, List.map_nil, List.flatMap_cons,
      List.flatMap_nil, bits, List.cons_append, List.nil_append, List.cons.injEq, and_true]
    and_intros <;> omega
  | [x, y, z], _, _ =>
    show _ = byteBits [x, y, z] ++ []
    have hx : x.toNat < 256 := x.toNat_lt
    have hy : y.toNat < 256 := y.toNat_lt
    have hz : z.toNat < 256 := z.toNat_lt
    simp only [byteBits, bitsOf, sixBits, List.map_cons, List.map_nil, List.flatMap_cons,
      List.flatMap_nil, bits, List.cons_append, List.nil_append, List.append_nil,
      List.cons.injEq, and_true]
    and_intros <;> omega

/-! ## The alphabet -/

/-- The symbols in the order of their numbers. -/
def alphabet : List Char := [
  'A', 'B', 'C', 'D', 'E', 'F', 'G', 'H', 'I', 'J', 'K', 'L', 'M', 'N', 'O', 'P',
  'Q', 'R', 'S', 'T', 'U', 'V', 'W', 'X', 'Y', 'Z', 'a', 'b', 'c', 'd', 'e', 'f',
  'g', 'h', 'i', 'j', 'k', 'l', 'm', 'n', 'o', 'p', 'q', 'r', 's', 't', 'u', 'v',
  'w', 'x', 'y', 'z', '0', '1', '2', '3', '4', '5', '6', '7', '8', '9', '+', '/']

/-- The symbols are all different. -/
theorem nodup_alphabet : alphabet.Nodup := by decide

/-- The character in a place of the alphabet is found in that place. -/
theorem idxOf_getD_alphabet {v : Nat} (hv : v < 64) :
    alphabet.getD v '=' ∈ alphabet ∧ alphabet.idxOf (alphabet.getD v '=') = v := by
  have hplace : v < alphabet.length := hv
  rw [List.getD_eq_getElem _ _ hplace]
  exact ⟨List.getElem_mem hplace, List.get_idxOf nodup_alphabet ⟨v, hplace⟩⟩

/-- A character of the alphabet is in the place in which it is found. -/
theorem getD_idxOf_alphabet {c : Char} (hc : c ∈ alphabet) :
    alphabet.idxOf c < 64 ∧ alphabet.getD (alphabet.idxOf c) '=' = c := by
  refine ⟨List.idxOf_lt_length_of_mem hc, ?_⟩
  rw [List.getD_eq_getElem?_getD, List.getElem?_idxOf hc, Option.getD_some]

/-- Characters of the alphabet are those in the places in which they are found. -/
theorem map_getD_map_idxOf {cs : List Char} (hcs : ∀ c ∈ cs, c ∈ alphabet) :
    (cs.map alphabet.idxOf).map (alphabet.getD · '=') = cs := by
  rw [List.map_map]
  exact (List.map_congr_left fun c hc => (getD_idxOf_alphabet (hcs c hc)).2).trans (List.map_id cs)

/-! ## Spellings -/

/-- The symbols with these numbers, and the padding behind them, have the bits of the bytes.  Each
character of padding stands for two bits to spare, and it completes the last four characters. -/
structure Carries (values : List Nat) (padding : Nat) (bytes : List UInt8) : Prop where
  small : ∀ v ∈ values, v < 64
  short : padding < 3
  complete : 4 ∣ values.length + padding
  bits_eq : bitsOf 6 values = byteBits bytes ++ List.replicate (2 * padding) 0

/-- The text is the standard base64 of the bytes. -/
def IsSpelling (bytes : List UInt8) (text : String) : Prop :=
  ∃ values padding, Carries values padding bytes ∧
    text.toList = values.map (alphabet.getD · '=') ++ List.replicate padding '='

/-- Symbols are counted by the bytes that they carry. -/
theorem Carries.length_eq {values : List Nat} {padding : Nat} {bytes : List UInt8}
    (h : Carries values padding bytes) : 6 * values.length = 8 * bytes.length + 2 * padding := by
  have hlength := congrArg List.length h.bits_eq
  rwa [length_bitsOf, byteBits, List.length_append, length_bitsOf, List.length_map,
    List.length_replicate] at hlength

/-- Bytes are carried in one way. -/
theorem Carries.unique {values values' : List Nat} {padding padding' : Nat} {bytes : List UInt8}
    (h : Carries values padding bytes) (h' : Carries values' padding' bytes) :
    values = values' ∧ padding = padding' := by
  have hlength := h.length_eq
  have hlength' := h'.length_eq
  have hshort := h.short
  have hshort' := h'.short
  have hcomplete := h.complete
  have hcomplete' := h'.complete
  -- the number of bytes fixes how much padding there is, and that the number of symbols
  obtain rfl : padding = padding' := by omega
  have hbits : bitsOf 6 values = bitsOf 6 values' := h.bits_eq.trans h'.bits_eq.symm
  exact ⟨bitsOf_inj (by omega) h.small h'.small hbits, rfl⟩

/-- Symbols with one character of padding behind them carry bytes just if the two lowest bits of the
last of them are zero. -/
theorem exists_carries_one_iff {front : List Nat} {last : Nat}
    (hsmall : ∀ v ∈ front ++ [last], v < 64) (hcomplete : 4 ∣ front.length + 2) :
    (∃ bytes, Carries (front ++ [last]) 1 bytes) ↔ last % 4 = 0 := by
  have hlast : bitsOf 6 (front ++ [last]) =
      (bitsOf 6 front ++ bits 4 (last / 4)) ++ bits 2 last := by
    rw [bitsOf_append, List.append_assoc]
    exact congrArg _ ((List.append_nil _).trans (bits_add 4 2 last))
  constructor
  · rintro ⟨bytes, h⟩
    have hspare : bits 2 last = bits 2 0 :=
      (List.append_inj' (hlast.symm.trans h.bits_eq) rfl).2
    exact mod_eq_of_bits_eq hspare
  · intro hspare
    -- what stands in front of the bits to spare can be cut into bytes
    have hbits : ∀ b ∈ bitsOf 6 front ++ bits 4 (last / 4), b < 2 := by
      intro b hb
      refine forall_mem_bitsOf_lt 6 (front ++ [last]) b ?_
      rw [hlast]
      exact List.mem_append_left _ hb
    have hlength : (bitsOf 6 front ++ bits 4 (last / 4)).length =
        8 * ((6 * front.length + 4) / 8) := by
      rw [List.length_append, length_bitsOf, length_bits]
      omega
    obtain ⟨ns, -, hbytes, hns⟩ := exists_bitsOf_eq hbits hlength
    have hmap : (ns.map UInt8.ofNat).map UInt8.toNat = ns := by
      rw [List.map_map]
      exact (List.map_congr_left fun n hn => UInt8.toNat_ofNat_of_lt' (hbytes n hn)).trans
        (List.map_id ns)
    refine ⟨ns.map UInt8.ofNat, hsmall, by decide, ?_, ?_⟩
    · rw [List.length_append, List.length_singleton]
      exact hcomplete
    · have hwhole : last = 2 ^ 2 * (last / 4) + 0 := by omega
      have hzeros : bits 2 last = bits 2 0 := by rw [hwhole, bits_mul_add]
      rw [byteBits, hmap, hns, hlast, hzeros]
      rfl

/-- What is written for bytes carries them. -/
theorem exists_carries_encodeBytes (bytes : List UInt8) :
    ∃ values padding, Carries values padding bytes ∧
      encodeBytes bytes = values.map symbolOf ++ List.replicate padding pad := by
  have hgroup {group : List UInt8} (hnonempty : group ≠ []) (hshort : group.length ≤ 3) :
      Carries (sixBits group) (3 - group.length) group := by
    have hpos := List.length_pos_of_ne_nil hnonempty
    have hpieces := length_sixBits hnonempty hshort
    exact ⟨sixBits_lt group, by omega, by omega, bitsOf_sixBits hnonempty hshort⟩
  fun_induction encodeBytes bytes with
  | case1 => exact ⟨[], 0, ⟨List.forall_mem_nil _, by decide, by decide, rfl⟩, rfl⟩
  | case2 x => exact ⟨sixBits [x], 2, hgroup (List.cons_ne_nil _ _) (by simp), rfl⟩
  | case3 x y => exact ⟨sixBits [x, y], 1, hgroup (List.cons_ne_nil _ _) (by simp), rfl⟩
  | case4 x y z rest ih =>
    obtain ⟨values, padding, hcarries, hwritten⟩ := ih
    have hfront : Carries (sixBits [x, y, z]) 0 [x, y, z] := hgroup (List.cons_ne_nil _ _) (by simp)
    refine ⟨sixBits [x, y, z] ++ values, padding, ⟨?_, hcarries.short, ?_, ?_⟩, ?_⟩
    · exact List.forall_mem_append.2 ⟨hfront.small, hcarries.small⟩
    · have hcomplete := hcarries.complete
      have hfour : (sixBits [x, y, z]).length = 4 := rfl
      rw [List.length_append, hfour]
      omega
    · have hbytes : byteBits (x :: y :: z :: rest) = byteBits [x, y, z] ++ byteBits rest :=
        bitsOf_append 8 [x.toNat, y.toNat, z.toNat] (rest.map UInt8.toNat)
      rw [bitsOf_append, hfront.bits_eq, hcarries.bits_eq, hbytes]
      simp
    · rw [hwritten, List.map_append, List.append_assoc]
      rfl

/-- The character of a symbol is in its place in the alphabet. -/
theorem charOfNat_symbolOf {v : Nat} (hv : v < 64) :
    Char.ofNat (symbolOf v).toNat = alphabet.getD v '=' := by
  have hall : ∀ v < 64, Char.ofNat (symbolOf v).toNat = alphabet.getD v '=' := by decide
  exact hall v hv

/-- What is written for bytes is their standard base64, and nothing else is. -/
theorem isSpelling_iff {bytes : List UInt8} {text : String} :
    IsSpelling bytes text ↔ encode bytes = text := by
  obtain ⟨values, padding, hcarries, hwritten⟩ := exists_carries_encodeBytes bytes
  have htext : (encode bytes).toList =
      values.map (alphabet.getD · '=') ++ List.replicate padding '=' := by
    rw [encode, String.toList_ofList, hwritten, List.map_append, List.map_map, List.map_replicate]
    congr 1
    exact List.map_congr_left fun v hv => charOfNat_symbolOf (hcarries.small v hv)
  constructor
  · rintro ⟨values', padding', hcarries', htext'⟩
    obtain ⟨rfl, rfl⟩ := hcarries.unique hcarries'
    rw [← String.toList_inj, htext, htext']
  · rintro rfl
    exact ⟨values, padding, hcarries, htext⟩

end BackupControl.Base64
