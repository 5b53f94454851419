/-
# The grammar of JSON texts

A value is spelled by its text with white space in front of its parts.  Whatever white space is
chosen, a text is read as the value that it spells, so texts with different layouts denote one
value.
-/
import BackupControl.Proofs.Json.Leaves

namespace BackupControl.Json

/-! ## White space -/

/-- Nothing but white space. -/
def Blank (cs : List Char) : Prop := ∀ c ∈ cs, isSpace c = true

theorem blank_nil : Blank [] := List.forall_mem_nil _

/-- White space is skipped. -/
theorem skipSpace_append {space : List Char} (h : Blank space) (rest : List Char) :
    skipSpace (space ++ rest) = skipSpace rest :=
  List.dropWhile_append_of_pos h

/-- What is no white space is not skipped. -/
theorem skipSpace_cons {c : Char} (h : isSpace c = false) (cs : List Char) :
    skipSpace (c :: cs) = c :: cs :=
  List.dropWhile_cons_of_neg (by rw [h]; exact Bool.false_ne_true)

/-! ## Texts -/

/-- What a piece of text stands for: a value, the items of an array, or the members of an
object. -/
inductive Part where
  | value (v : Json)
  | items (vs : List Json)
  | members (ms : List (String × Json))

/-- The texts of a part. -/
inductive Spells : Part → List Char → Prop where
  | null : Spells (.value .null) "null".toList
  | bool (b : Bool) : Spells (.value (.bool b)) (if b then "true" else "false").toList
  | int (n : Int) : Spells (.value (.int n)) n.repr.toList
  | real {x : Binary64} (h : x.isFinite = true) : Spells (.value (.real x)) (writeReal x)
  | str (s : String) : Spells (.value (.str s)) (writeString s)
  | noItems : Spells (.value (.arr [])) ['[', ']']
  | array {vs : List Json} {text space : List Char} (h : Spells (.items vs) text)
      (hspace : Blank space) : Spells (.value (.arr vs)) ('[' :: (text ++ (space ++ [']'])))
  | noMembers : Spells (.value (.obj [])) ['\x7b', '\x7d']
  | object {ms : List (String × Json)} {text space : List Char} (h : Spells (.members ms) text)
      (hspace : Blank space) : Spells (.value (.obj ms)) ('\x7b' :: (text ++ (space ++ ['\x7d'])))
  | lastItem {v : Json} {space text : List Char} (hspace : Blank space)
      (h : Spells (.value v) text) : Spells (.items [v]) (space ++ text)
  | item {v : Json} {vs : List Json} {space text rest : List Char} (hspace : Blank space)
      (h : Spells (.value v) text) (hrest : Spells (.items vs) rest) :
      Spells (.items (v :: vs)) (space ++ (text ++ ',' :: rest))
  | lastMember {k : String} {v : Json} {space colon text : List Char} (hspace : Blank space)
      (hcolon : Blank colon) (h : Spells (.value v) text) :
      Spells (.members [(k, v)]) (space ++ (writeString k ++ ':' :: (colon ++ text)))
  | member {k : String} {v : Json} {ms : List (String × Json)}
      {space colon text rest : List Char} (hspace : Blank space) (hcolon : Blank colon)
      (h : Spells (.value v) text) (hrest : Spells (.members ms) rest) :
      Spells (.members ((k, v) :: ms))
        (space ++ (writeString k ++ ':' :: (colon ++ (text ++ ',' :: rest))))

/-! ## Where a part starts and where it ends -/

/-- The character can be the first of a part. -/
def StartsPart (c : Char) : Prop := isSpace c = false ∧ c ≠ ']' ∧ c ≠ '\x7d'

instance (c : Char) : Decidable (StartsPart c) :=
  inferInstanceAs (Decidable (_ ∧ _ ∧ _))

/-- A character of a number is no white space and closes nothing. -/
theorem startsPart_of_isNumberChar {c : Char} (h : isNumberChar c = true) : StartsPart c := by
  refine ⟨?_, ?_, ?_⟩
  · by_contra hspace
    rw [Bool.not_eq_false, isSpace] at hspace
    obtain rfl | rfl | rfl | rfl : c = ' ' ∨ c = '\n' ∨ c = '\t' ∨ c = '\r' := by
      simpa [or_assoc] using hspace
    all_goals exact absurd h (by decide)
  all_goals
    rintro rfl
    exact absurd h (by decide)

/-- No number goes on in the rest of a text. -/
def EndsNumber (rest : List Char) : Prop := ∀ c ∈ rest.head?, isNumberChar c = false

/-- White space ends a number, and so does a mark. -/
theorem endsNumber_append {space : List Char} {c : Char} (hspace : Blank space)
    (hc : isNumberChar c = false) (rest : List Char) : EndsNumber (space ++ c :: rest) := by
  intro d hd
  cases space with
  | nil =>
    obtain rfl : c = d := Option.some.inj hd
    exact hc
  | cons s space =>
    obtain rfl : s = d := Option.some.inj hd
    by_contra hnumber
    rw [Bool.not_eq_false] at hnumber
    have hs := hspace s List.mem_cons_self
    rw [(startsPart_of_isNumberChar hnumber).1] at hs
    exact absurd hs Bool.false_ne_true

namespace EndsNumber

variable {rest : List Char}

theorem takeWhile_eq (h : EndsNumber rest) : rest.takeWhile isNumberChar = [] := by
  cases rest with
  | nil => rfl
  | cons c rest => rw [List.takeWhile_cons, h c rfl, if_neg Bool.false_ne_true]

theorem dropWhile_eq (h : EndsNumber rest) : rest.dropWhile isNumberChar = rest := by
  cases rest with
  | nil => rfl
  | cons c rest => rw [List.dropWhile_cons, h c rfl, if_neg Bool.false_ne_true]

end EndsNumber

/-- The characters of a number. -/
def IsToken (token : List Char) : Prop := token ≠ [] ∧ ∀ c ∈ token, isNumberChar c = true

/-- The characters of a number with its sign. -/
theorem isToken_signed {digits : List Char} (h : ProperFront digits)
    (hdigits : ∀ c ∈ digits, c.isDigit = true ∨ c ∈ ['.', 'e', '+', '-']) (negative : Bool) :
    IsToken (signed negative digits) := by
  have hne : digits ≠ [] := by cases h <;> exact List.cons_ne_nil _ _
  have hall : ∀ c ∈ digits, isNumberChar c = true := fun c hc => isNumberChar_of (hdigits c hc)
  cases negative with
  | true => exact ⟨List.cons_ne_nil _ _, List.forall_mem_cons.2 ⟨rfl, hall⟩⟩
  | false => exact ⟨hne, hall⟩

theorem isToken_repr (n : Int) : IsToken n.repr.toList := by
  rw [repr_eq_signed]
  exact isToken_signed (properFront_toDigits _)
    (fun c hc => .inl ((isDigits_toDigits _).1.digits c hc)) _

theorem isToken_writeReal {x : Binary64} (h : x.isFinite = true) : IsToken (writeReal x) := by
  obtain ⟨digits, htext, hfront, -, hdigits, -⟩ := exists_writeReal_eq h
  rw [htext]
  exact isToken_signed hfront hdigits _

/-- White space, and then a character that can be the first of a part. -/
def Starts (text : List Char) : Prop :=
  ∃ space c cs, text = space ++ c :: cs ∧ Blank space ∧ StartsPart c

theorem starts_cons {c : Char} (hc : StartsPart c) (cs : List Char) : Starts (c :: cs) :=
  ⟨[], c, cs, rfl, blank_nil, hc⟩

theorem IsToken.starts {token : List Char} (h : IsToken token) : Starts token := by
  obtain ⟨c, cs, rfl⟩ := List.exists_cons_of_ne_nil h.1
  exact starts_cons (startsPart_of_isNumberChar (h.2 c List.mem_cons_self)) cs

theorem starts_writeString (s : String) : Starts (writeString s) :=
  starts_cons (c := '"') (by decide) _

namespace Starts

variable {text : List Char}

theorem append_right (h : Starts text) (rest : List Char) : Starts (text ++ rest) := by
  obtain ⟨space, c, cs, rfl, hspace, hc⟩ := h
  exact ⟨space, c, cs ++ rest, List.append_assoc _ _ _, hspace, hc⟩

theorem append_left {space : List Char} (h : Starts text) (hspace : Blank space) :
    Starts (space ++ text) := by
  obtain ⟨inner, c, cs, rfl, hinner, hc⟩ := h
  exact ⟨space ++ inner, c, cs, (List.append_assoc _ _ _).symm,
    List.forall_mem_append.2 ⟨hspace, hinner⟩, hc⟩

end Starts

/-- A part starts with a character that closes nothing. -/
theorem Spells.starts {p : Part} {text : List Char} (h : Spells p text) : Starts text := by
  induction h with
  | null => exact starts_cons (c := 'n') (by decide) _
  | bool b =>
    cases b with
    | false => exact starts_cons (c := 'f') (by decide) _
    | true => exact starts_cons (c := 't') (by decide) _
  | int n => exact (isToken_repr n).starts
  | real h => exact (isToken_writeReal h).starts
  | str s => exact starts_writeString s
  | noItems => exact starts_cons (by decide) _
  | array h hspace ih => exact starts_cons (by decide) _
  | noMembers => exact starts_cons (by decide) _
  | object h hspace ih => exact starts_cons (by decide) _
  | lastItem hspace h ih => exact ih.append_left hspace
  | item hspace h hrest ih _ => exact (ih.append_right _).append_left hspace
  | lastMember hspace hcolon h ih =>
    exact ((starts_writeString _).append_right _).append_left hspace
  | member hspace hcolon h hrest ih _ =>
    exact ((starts_writeString _).append_right _).append_left hspace

/-! ## Reading values -/

section Reading

variable {rounding : Rounding} {fuel : Nat} {cs : List Char}

/-- White space in front of a value is skipped. -/
theorem readValue?_append {space : List Char} (h : Blank space) (fuel : Nat) (cs : List Char) :
    readValue? rounding fuel (space ++ cs) = readValue? rounding fuel cs := by
  cases fuel with
  | zero => rfl
  | succ fuel => rw [readValue?, readValue?, skipSpace_append h]

theorem readItems?_append {space : List Char} (h : Blank space) (fuel : Nat) (cs : List Char) :
    readItems? rounding fuel (space ++ cs) = readItems? rounding fuel cs := by
  cases fuel with
  | zero => rfl
  | succ fuel => rw [readItems?, readItems?, readValue?_append h]

theorem readMembers?_append {space : List Char} (h : Blank space) (fuel : Nat) (cs : List Char) :
    readMembers? rounding fuel (space ++ cs) = readMembers? rounding fuel cs := by
  cases fuel with
  | zero => rfl
  | succ fuel => rw [readMembers?, readMembers?, skipSpace_append h]

/-- A number is read up to a character that no number has. -/
theorem readValue?_token {token rest : List Char} {v : Json} (htoken : IsToken token)
    (hv : number? rounding token = some v) (hrest : EndsNumber rest) :
    readValue? rounding (fuel + 1) (token ++ rest) = some (v, rest) := by
  obtain ⟨c, cs, rfl⟩ := List.exists_cons_of_ne_nil htoken.1
  have hc : isNumberChar c = true := htoken.2 c List.mem_cons_self
  have hskip : skipSpace (c :: cs ++ rest) = c :: cs ++ rest :=
    skipSpace_cons (startsPart_of_isNumberChar hc).1 _
  have htake : (c :: cs ++ rest).takeWhile isNumberChar = c :: cs := by
    rw [List.takeWhile_append_of_pos htoken.2, hrest.takeWhile_eq, List.append_nil]
  have hdrop : (c :: cs ++ rest).dropWhile isNumberChar = rest := by
    rw [List.dropWhile_append_of_pos htoken.2, hrest.dropWhile_eq]
  -- none of the other values starts with a character of a number
  have hother : ∀ {d : Char} {ds : List Char}, isNumberChar d = false →
      c :: cs ++ rest ≠ d :: ds := by
    intro d ds hd heq
    rw [(List.cons.inj heq).1, hd] at hc
    exact absurd hc Bool.false_ne_true
  rw [readValue?, hskip]
  split
  case h_7 => rw [htake, hdrop, hv, Option.map_some]
  all_goals
    rename_i heq
    exact absurd heq (hother rfl)

/-- A string starts with its quote. -/
theorem skipSpace_writeString (s : String) (rest : List Char) :
    skipSpace (writeString s ++ rest) = '"' :: (s.toList.flatMap escape ++ '"' :: rest) := by
  rw [writeString, List.cons_append, List.cons_append, List.append_assoc, List.singleton_append,
    skipSpace_cons rfl]

/-- A string is read up to its closing quote. -/
theorem readValue?_writeString (s : String) (rest : List Char) :
    readValue? rounding (fuel + 1) (writeString s ++ rest) = some (.str s, rest) := by
  simp only [readValue?, skipSpace_writeString, readString?_writeString, Option.map_some]

/-- An array with items is read as they are. -/
theorem readValue?_array {text rest : List Char} {vs : List Json} (h : Starts text)
    (hvs : readItems? rounding fuel text = some (vs, rest)) :
    readValue? rounding (fuel + 1) ('[' :: text) = some (.arr vs, rest) := by
  obtain ⟨space, c, cs, rfl, hspace, hc⟩ := h
  rw [readItems?_append hspace] at hvs
  have hbracket : skipSpace ('[' :: (space ++ c :: cs)) = '[' :: (space ++ c :: cs) :=
    skipSpace_cons rfl _
  simp only [readValue?, hbracket, skipSpace_append hspace, skipSpace_cons hc.1]
  split
  · rename_i heq
    exact absurd (List.cons.inj heq).1 hc.2.1
  · rw [hvs, Option.map_some]

/-- An object with members is read as they are. -/
theorem readValue?_object {text rest : List Char} {ms : List (String × Json)} (h : Starts text)
    (hms : readMembers? rounding fuel text = some (ms, rest)) :
    readValue? rounding (fuel + 1) ('\x7b' :: text) = some (.obj ms, rest) := by
  obtain ⟨space, c, cs, rfl, hspace, hc⟩ := h
  rw [readMembers?_append hspace] at hms
  have hbrace : skipSpace ('\x7b' :: (space ++ c :: cs)) = '\x7b' :: (space ++ c :: cs) :=
    skipSpace_cons rfl _
  simp only [readValue?, hbrace, skipSpace_append hspace, skipSpace_cons hc.1]
  split
  · rename_i heq
    exact absurd (List.cons.inj heq).1 hc.2.2
  · rw [hms, Option.map_some]

/-- The closing bracket ends the items. -/
theorem readItems?_close {v : Json} {space rest : List Char} (hspace : Blank space)
    (hv : readValue? rounding fuel cs = some (v, space ++ ']' :: rest)) :
    readItems? rounding (fuel + 1) cs = some ([v], rest) := by
  have hbracket : skipSpace (space ++ ']' :: rest) = ']' :: rest := by
    rw [skipSpace_append hspace, skipSpace_cons rfl]
  simp only [readItems?, hv, hbracket]

/-- A comma stands between two items. -/
theorem readItems?_comma {v : Json} {vs : List Json} {next rest : List Char}
    (hv : readValue? rounding fuel cs = some (v, ',' :: next))
    (hvs : readItems? rounding fuel next = some (vs, rest)) :
    readItems? rounding (fuel + 1) cs = some (v :: vs, rest) := by
  have hcomma : skipSpace (',' :: next) = ',' :: next := skipSpace_cons rfl next
  simp only [readItems?, hv, hcomma, hvs, Option.map_some]

/-- The closing brace ends the members. -/
theorem readMembers?_close {v : Json} {space rest : List Char} (k : String)
    (hspace : Blank space)
    (hv : readValue? rounding fuel cs = some (v, space ++ '\x7d' :: rest)) :
    readMembers? rounding (fuel + 1) (writeString k ++ ':' :: cs) = some ([(k, v)], rest) := by
  have hcolon : skipSpace (':' :: cs) = ':' :: cs := skipSpace_cons rfl cs
  have hbrace : skipSpace (space ++ '\x7d' :: rest) = '\x7d' :: rest := by
    rw [skipSpace_append hspace, skipSpace_cons rfl]
  simp only [readMembers?, skipSpace_writeString, readString?_writeString, hcolon, hv, hbrace]

/-- A comma stands between two members. -/
theorem readMembers?_comma {v : Json} {ms : List (String × Json)} {next rest : List Char}
    (k : String) (hv : readValue? rounding fuel cs = some (v, ',' :: next))
    (hms : readMembers? rounding fuel next = some (ms, rest)) :
    readMembers? rounding (fuel + 1) (writeString k ++ ':' :: cs) =
      some ((k, v) :: ms, rest) := by
  have hcolon : skipSpace (':' :: cs) = ':' :: cs := skipSpace_cons rfl cs
  have hcomma : skipSpace (',' :: next) = ',' :: next := skipSpace_cons rfl next
  simp only [readMembers?, skipSpace_writeString, readString?_writeString, hcolon, hv, hcomma, hms,
    Option.map_some]

end Reading

/-! ## Every text is read as what it spells -/

/-- The part is read from its text when more text follows.  A value ends where no number goes on;
items and members go on to the mark that closes them, which uses up one more level. -/
def ReadsBack : Part → List Char → Prop
  | .value v, text => ∀ (fuel : Nat) {rest : List Char}, text.length < fuel → EndsNumber rest →
      readValue? readMagnitude? fuel (text ++ rest) = some (v, rest)
  | .items vs, text => ∀ (fuel : Nat) {space : List Char} (rest : List Char),
      text.length + 1 < fuel → Blank space →
      readItems? readMagnitude? fuel (text ++ (space ++ ']' :: rest)) = some (vs, rest)
  | .members ms, text => ∀ (fuel : Nat) {space : List Char} (rest : List Char),
      text.length + 1 < fuel → Blank space →
      readMembers? readMagnitude? fuel (text ++ (space ++ '\x7d' :: rest)) = some (ms, rest)

/-- A value that is read at every depth is read back. -/
theorem readsBack_leaf {v : Json} {text : List Char}
    (h : ∀ (fuel : Nat) {rest : List Char}, EndsNumber rest →
      readValue? readMagnitude? (fuel + 1) (text ++ rest) = some (v, rest)) :
    ReadsBack (.value v) text := by
  intro fuel rest hfuel hrest
  obtain ⟨fuel, rfl⟩ := Nat.exists_eq_succ_of_ne_zero (Nat.ne_zero_of_lt hfuel)
  exact h fuel hrest

/-- Every part is read from every text that spells it. -/
theorem Spells.readsBack {p : Part} {text : List Char} (h : Spells p text) : ReadsBack p text := by
  induction h with
  | null => exact readsBack_leaf fun _ _ _ => rfl
  | bool b => cases b <;> exact readsBack_leaf fun _ _ _ => rfl
  | int n =>
    exact readsBack_leaf fun _ _ hrest => readValue?_token (isToken_repr n) (number?_repr _ n) hrest
  | real h =>
    exact readsBack_leaf fun _ _ hrest =>
      readValue?_token (isToken_writeReal h) (number?_writeReal h) hrest
  | str s => exact readsBack_leaf fun _ rest _ => readValue?_writeString s rest
  | noItems => exact readsBack_leaf fun _ _ _ => rfl
  | noMembers => exact readsBack_leaf fun _ _ _ => rfl
  | @array vs text space hitems hspace ih =>
    intro fuel rest hfuel _
    obtain ⟨fuel, rfl⟩ := Nat.exists_eq_succ_of_ne_zero (Nat.ne_zero_of_lt hfuel)
    simp only [List.length_cons, List.length_append] at hfuel
    simp only [List.cons_append, List.append_assoc, List.nil_append]
    exact readValue?_array (hitems.starts.append_right _) (ih fuel rest (by omega) hspace)
  | @object ms text space hmembers hspace ih =>
    intro fuel rest hfuel _
    obtain ⟨fuel, rfl⟩ := Nat.exists_eq_succ_of_ne_zero (Nat.ne_zero_of_lt hfuel)
    simp only [List.length_cons, List.length_append] at hfuel
    simp only [List.cons_append, List.append_assoc, List.nil_append]
    exact readValue?_object (hmembers.starts.append_right _) (ih fuel rest (by omega) hspace)
  | @lastItem v space text hspace hv ih =>
    intro fuel after rest hfuel hafter
    obtain ⟨fuel, rfl⟩ := Nat.exists_eq_succ_of_ne_zero (Nat.ne_zero_of_lt hfuel)
    rw [List.length_append] at hfuel
    rw [List.append_assoc, readItems?_append hspace]
    exact readItems?_close hafter (ih fuel (by omega) (endsNumber_append hafter rfl rest))
  | @item v vs space text next hspace hv hvs ih ihs =>
    intro fuel after rest hfuel hafter
    obtain ⟨fuel, rfl⟩ := Nat.exists_eq_succ_of_ne_zero (Nat.ne_zero_of_lt hfuel)
    simp only [List.length_cons, List.length_append] at hfuel
    simp only [List.append_assoc, List.cons_append]
    rw [readItems?_append hspace]
    exact readItems?_comma (ih fuel (by omega) (endsNumber_append blank_nil rfl _))
      (ihs fuel rest (by omega) hafter)
  | @lastMember k v space colon text hspace hcolon hv ih =>
    intro fuel after rest hfuel hafter
    obtain ⟨fuel, rfl⟩ := Nat.exists_eq_succ_of_ne_zero (Nat.ne_zero_of_lt hfuel)
    simp only [List.length_cons, List.length_append] at hfuel
    simp only [List.append_assoc, List.cons_append]
    rw [readMembers?_append hspace]
    refine readMembers?_close k hafter ?_
    rw [readValue?_append hcolon]
    exact ih fuel (by omega) (endsNumber_append hafter rfl rest)
  | @member k v ms space colon text next hspace hcolon hv hms ih ihs =>
    intro fuel after rest hfuel hafter
    obtain ⟨fuel, rfl⟩ := Nat.exists_eq_succ_of_ne_zero (Nat.ne_zero_of_lt hfuel)
    simp only [List.length_cons, List.length_append] at hfuel
    simp only [List.append_assoc, List.cons_append]
    rw [readMembers?_append hspace]
    refine readMembers?_comma k ?_ (ihs fuel rest (by omega) hafter)
    rw [readValue?_append hcolon]
    exact ih fuel (by omega) (endsNumber_append blank_nil rfl _)

/-- A text denotes the value that it spells. -/
theorem Spells.ofText?_eq {v : Json} {text : List Char} (h : Spells (.value v) text) :
    ofText? (String.ofList text) = some v := by
  have hread : readValue? readMagnitude? (text.length + 1) (text ++ []) = some (v, []) :=
    h.readsBack (text.length + 1) (Nat.lt_succ_self _) nofun
  rw [List.append_nil] at hread
  rw [ofText?, readWith?, String.toList_ofList, hread]
  rfl

end BackupControl.Json
