import Mathlib.Tactic.IntervalCases
import StreamSource.Json.Printer
import StreamSource.Json.Reader
import StreamSource.Proofs.Text.Numeral

/-! Reading back compact JSON. A reader of a part that meets a written part gives back what was
written and leaves the rest, whatever the rest is; only a number needs a rest that does not go
on with it. So a whole text reads as the value that it was written for. Numbers with a point or
an exponent are left out, since values keep their numerals as they are. -/

namespace StreamSource.Json

open Text (showInt integer? integer?_showInt isDigit_of_mem_toDigits)

/-! ### Texts -/

theorem unicodeEscape?_hexDigits {n : Nat} (hn : n < 0x20) (r : List Char) :
    unicodeEscape? (hexDigits 4 n ++ r) = some (Char.ofNat n, r) := by
  interval_cases n <;> rfl

theorem textBody?_escape (fuel : Nat) (c : Char) (r : List Char) :
    textBody? (fuel + 1) (escape c ++ r) =
      (textBody? fuel r).map fun p => (c :: p.1, p.2) := by
  unfold escape
  split_ifs with hquote hback hb hf hn hr ht hcontrol
  iterate 7 subst c; cases hrest : textBody? fuel r <;> simp [textBody?, shortEscape?, hrest]
  · have hread := unicodeEscape?_hexDigits hcontrol r
    rw [Char.ofNat_toNat] at hread
    cases hrest : textBody? fuel r <;> simp [textBody?, hread, hrest]
  · have hprintable : 0x20 ≤ c.toNat := Nat.le_of_not_lt hcontrol
    cases hrest : textBody? fuel r <;> simp [textBody?, hback, hprintable, hrest]

theorem textBody?_flatMap_escape (s : List Char) {fuel : Nat} (hfuel : s.length < fuel)
    (r : List Char) : textBody? fuel (s.flatMap escape ++ '"' :: r) = some (s, r) := by
  induction s generalizing fuel with
  | nil =>
    obtain ⟨fuel, rfl⟩ := Nat.exists_eq_add_of_lt hfuel
    rfl
  | cons c s ih =>
    obtain ⟨fuel, rfl⟩ : ∃ k, fuel = k + 1 := ⟨fuel - 1, by omega⟩
    rw [List.flatMap_cons, List.append_assoc, textBody?_escape,
      ih (Nat.lt_of_succ_lt_succ hfuel)]
    rfl

theorem length_le_flatMap_escape (s : List Char) : s.length ≤ (s.flatMap escape).length := by
  induction s with
  | nil => exact Nat.le_refl 0
  | cons c s ih =>
    have hc : 1 ≤ (escape c).length := by
      unfold escape
      split_ifs <;> simp
    rw [List.flatMap_cons, List.length_append, List.length_cons]
    omega

theorem text?_textChars (s : String) (r : List Char) :
    text? (textChars s ++ r) = some (s, r) := by
  have hlength := length_le_flatMap_escape s.toList
  unfold textChars text?
  simp only [List.cons_append, List.append_assoc, List.nil_append]
  rw [textBody?_flatMap_escape s.toList, Option.map_some, String.ofList_toList]
  rw [List.length_cons, List.length_append]
  omega

/-! ### Numbers -/

/-- What may follow a value: a comma, a closing bracket or brace, or nothing. -/
def Ends (r : List Char) : Prop := ∀ c ∈ r.head?, c = ',' ∨ c = ']' ∨ c = '\x7d'

theorem ends_nil : Ends [] := by simp [Ends]

theorem spanDigits_append {ds r : List Char} (hds : ∀ c ∈ ds, c.isDigit = true) (hr : Ends r) :
    spanDigits (ds ++ r) = (ds, r) := by
  have hrest : r.takeWhile Char.isDigit = [] ∧ r.dropWhile Char.isDigit = r := by
    cases r with
    | nil => exact ⟨rfl, rfl⟩
    | cons c r => obtain rfl | rfl | rfl := hr c rfl <;> exact ⟨rfl, rfl⟩
  rw [spanDigits, List.takeWhile_append_of_pos hds, List.dropWhile_append_of_pos hds, hrest.1,
    hrest.2, List.append_nil]

theorem fraction?_of_ends {r : List Char} (hr : Ends r) : fraction? r = some ([], r) := by
  cases r with
  | nil => rfl
  | cons c r => obtain rfl | rfl | rfl := hr c rfl <;> rfl

theorem exponent?_of_ends {r : List Char} (hr : Ends r) : exponent? r = some ([], r) := by
  cases r with
  | nil => rfl
  | cons c r => obtain rfl | rfl | rfl := hr c rfl <;> rfl

/-- Only zero is written with a leading zero, so no written number is refused for one. -/
theorem whole_toDigits (n : Nat) :
    ((Nat.toDigits 10 n).isEmpty || ((Nat.toDigits 10 n).head? = some '0' &&
      1 < (Nat.toDigits 10 n).length)) = false := by
  rw [Bool.or_eq_false_iff, List.isEmpty_eq_false_iff, Bool.and_eq_false_iff]
  refine ⟨Nat.toDigits_ne_nil, ?_⟩
  by_cases hn : n = 0
  · exact .inr (by rw [hn]; rfl)
  · exact .inl (decide_eq_false fun h => hn (Text.eq_zero_of_head?_toDigits h))

/-- A sign or none and the digits of a number, which are no written form of minus zero. -/
theorem number?_append (sign : List Char) (n : Nat) {r : List Char}
    (hsign : (if (sign ++ (Nat.toDigits 10 n ++ r)).head? = some '-' then ['-'] else []) = sign)
    (hzero : sign ++ Nat.toDigits 10 n ≠ ['-', '0']) (hr : Ends r) :
    number? (sign ++ (Nat.toDigits 10 n ++ r)) =
      (integer? (sign ++ Nat.toDigits 10 n)).map fun k => (.integer k, r) := by
  have hspan := spanDigits_append (fun c => isDigit_of_mem_toDigits (n := n)) hr
  unfold number?
  rw [hsign]
  simp only [List.drop_left, hspan, whole_toDigits, fraction?_of_ends hr, exponent?_of_ends hr,
    Bool.false_eq_true, if_false, Option.bind_eq_bind, Option.bind_some]
  rw [if_pos (by simpa using hzero)]
  cases integer? (sign ++ Nat.toDigits 10 n) <;> rfl

theorem number?_showInt (n : Int) {r : List Char} (hr : Ends r) :
    number? ((showInt n).toList ++ r) = some (.integer n, r) := by
  have hread := integer?_showInt n
  cases n with
  | ofNat n =>
    rw [Int.ofNat_eq_natCast, Text.toList_showInt_natCast] at hread ⊢
    obtain ⟨c, ds, hds, hc⟩ := Text.exists_toDigits_eq_cons n
    have hminus : c ≠ '-' := by
      rintro rfl
      exact absurd hc (by decide)
    have hnumber := number?_append [] n
      (by simp [hds, hminus]) (by simp [hds, hminus]) hr
    rw [List.nil_append, List.nil_append, hread] at hnumber
    exact hnumber
  | negSucc n =>
    rw [Text.toList_showInt_negSucc] at hread ⊢
    have hzero : Nat.toDigits 10 (n + 1) ≠ ['0'] := fun h =>
      absurd (Text.eq_zero_of_head?_toDigits (congrArg List.head? h)) (Nat.succ_ne_zero n)
    have hnumber := number?_append ['-'] (n + 1) rfl
      (by simpa using hzero) hr
    rw [List.singleton_append, List.singleton_append, hread] at hnumber
    exact hnumber

/-! ### Values -/

mutual

/-- No number with a point or an exponent stands in the value. -/
def IsWhole : Json → Prop
  | .array items => AreWhole items
  | .object members => HaveWhole members
  | .real _ => False
  | .null | .boolean _ | .integer _ | .text _ => True

def AreWhole : List Json → Prop
  | [] => True
  | j :: js => IsWhole j ∧ AreWhole js

def HaveWhole : List (String × Json) → Prop
  | [] => True
  | (_, j) :: ms => IsWhole j ∧ HaveWhole ms

end

theorem skipSpace_cons {c : Char} (hc : isSpace c = false) (r : List Char) :
    skipSpace (c :: r) = c :: r :=
  List.dropWhile_cons_of_neg (by simp [hc])

theorem skipSpace_textChars (s : String) (r : List Char) :
    skipSpace (textChars s ++ r) = textChars s ++ r := rfl

theorem ends_cons {c : Char} (hc : c = ',' ∨ c = ']' ∨ c = '\x7d') (r : List Char) :
    Ends (c :: r) := by
  rintro d hd
  cases hd
  exact hc

/-- The first characters of written numbers. -/
def StartsNumber (c : Char) : Prop := c.isDigit = true ∨ c = '-'

instance (c : Char) : Decidable (StartsNumber c) := inferInstanceAs (Decidable (_ ∨ _))

theorem StartsNumber.isSpace_eq_false {c : Char} (hc : StartsNumber c) : isSpace c = false := by
  rw [Bool.eq_false_iff]
  intro h
  simp only [isSpace, Bool.or_eq_true, decide_eq_true_eq] at h
  obtain ((rfl | rfl) | rfl) | rfl := h <;> exact absurd hc (by decide)

theorem value?_of_startsNumber {c : Char} (hc : StartsNumber c) (fuel : Nat) (r : List Char) :
    value? (fuel + 1) (c :: r) = number? (c :: r) := by
  unfold value?
  rw [skipSpace_cons hc.isSpace_eq_false]
  split
  case h_7 => rfl
  all_goals
    rename_i heq
    cases heq
    exact absurd hc (by decide)

theorem exists_showInt_eq_cons (n : Int) :
    ∃ c ds, (showInt n).toList = c :: ds ∧ StartsNumber c := by
  cases n with
  | ofNat n =>
    obtain ⟨c, ds, hds, hc⟩ := Text.exists_toDigits_eq_cons n
    exact ⟨c, ds, (Text.toList_showInt_natCast n).trans hds, .inl hc⟩
  | negSucc n => exact ⟨'-', _, Text.toList_showInt_negSucc n, .inr rfl⟩

theorem value?_showInt (n : Int) (fuel : Nat) {r : List Char} (hr : Ends r) :
    value? (fuel + 1) ((showInt n).toList ++ r) = some (.integer n, r) := by
  have hnumber := number?_showInt n hr
  obtain ⟨c, ds, hds, hc⟩ := exists_showInt_eq_cons n
  rw [hds] at hnumber ⊢
  exact (value?_of_startsNumber hc fuel (ds ++ r)).trans hnumber

theorem value?_textChars (s : String) (fuel : Nat) (r : List Char) :
    value? (fuel + 1) (textChars s ++ r) = some (.text s, r) := by
  have hvalue : value? (fuel + 1) (textChars s ++ r) =
      (text? (textChars s ++ r)).map fun p => (.text p.1, p.2) := rfl
  rw [hvalue, text?_textChars]
  rfl

/-- A written value starts neither with a blank nor with a closing bracket. -/
theorem exists_compactChars_eq_cons {j : Json} (hj : j.IsWhole) :
    ∃ c cs, compactChars j = c :: cs ∧ isSpace c = false ∧ c ≠ ']' := by
  cases j with
  | null => exact ⟨_, _, rfl, by decide⟩
  | boolean b => cases b <;> exact ⟨_, _, rfl, by decide⟩
  | integer n =>
    obtain ⟨c, ds, hds, hc⟩ := exists_showInt_eq_cons n
    refine ⟨c, ds, hds, hc.isSpace_eq_false, ?_⟩
    rintro rfl
    exact absurd hc (by decide)
  | real cs => cases hj
  | text s => exact ⟨_, _, rfl, by decide⟩
  | array items => exact ⟨_, _, rfl, by decide⟩
  | object members => exact ⟨_, _, rfl, by decide⟩

theorem compactItems_cons_cons (j k : Json) (js : List Json) :
    compactItems (j :: k :: js) = compactChars j ++ ',' :: compactItems (k :: js) := rfl

theorem compactMembers_cons_cons (k : String) (j : Json) (m : String × Json)
    (ms : List (String × Json)) :
    compactMembers ((k, j) :: m :: ms) =
      textChars k ++ ':' :: compactChars j ++ ',' :: compactMembers (m :: ms) := rfl

theorem exists_compactItems_eq_cons {j : Json} (hj : j.IsWhole) (js : List Json) :
    ∃ c cs, compactItems (j :: js) = c :: cs ∧ isSpace c = false ∧ c ≠ ']' := by
  obtain ⟨c, cs, hcs, hc⟩ := exists_compactChars_eq_cons hj
  cases js with
  | nil => exact ⟨c, cs, hcs, hc⟩
  | cons k js =>
    rw [compactItems_cons_cons, hcs]
    exact ⟨c, _, rfl, hc⟩

theorem exists_compactMembers_eq_cons (k : String) (j : Json) (ms : List (String × Json)) :
    ∃ cs, compactMembers ((k, j) :: ms) = '"' :: cs := by
  cases ms with
  | nil => exact ⟨_, rfl⟩
  | cons m ms => exact ⟨_, rfl⟩

theorem value?_bracket {c : Char} (hc : isSpace c = false ∧ c ≠ ']') (fuel : Nat)
    (r : List Char) :
    value? (fuel + 1) ('[' :: c :: r) =
      (items? fuel (c :: r)).map fun p => (.array p.1, p.2) := by
  unfold value?
  rw [skipSpace_cons (by decide)]
  simp only [skipSpace_cons hc.1]
  split
  · rename_i heq
    cases heq
    exact absurd rfl hc.2
  · rfl

theorem value?_brace (fuel : Nat) (r : List Char) :
    value? (fuel + 1) ('\x7b' :: '"' :: r) =
      (members? fuel ('"' :: r)).map fun p => (.object p.1, p.2) := rfl

mutual

theorem value?_compactChars : ∀ (j : Json), j.IsWhole → ∀ (fuel : Nat) (r : List Char),
    2 * (compactChars j).length ≤ fuel → Ends r →
      value? fuel (compactChars j ++ r) = some (j, r)
  | .null, _, fuel + 1, r, _, _ => rfl
  | .boolean true, _, fuel + 1, r, _, _ => rfl
  | .boolean false, _, fuel + 1, r, _, _ => rfl
  | .integer n, _, fuel + 1, r, _, hr => value?_showInt n fuel hr
  | .text s, _, fuel + 1, r, _, _ => value?_textChars s fuel r
  | .array [], _, fuel + 1, r, _, _ => rfl
  | .array (j :: js), hj, fuel + 1, r, hfuel, _ => by
    simp only [compactChars, List.length_cons, List.length_append, List.length_nil] at hfuel
    have hitems := items?_compactItems j js hj fuel r (by omega)
    obtain ⟨c, cs, hcs, hc⟩ := exists_compactItems_eq_cons hj.1 js
    rw [compactChars]
    simp only [List.cons_append, List.append_assoc, List.nil_append]
    rw [hcs] at hitems ⊢
    rw [List.cons_append] at hitems ⊢
    rw [value?_bracket hc, hitems]
    rfl
  | .object [], _, fuel + 1, r, _, _ => rfl
  | .object ((k, j) :: ms), hj, fuel + 1, r, hfuel, _ => by
    simp only [compactChars, List.length_cons, List.length_append, List.length_nil] at hfuel
    have hmembers := members?_compactMembers k j ms hj fuel r (by omega)
    obtain ⟨cs, hcs⟩ := exists_compactMembers_eq_cons k j ms
    rw [compactChars]
    simp only [List.cons_append, List.append_assoc, List.nil_append]
    rw [hcs] at hmembers ⊢
    rw [List.cons_append] at hmembers ⊢
    rw [value?_brace, hmembers]
    rfl
  | j, hj, 0, r, hfuel, _ => by
    obtain ⟨c, cs, hcs, -⟩ := exists_compactChars_eq_cons hj
    rw [hcs, List.length_cons] at hfuel
    omega

theorem items?_compactItems : ∀ (j : Json) (js : List Json), AreWhole (j :: js) →
    ∀ (fuel : Nat) (r : List Char), 2 * (compactItems (j :: js)).length < fuel →
      items? fuel (compactItems (j :: js) ++ ']' :: r) = some (j :: js, r)
  | j, [], hj, fuel + 1, r, hfuel => by
    have hvalue := value?_compactChars j hj.1 fuel (']' :: r) (Nat.le_of_lt_succ hfuel)
      (ends_cons (by decide) r)
    rw [items?, compactItems, hvalue]
    rfl
  | j, k :: js, hj, fuel + 1, r, hfuel => by
    rw [compactItems_cons_cons, List.length_append, List.length_cons] at hfuel
    have hvalue := value?_compactChars j hj.1 fuel (',' :: (compactItems (k :: js) ++ ']' :: r))
      (by omega) (ends_cons (by decide) _)
    have hitems := items?_compactItems k js hj.2 fuel r (by omega)
    rw [items?, compactItems_cons_cons, List.append_assoc, List.cons_append, hvalue]
    simp only [Option.bind_eq_bind, Option.bind_some]
    rw [skipSpace_cons (by decide)]
    simp only [hitems]
    rfl

theorem members?_compactMembers : ∀ (k : String) (j : Json) (ms : List (String × Json)),
    HaveWhole ((k, j) :: ms) → ∀ (fuel : Nat) (r : List Char),
      2 * (compactMembers ((k, j) :: ms)).length < fuel →
      members? fuel (compactMembers ((k, j) :: ms) ++ '\x7d' :: r) = some ((k, j) :: ms, r)
  | k, j, [], hj, fuel + 1, r, hfuel => by
    simp only [compactMembers, List.length_append, List.length_cons] at hfuel
    have hvalue := value?_compactChars j hj.1 fuel ('\x7d' :: r) (by omega)
      (ends_cons (by decide) r)
    rw [members?, compactMembers, List.append_assoc, skipSpace_textChars, text?_textChars]
    simp only [List.cons_append, Option.bind_eq_bind, Option.bind_some]
    rw [skipSpace_cons (by decide)]
    simp only [hvalue]
    rfl
  | k, j, (l, i) :: ms, hj, fuel + 1, r, hfuel => by
    rw [compactMembers_cons_cons] at hfuel
    simp only [List.length_append, List.length_cons] at hfuel
    have hvalue := value?_compactChars j hj.1 fuel
      (',' :: (compactMembers ((l, i) :: ms) ++ '\x7d' :: r)) (by omega) (ends_cons (by decide) _)
    have hmembers := members?_compactMembers l i ms hj.2 fuel r (by omega)
    rw [members?, compactMembers_cons_cons, List.append_assoc, List.append_assoc,
      skipSpace_textChars, text?_textChars]
    simp only [List.cons_append, Option.bind_eq_bind, Option.bind_some]
    rw [skipSpace_cons (by decide)]
    simp only [hvalue, Option.bind_some]
    rw [skipSpace_cons (by decide)]
    simp only [hmembers]
    rfl

end

/-- A value without points and exponents is read back from its compact form. -/
theorem read?_compact {j : Json} (hj : j.IsWhole) : read? j.compact = some j := by
  have hvalue := value?_compactChars j hj (2 * (compactChars j).length + 2) [] (by omega) ends_nil
  rw [List.append_nil] at hvalue
  rw [read?, compact, String.toList_ofList, hvalue]
  rfl

end StreamSource.Json
