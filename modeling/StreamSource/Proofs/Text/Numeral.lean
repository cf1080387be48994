import Mathlib.Data.List.Basic
import Mathlib.Data.List.Induction
import StreamSource.Text.Numeral

/-! Reading back written numerals. The digits that are written for a number write it again when
they are read, and they start with a zero for zero only. Conversely, digits are written again for
the number that is read from them if there is no zero before others. Of all texts, those that are
digits with at most one sign before them are read as integers. A word takes its digits one after the
other; as no number on the way is farther from zero than the last one, a numeral is refused for its
range only if its own number is outside. -/

namespace StreamSource.Text

theorem bounds_of_isDigit {c : Char} (h : c.isDigit = true) : 48 ≤ c.toNat ∧ c.toNat < 58 := by
  have hbounds := Char.isDigit_iff_toNat.1 h
  simp only [Char.reduceToNat] at hbounds
  omega

theorem digit?_of_isDigit {c : Char} (h : c.isDigit = true) :
    digit? 10 c = some (c.toNat - '0'.toNat) := by
  have hlt : c.toNat - '0'.toNat < 10 := by
    have hbounds := bounds_of_isDigit h
    simp only [Char.reduceToNat]
    omega
  unfold digit?
  rw [if_pos h, Option.filter_some, if_pos (decide_eq_true hlt)]

theorem mapM_digit?_of_isDigit {ds : List Char} (hds : ∀ c ∈ ds, c.isDigit = true) :
    ds.mapM (digit? 10) = some (ds.map fun c => c.toNat - '0'.toNat) := by
  induction ds with
  | nil => rfl
  | cons c ds ih =>
    rw [List.mapM_cons, digit?_of_isDigit (hds c List.mem_cons_self),
      ih fun d hd => hds d (List.mem_cons_of_mem c hd)]
    rfl

theorem natural?_of_isDigit {ds : List Char} (hne : ds ≠ [])
    (hds : ∀ c ∈ ds, c.isDigit = true) : natural? ds = some (Nat.ofDigitChars 10 ds 0) := by
  rw [natural?, naturalIn?, if_neg (by simpa using hne), mapM_digit?_of_isDigit hds,
    Option.map_some, ofDigits, List.foldl_map, Nat.ofDigitChars_eq_foldl]

theorem isDigit_of_mem_toDigits {n : Nat} {c : Char} (h : c ∈ Nat.toDigits 10 n) :
    c.isDigit = true :=
  Nat.isDigit_of_mem_toDigits (by decide) (by decide) h

theorem natural?_toDigits (n : Nat) : natural? (Nat.toDigits 10 n) = some n := by
  rw [natural?_of_isDigit Nat.toDigits_ne_nil fun c => isDigit_of_mem_toDigits,
    Nat.ofDigitChars_ten_toDigits]

/-- No other number is written with a zero in front. -/
theorem eq_zero_of_head?_toDigits {n : Nat} (h : (Nat.toDigits 10 n).head? = some '0') : n = 0 := by
  induction n using Nat.strongRecOn with
  | _ n ih =>
    rw [Nat.toDigits_eq_if (by decide)] at h
    split at h
    · simpa using h
    · rename_i hn
      rw [List.head?_append_of_ne_nil _ Nat.toDigits_ne_nil] at h
      have hdiv := ih (n / 10) (by omega) h
      omega

theorem digitChar_of_isDigit {c : Char} (h : c.isDigit = true) :
    Nat.digitChar (c.toNat - 48) = c := by
  have hbounds := bounds_of_isDigit h
  refine Char.toNat_inj.1 ?_
  rw [Nat.toNat_digitChar_of_lt_ten (by omega)]
  omega

/-- Digits with no zero before others are written for the number that they make. -/
theorem toDigits_ofDigitChars {ds : List Char} (hne : ds ≠ []) (hds : ∀ c ∈ ds, c.isDigit = true)
    (hzero : ds.head? = some '0' → ds = ['0']) :
    Nat.toDigits 10 (Nat.ofDigitChars 10 ds 0) = ds := by
  induction ds using List.reverseRecOn with
  | nil => exact absurd rfl hne
  | append_singleton ds c ih =>
    have hc : c.isDigit = true := hds c (List.mem_append_right ds (List.mem_singleton.2 rfl))
    have hlt : c.toNat - 48 < 10 := by
      have hbounds := bounds_of_isDigit hc
      omega
    have hvalue : Nat.ofDigitChars 10 (ds ++ [c]) 0 =
        10 * Nat.ofDigitChars 10 ds 0 + (c.toNat - 48) := by
      rw [Nat.ofDigitChars_append, Nat.ofDigitChars_cons, Nat.ofDigitChars_nil]
      rfl
    rw [hvalue]
    by_cases hnil : ds = []
    · subst hnil
      rw [Nat.toDigits_eq_if (by decide), Nat.ofDigitChars_nil, Nat.mul_zero, Nat.zero_add,
        if_pos hlt, digitChar_of_isDigit hc]
      rfl
    · have hhead : ds.head? ≠ some '0' := by
        intro h
        have hone := congrArg List.length (hzero (by rw [List.head?_append_of_ne_nil _ hnil, h]))
        simp only [List.length_append, List.length_singleton, Nat.add_eq_right,
          List.length_eq_zero_iff] at hone
        exact hnil hone
      have hdigits := ih hnil (fun d hd => hds d (List.mem_append_left [c] hd))
        fun h => absurd h hhead
      -- the digits before the last one make no zero, so the last one is parted off again
      have hpos : Nat.ofDigitChars 10 ds 0 ≠ 0 := by
        intro h
        rw [h] at hdigits
        exact hhead (hdigits ▸ rfl)
      rw [Nat.toDigits_eq_if (by decide), if_neg (by omega), Nat.mul_add_div (by decide),
        Nat.div_eq_of_lt hlt, Nat.add_zero, hdigits, Nat.mul_add_mod, Nat.mod_eq_of_lt hlt,
        digitChar_of_isDigit hc]

theorem exists_toDigits_eq_cons (n : Nat) :
    ∃ c ds, Nat.toDigits 10 n = c :: ds ∧ c.isDigit = true := by
  obtain ⟨c, ds, h⟩ := List.exists_cons_of_ne_nil (Nat.toDigits_ne_nil (n := n) (b := 10))
  exact ⟨c, ds, h, isDigit_of_mem_toDigits (h ▸ List.mem_cons_self)⟩

theorem integer?_toDigits (n : Nat) : integer? (Nat.toDigits 10 n) = some (n : Int) := by
  obtain ⟨c, ds, h, hc⟩ := exists_toDigits_eq_cons n
  have hdigits := natural?_toDigits n
  rw [h] at hdigits ⊢
  unfold integer?
  split
  · rename_i heq
    cases heq
    exact absurd hc (by decide)
  · rename_i heq
    cases heq
    exact absurd hc (by decide)
  · rw [hdigits]
    rfl

/-- Digits are the written form of their number if and only if no zero stands before others. -/
theorem showNat_eq_iff {s : String} {n : Nat} (hne : s.toList ≠ [])
    (hs : ∀ c ∈ s.toList, c.isDigit = true) (hn : natural? s.toList = some n) :
    showNat n = s ↔ (s.toList.head? = some '0' → s = "0") := by
  have hvalue : n = Nat.ofDigitChars 10 s.toList 0 :=
    Option.some.inj (hn.symm.trans (natural?_of_isDigit hne hs))
  rw [showNat, ← String.toList_inj, String.toList_ofList]
  constructor
  · intro heq hzero
    have hn : n = 0 := eq_zero_of_head?_toDigits (heq ▸ hzero)
    rw [hn] at heq
    exact String.toList_inj.1 heq.symm
  · intro hzero
    rw [hvalue]
    exact toDigits_ofDigitChars hne hs fun h => congrArg String.toList (hzero h)

theorem toList_showInt_natCast (n : Nat) : (showInt n).toList = Nat.toDigits 10 n :=
  String.toList_ofList

theorem toList_showInt_negSucc (n : Nat) :
    (showInt (.negSucc n)).toList = '-' :: Nat.toDigits 10 (n + 1) := by
  simp [showInt, showNat]

/-- An integer is read back from its written form. -/
theorem integer?_showInt (n : Int) : integer? (showInt n).toList = some n := by
  cases n with
  | ofNat n => exact (toList_showInt_natCast n).symm ▸ integer?_toDigits n
  | negSucc n =>
    rw [toList_showInt_negSucc, integer?, natural?_toDigits]
    rfl

/-! ### Numerals and what they write -/

theorem isDigit_of_digit? {c : Char} {d : Nat} (h : digit? 10 c = some d) : c.isDigit = true := by
  by_contra hc
  obtain ⟨hvalue, hlt⟩ := Option.filter_eq_some_iff.1 h
  rw [if_neg hc] at hvalue
  -- a letter stands for ten or more
  have hlt : d < 10 := of_decide_eq_true hlt
  split at hvalue
  · cases hvalue
    omega
  · split at hvalue
    · cases hvalue
      omega
    · cases hvalue

theorem isDigit_of_mapM_digit? {cs : List Char} {ds : List Nat}
    (h : cs.mapM (digit? 10) = some ds) : ∀ c ∈ cs, c.isDigit = true := by
  induction cs generalizing ds with
  | nil => simp
  | cons c cs ih =>
    rw [List.mapM_cons] at h
    obtain ⟨d, hd, h⟩ := Option.bind_eq_some_iff.1 h
    obtain ⟨ds', hds, -⟩ := Option.bind_eq_some_iff.1 h
    exact List.forall_mem_cons.2 ⟨isDigit_of_digit? hd, ih hds⟩

theorem natural?_eq_some_iff {cs : List Char} {n : Nat} :
    natural? cs = some n ↔
      cs ≠ [] ∧ (∀ c ∈ cs, c.isDigit = true) ∧ n = Nat.ofDigitChars 10 cs 0 := by
  constructor
  · intro h
    have hne : cs ≠ [] := by
      rintro rfl
      cases h
    have hdigits : ∀ c ∈ cs, c.isDigit = true := by
      rw [natural?, naturalIn?, if_neg (by simpa using hne)] at h
      obtain ⟨ds, hds, -⟩ := Option.map_eq_some_iff.1 h
      exact isDigit_of_mapM_digit? hds
    rw [natural?_of_isDigit hne hdigits] at h
    exact ⟨hne, hdigits, (Option.some.inj h).symm⟩
  · rintro ⟨hne, hdigits, rfl⟩
    exact natural?_of_isDigit hne hdigits

/-- One or more digits, with one sign or none before them, and the number that they write. -/
inductive Writes : List Char → Int → Prop
  | plain {ds : List Char} (hne : ds ≠ []) (hds : ∀ c ∈ ds, c.isDigit = true) :
    Writes ds (Nat.ofDigitChars 10 ds 0)
  | plus {ds : List Char} (hne : ds ≠ []) (hds : ∀ c ∈ ds, c.isDigit = true) :
    Writes ('+' :: ds) (Nat.ofDigitChars 10 ds 0)
  | minus {ds : List Char} (hne : ds ≠ []) (hds : ∀ c ∈ ds, c.isDigit = true) :
    Writes ('-' :: ds) (-(Nat.ofDigitChars 10 ds 0))

theorem integer?_eq_some_iff {cs : List Char} {n : Int} : integer? cs = some n ↔ Writes cs n := by
  constructor
  · intro h
    unfold integer? at h
    split at h
    · obtain ⟨m, hm, rfl⟩ := Option.map_eq_some_iff.1 h
      obtain ⟨hne, hds, rfl⟩ := natural?_eq_some_iff.1 hm
      exact .plus hne hds
    · obtain ⟨m, hm, rfl⟩ := Option.map_eq_some_iff.1 h
      obtain ⟨hne, hds, rfl⟩ := natural?_eq_some_iff.1 hm
      exact .minus hne hds
    · obtain ⟨m, hm, rfl⟩ := Option.map_eq_some_iff.1 h
      obtain ⟨hne, hds, rfl⟩ := natural?_eq_some_iff.1 hm
      exact .plain hne hds
  · rintro (⟨hne, hds⟩ | ⟨hne, hds⟩ | ⟨hne, hds⟩)
    · unfold integer?
      split
      · exact absurd (hds '+' List.mem_cons_self) (by decide)
      · exact absurd (hds '-' List.mem_cons_self) (by decide)
      · rw [natural?_of_isDigit hne hds]
        rfl
    · rw [integer?, natural?_of_isDigit hne hds]
      rfl
    · rw [integer?, natural?_of_isDigit hne hds]
      rfl

theorem writes_showInt (n : Int) : Writes (showInt n).toList n :=
  integer?_eq_some_iff.1 (integer?_showInt n)

theorem Writes.unique {cs : List Char} {m n : Int} (hm : Writes cs m) (hn : Writes cs n) :
    m = n :=
  Option.some.inj ((integer?_eq_some_iff.2 hm).symm.trans (integer?_eq_some_iff.2 hn))

/-! ### Numerals of words -/

theorem wordOf?_eq_some_iff {n : Int} {w : Int64} : wordOf? n = some w ↔ w.toInt = n := by
  constructor
  · intro h
    obtain ⟨⟨hmin, hmax⟩, heq⟩ := Option.ite_none_right_eq_some.1 h
    cases heq
    exact Int64.toInt_ofInt_of_le hmin (Int.lt_add_one_of_le hmax)
  · rintro rfl
    rw [wordOf?, if_pos ⟨Int64.minValue_le_toInt w, Int64.toInt_le w⟩, Int64.ofInt_toInt]

theorem exists_toInt_eq_iff {n : Int} :
    (∃ w : Int64, w.toInt = n) ↔ -9223372036854775808 ≤ n ∧ n ≤ 9223372036854775807 := by
  constructor
  · rintro ⟨w, rfl⟩
    exact ⟨Int64.minValue_le_toInt w, Int64.toInt_le w⟩
  · rintro ⟨hmin, hmax⟩
    exact ⟨Int64.ofInt n, Int64.toInt_ofInt_of_le hmin (Int.lt_add_one_of_le hmax)⟩

/-- The number that digits come to where they make `a`, downward from zero behind a minus sign. -/
def counted (negative : Bool) (a : Nat) : Int := if negative then -a else a

theorem counted_false (a : Nat) : counted false a = a := rfl

theorem counted_true (a : Nat) : counted true a = -a := rfl

theorem toInt_zero_eq_counted (negative : Bool) : (0 : Int64).toInt = counted negative 0 := by
  cases negative <;> rfl

theorem counted_ten_mul (negative : Bool) (a : Nat) :
    counted negative (10 * a) = counted negative a * 10 := by
  cases negative with
  | false =>
    rw [counted_false, counted_false]
    omega
  | true =>
    rw [counted_true, counted_true]
    omega

theorem counted_add (negative : Bool) (a d : Nat) :
    counted negative (a + d) =
      if negative then counted negative a - d else counted negative a + d := by
  cases negative with
  | false =>
    rw [counted_false, counted_false, if_neg Bool.false_ne_true]
    omega
  | true =>
    rw [counted_true, counted_true, if_pos rfl]
    omega

/-- What is on the same side of zero as a word and no farther from it is a word too. -/
theorem exists_toInt_eq_counted {negative : Bool} {a b : Nat} (hab : a ≤ b) {w : Int64}
    (hw : w.toInt = counted negative b) : ∃ v : Int64, v.toInt = counted negative a := by
  have hrange := exists_toInt_eq_iff.1 ⟨w, hw⟩
  rw [exists_toInt_eq_iff]
  cases negative with
  | false =>
    rw [counted_false] at hrange ⊢
    omega
  | true =>
    rw [counted_true] at hrange ⊢
    omega

theorem le_ofDigitChars (ds : List Char) (a : Nat) : a ≤ Nat.ofDigitChars 10 ds a := by
  induction ds generalizing a with
  | nil => exact Nat.le_refl a
  | cons c ds ih =>
    rw [Nat.ofDigitChars_cons]
    have hrest := ih (10 * a + (c.toNat - '0'.toNat))
    omega

/-- A digit is taken in if and only if the number that it makes is a word. The product is no farther
from zero than this number, so it refuses nothing more. -/
theorem pushDigit?_eq_some_iff {negative : Bool} {n w : Int64} {a : Nat}
    (hn : n.toInt = counted negative a) {c : Char} :
    pushDigit? negative n c = some w ↔
      c.isDigit = true ∧ w.toInt = counted negative (10 * a + (c.toNat - '0'.toNat)) := by
  have hten : counted negative (10 * a) = n.toInt * 10 := by rw [counted_ten_mul, hn]
  constructor
  · intro h
    obtain ⟨d, hd, h⟩ := Option.bind_eq_some_iff.1 h
    obtain ⟨m, hm, h⟩ := Option.bind_eq_some_iff.1 h
    have hdigit := isDigit_of_digit? hd
    rw [digit?_of_isDigit hdigit] at hd
    cases hd
    refine ⟨hdigit, ?_⟩
    rw [wordOf?_eq_some_iff.1 h, wordOf?_eq_some_iff.1 hm, counted_add, hten]
  · rintro ⟨hdigit, hw⟩
    obtain ⟨m, hm⟩ := exists_toInt_eq_counted (Nat.le_add_right (10 * a) _) hw
    refine Option.bind_eq_some_iff.2 ⟨_, digit?_of_isDigit hdigit, ?_⟩
    refine Option.bind_eq_some_iff.2 ⟨m, wordOf?_eq_some_iff.2 (hm.trans hten), ?_⟩
    rw [wordOf?_eq_some_iff, hw, counted_add, hm]

/-- Digits are taken in one after the other if and only if the number of them all is a word. -/
theorem foldlM_pushDigit?_eq_some_iff {negative : Bool} {ds : List Char} {n w : Int64} {a : Nat}
    (hn : n.toInt = counted negative a) :
    ds.foldlM (pushDigit? negative) n = some w ↔
      (∀ c ∈ ds, c.isDigit = true) ∧ w.toInt = counted negative (Nat.ofDigitChars 10 ds a) := by
  induction ds generalizing n a with
  | nil =>
    rw [List.foldlM_nil, Nat.ofDigitChars_nil, ← hn, Int64.toInt_inj, eq_comm (a := w)]
    simp
  | cons c ds ih =>
    rw [List.foldlM_cons, Option.bind_eq_bind, Option.bind_eq_some_iff, Nat.ofDigitChars_cons,
      List.forall_mem_cons]
    constructor
    · rintro ⟨m, hm, h⟩
      obtain ⟨hc, hm⟩ := (pushDigit?_eq_some_iff hn).1 hm
      obtain ⟨hds, hw⟩ := (ih hm).1 h
      exact ⟨⟨hc, hds⟩, hw⟩
    · rintro ⟨⟨hc, hds⟩, hw⟩
      -- the number on the way is no farther from zero than the last one
      obtain ⟨m, hm⟩ := exists_toInt_eq_counted (le_ofDigitChars ds _) hw
      exact ⟨m, (pushDigit?_eq_some_iff hn).2 ⟨hc, hm⟩, (ih hm).2 ⟨hds, hw⟩⟩

theorem pushDigits?_eq_some_iff {negative : Bool} {ds : List Char} {w : Int64} :
    pushDigits? negative ds = some w ↔
      ds ≠ [] ∧ (∀ c ∈ ds, c.isDigit = true) ∧
        w.toInt = counted negative (Nat.ofDigitChars 10 ds 0) := by
  rw [pushDigits?, Option.ite_none_left_eq_some, List.isEmpty_iff,
    foldlM_pushDigit?_eq_some_iff (toInt_zero_eq_counted negative)]

theorem int64?_eq_some_iff {cs : List Char} {n : Int64} :
    int64? cs = some n ↔ Writes cs n.toInt := by
  constructor
  · intro h
    unfold int64? at h
    split at h
    · obtain ⟨hne, hds, hn⟩ := pushDigits?_eq_some_iff.1 h
      exact hn ▸ .plus hne hds
    · obtain ⟨hne, hds, hn⟩ := pushDigits?_eq_some_iff.1 h
      exact hn ▸ .minus hne hds
    · obtain ⟨hne, hds, hn⟩ := pushDigits?_eq_some_iff.1 h
      exact hn ▸ .plain hne hds
  · intro h
    generalize hm : n.toInt = m at h
    cases h with
    | plain hne hds =>
      unfold int64?
      split
      · exact absurd (hds '+' List.mem_cons_self) (by decide)
      · exact absurd (hds '-' List.mem_cons_self) (by decide)
      · exact pushDigits?_eq_some_iff.2 ⟨hne, hds, hm⟩
    | plus hne hds => exact pushDigits?_eq_some_iff.2 ⟨hne, hds, hm⟩
    | minus hne hds => exact pushDigits?_eq_some_iff.2 ⟨hne, hds, hm⟩

/-- A numeral whose number is one of a signed word of 64 bits. -/
def IsInt64 (cs : List Char) : Prop :=
  ∃ n, Writes cs n ∧ -9223372036854775808 ≤ n ∧ n ≤ 9223372036854775807

theorem int64?_eq_none_iff {cs : List Char} : int64? cs = none ↔ ¬ IsInt64 cs := by
  rw [Option.eq_none_iff_forall_ne_some, ← not_exists]
  refine not_congr ⟨?_, ?_⟩
  · rintro ⟨w, hw⟩
    exact ⟨w.toInt, int64?_eq_some_iff.1 hw, exists_toInt_eq_iff.1 ⟨w, rfl⟩⟩
  · rintro ⟨n, hn, hrange⟩
    obtain ⟨w, rfl⟩ := exists_toInt_eq_iff.2 hrange
    exact ⟨w, int64?_eq_some_iff.2 hn⟩

/-- A signed word of 64 bits is read back from its written form. -/
theorem int64?_showInt (n : Int64) : int64? (showInt n.toInt).toList = some n :=
  int64?_eq_some_iff.2 (writes_showInt n.toInt)

end StreamSource.Text
