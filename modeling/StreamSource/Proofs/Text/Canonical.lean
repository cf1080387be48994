import StreamSource.Proofs.Text.Blank
import StreamSource.Proofs.Text.Numeral

/-! Canonical numerals. Of all the numerals of an integer one has nothing redundant in it, that is,
no plus sign, no zero before other digits and no minus sign before zero; this one is the written
form of the integer. No numeral has a blank or a letter in it. -/

namespace StreamSource.Text

/-- A numeral with nothing in it that could be left out. -/
inductive Canonical : List Char → Prop
  | zero : Canonical ['0']
  | positive {c : Char} {ds : List Char} (hds : ∀ d ∈ c :: ds, d.isDigit = true) (hc : c ≠ '0') :
    Canonical (c :: ds)
  | negative {c : Char} {ds : List Char} (hds : ∀ d ∈ c :: ds, d.isDigit = true) (hc : c ≠ '0') :
    Canonical ('-' :: c :: ds)

/-- A plus sign, a zero before other digits or a minus sign before a zero. -/
inductive Redundant : List Char → Prop
  | plus {ds : List Char} : Redundant ('+' :: ds)
  | zero {d : Char} {ds : List Char} : Redundant ('0' :: d :: ds)
  | minusZero {ds : List Char} : Redundant ('-' :: '0' :: ds)

theorem Redundant.not_canonical {cs : List Char} (h : Redundant cs) : ¬ Canonical cs := by
  intro hcanonical
  cases h with
  | plus =>
    cases hcanonical with
    | positive hds => exact absurd (hds '+' List.mem_cons_self) (by decide)
  | zero =>
    cases hcanonical with
    | positive _ hc => exact hc rfl
  | minusZero =>
    cases hcanonical with
    | positive hds => exact absurd (hds '-' List.mem_cons_self) (by decide)
    | negative _ hc => exact hc rfl

theorem Writes.not_canonical_iff {cs : List Char} {n : Int} (h : Writes cs n) :
    ¬ Canonical cs ↔ Redundant cs := by
  refine ⟨fun hnot => ?_, Redundant.not_canonical⟩
  cases h with
  | plus => exact .plus
  | @plain ds hne hds =>
    obtain ⟨c, ds, rfl⟩ := List.exists_cons_of_ne_nil hne
    by_cases hc : c = '0'
    · subst hc
      cases ds with
      | nil => exact absurd .zero hnot
      | cons d ds => exact .zero
    · exact absurd (.positive hds hc) hnot
  | @minus ds hne hds =>
    obtain ⟨c, ds, rfl⟩ := List.exists_cons_of_ne_nil hne
    by_cases hc : c = '0'
    · subst hc
      exact .minusZero
    · exact absurd (.negative hds hc) hnot

theorem canonical_showInt (n : Int) : Canonical (showInt n).toList := by
  cases n with
  | ofNat n =>
    rw [Int.ofNat_eq_natCast, toList_showInt_natCast]
    obtain ⟨c, ds, hdigits, -⟩ := exists_toDigits_eq_cons n
    by_cases hc : c = '0'
    · have hn : n = 0 := eq_zero_of_head?_toDigits (by rw [hdigits, hc]; rfl)
      subst hn
      exact .zero
    · rw [hdigits]
      exact .positive (fun d hd => isDigit_of_mem_toDigits (hdigits ▸ hd)) hc
  | negSucc n =>
    rw [toList_showInt_negSucc]
    obtain ⟨c, ds, hdigits, -⟩ := exists_toDigits_eq_cons (n + 1)
    have hc : c ≠ '0' := fun hc =>
      Nat.succ_ne_zero n (eq_zero_of_head?_toDigits (by rw [hdigits, hc]; rfl))
    rw [hdigits]
    exact .negative (fun d hd => isDigit_of_mem_toDigits (hdigits ▸ hd)) hc

theorem toDigits_of_leading {c : Char} {ds : List Char} (hds : ∀ d ∈ c :: ds, d.isDigit = true)
    (hc : c ≠ '0') : Nat.toDigits 10 (Nat.ofDigitChars 10 (c :: ds) 0) = c :: ds :=
  toDigits_ofDigitChars (List.cons_ne_nil c ds) hds fun h => absurd (Option.some.inj h) hc

/-- There is no other canonical numeral of an integer than its written form. -/
theorem Canonical.eq_showInt {cs : List Char} {n : Int} (hcs : Canonical cs) (hn : Writes cs n) :
    cs = (showInt n).toList := by
  cases hcs with
  | zero =>
    have hzero : Writes ['0'] 0 := integer?_eq_some_iff.1 (by decide)
    rw [hn.unique hzero]
    rfl
  | @positive c ds hds hc =>
    rw [hn.unique (.plain (List.cons_ne_nil c ds) hds), toList_showInt_natCast,
      toDigits_of_leading hds hc]
  | @negative c ds hds hc =>
    have hdigits := toDigits_of_leading hds hc
    rw [hn.unique (.minus (List.cons_ne_nil c ds) hds)]
    -- the digits do not make zero, so the minus sign is written
    cases hvalue : Nat.ofDigitChars 10 (c :: ds) 0 with
    | zero =>
      rw [hvalue] at hdigits
      exact absurd (List.cons.inj hdigits).1.symm hc
    | succ m =>
      rw [hvalue] at hdigits
      have hneg : -((m + 1 : Nat) : Int) = .negSucc m := rfl
      rw [hneg, toList_showInt_negSucc, hdigits]

theorem showInt_eq_iff {s : String} {n : Int} (hs : Writes s.toList n) :
    showInt n = s ↔ Canonical s.toList := by
  constructor
  · rintro rfl
    exact canonical_showInt n
  · intro hcanonical
    exact (String.toList_inj.1 (hcanonical.eq_showInt hs)).symm

/-! ### The characters of numerals -/

theorem Writes.mem {cs : List Char} {n : Int} (h : Writes cs n) {c : Char} (hc : c ∈ cs) :
    c = '+' ∨ c = '-' ∨ c.isDigit = true := by
  cases h with
  | plain _ hds => exact .inr (.inr (hds c hc))
  | plus _ hds => exact (List.mem_cons.1 hc).imp_right fun hc => .inr (hds c hc)
  | minus _ hds => exact .inr ((List.mem_cons.1 hc).imp_right (hds c))

theorem Writes.trim_eq {cs : List Char} {n : Int} (h : Writes cs n) : trim cs = cs := by
  refine trim_eq_self fun c hc => isBlank_of_graphic ?_
  obtain rfl | rfl | hdigit := h.mem hc
  · decide
  · decide
  · have hbounds := bounds_of_isDigit hdigit
    omega

theorem not_isUpper_of_isDigit {c : Char} (h : c.isDigit = true) : ¬ c.isUpper = true := by
  have hbounds := bounds_of_isDigit h
  simp only [Char.isUpper, decide_eq_true_eq, ge_iff_le, UInt32.le_iff_toNat_le, Char.toNat_val,
    Char.reduceToNat]
  omega

theorem Writes.map_toLower {cs : List Char} {n : Int} (h : Writes cs n) :
    cs.map Char.toLower = cs := by
  refine (List.map_congr_left fun c hc => ?_).trans (List.map_id cs)
  obtain rfl | rfl | hdigit := h.mem hc
  · decide
  · decide
  · exact Char.toLower_eq_of_not_isUpper (not_isUpper_of_isDigit hdigit)

end StreamSource.Text
