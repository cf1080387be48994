import StreamSource.Text.Casing
import StreamSource.Text.Cut

/-! Small letters within ASCII. The characters with a small form in ASCII are those of ASCII
themselves and the sign of the kelvin, and the form of each is one character wherever it stands.
Any other character leaves something outside ASCII behind. So a text whose small form occurs in an
ASCII text is made of the former alone, and its parts have the parts of the small form. -/

namespace StreamSource.Text

/-- A character whose small form is in ASCII. -/
def IsPlain (c : Char) : Prop := c.toNat < 128 ∨ c = '\u212a'

/-- The one small form of a plain character. -/
def plainSmall (c : Char) : Char := if c = '\u212a' then 'k' else c.toLower

/-! ### Characters -/

/-- What holds of all numbers below 128 holds of the characters of ASCII. -/
theorem forall_of_lt {P : Char → Prop} (h : ∀ n < 128, P (Char.ofNat n)) {c : Char}
    (hc : c.toNat < 128) : P c := by
  simpa only [Char.ofNat_toNat] using h c.toNat hc

theorem plainSmall_of_lt {c : Char} (h : c.toNat < 128) :
    smallChar c = [plainSmall c] ∧ (plainSmall c).toNat < 128 :=
  forall_of_lt (P := fun c => smallChar c = [plainSmall c] ∧ (plainSmall c).toNat < 128)
    (by decide +kernel) h

theorem smallChar_of_isPlain {c : Char} (h : IsPlain c) : smallChar c = [plainSmall c] := by
  rcases h with h | rfl
  · exact (plainSmall_of_lt h).1
  · decide +kernel

theorem toLower_of_le {c : Char} (h : 128 ≤ c.toNat) : c.toLower = c := by
  unfold Char.toLower
  exact dif_neg fun hupper => absurd (UInt32.le_iff_toNat_le.1 hupper.2) (by
    have : ('Z'.val).toNat = 90 := rfl
    have : c.toNat = c.val.toNat := rfl
    omega)

/-- Letters of ASCII in either case are plain alike and have one form. -/
theorem plain_toLower (c : Char) :
    (IsPlain c.toLower ↔ IsPlain c) ∧ plainSmall c.toLower = plainSmall c := by
  by_cases h : c.toNat < 128
  · have hlower := forall_of_lt
      (P := fun c => c.toLower.toNat < 128 ∧ plainSmall c.toLower = plainSmall c)
      (by decide +kernel) h
    exact ⟨iff_of_true (.inl hlower.1) (.inl h), hlower.2⟩
  · rw [toLower_of_le (Nat.le_of_not_lt h)]
    exact ⟨Iff.rfl, rfl⟩

/-- Apart from the capitals of ASCII and the sign of the kelvin the tables name only characters
outside ASCII, and they lead to such. -/
theorem caseRuns_outside : ∀ r ∈ caseRuns, r.last < 128 ∨ (r.first = 0x212a ∧ r.last = 0x212a) ∨
    128 ≤ r.target ∧ (r.target + (r.last - r.first) < 0xd800 ∨
      0xdfff < r.target ∧ r.target + (r.last - r.first) < 0x110000) := by decide +kernel

theorem exists_mem_smallChar {c : Char} (h : ¬ IsPlain c) : ∃ d ∈ smallChar c, 128 ≤ d.toNat := by
  obtain ⟨hge, hkelvin⟩ := not_or.1 h
  unfold smallChar
  split
  · exact ⟨'\u0307', by simp, by decide⟩
  · split
    next => exact ⟨c, List.mem_singleton_self c, Nat.le_of_not_lt hge⟩
    next r hr =>
      have hcovers := List.find?_some hr
      simp only [CaseRun.covers, Bool.and_eq_true, decide_eq_true_eq] at hcovers
      obtain ⟨⟨hfirst, hlast⟩, -⟩ := hcovers
      refine ⟨r.small c, List.mem_singleton_self _, ?_⟩
      rcases caseRuns_outside r (List.mem_of_find?_eq_some hr) with hr | ⟨hr, hr'⟩ | ⟨htarget, hend⟩
      · omega
      · have heq : c.toNat = '\u212a'.toNat := by
          rw [show '\u212a'.toNat = 0x212a from rfl]
          omega
        exact absurd (Char.toNat_inj.1 heq) hkelvin
      · have hvalid : (r.target + (c.toNat - r.first)).isValidChar := by
          rw [Nat.isValidChar]
          omega
        rw [CaseRun.small, Char.ofNat, dif_pos hvalid]
        exact Nat.le_add_right_of_le htarget

/-! ### Texts -/

section Texts

variable {before cs : List Char}

theorem not_isPlain_sigma : ¬ IsPlain '\u03a3' := by
  rintro (h | h) <;> revert h <;> decide

theorem smallSigma_outside (before after : List Char) : 128 ≤ (smallSigma before after).toNat := by
  unfold smallSigma
  split <;> decide

example : smallText "ΑΣ. ΣΑ\u0130" = "ας. σαi\u0307".toList := by decide +kernel

theorem smallAfter_of_isPlain (h : ∀ c ∈ cs, IsPlain c) :
    smallAfter before cs = cs.map plainSmall := by
  induction cs generalizing before with
  | nil => rfl
  | cons c cs ih =>
    obtain ⟨hc, hcs⟩ := List.forall_mem_cons.1 h
    have hsigma : c ≠ '\u03a3' := fun heq => not_isPlain_sigma (heq ▸ hc)
    rw [smallAfter, if_neg hsigma, smallChar_of_isPlain hc, ih hcs]
    rfl

theorem exists_mem_smallAfter {c : Char} (hmem : c ∈ cs) (h : ¬ IsPlain c) :
    ∃ d ∈ smallAfter before cs, 128 ≤ d.toNat := by
  induction cs generalizing before with
  | nil => cases hmem
  | cons c' cs ih =>
    rw [smallAfter]
    rcases List.mem_cons.1 hmem with rfl | hmem
    · split
      · exact ⟨smallSigma before cs, by simp, smallSigma_outside before cs⟩
      · obtain ⟨d, hd, hge⟩ := exists_mem_smallChar h
        exact ⟨d, List.mem_append_left _ hd, hge⟩
    · obtain ⟨d, hd, hge⟩ := ih hmem
      exact ⟨d, List.mem_append_right _ hd, hge⟩

/-- The small form of a text occurs in an ASCII text exactly if the text is plain throughout and
its forms, taken one by one, stand there. -/
theorem occursIn_smallText_iff {s : String} (hcs : ∀ c ∈ cs, c.toNat < 128) :
    occursIn (smallText s) cs = true ↔
      (∀ c ∈ s.toList, IsPlain c) ∧ s.toList.map plainSmall <:+: cs := by
  rw [occursIn_iff]
  constructor
  · intro h
    have hplain : ∀ c ∈ s.toList, IsPlain c := by
      intro c hc
      refine Classical.byContradiction fun hno => ?_
      obtain ⟨d, hd, hge⟩ := exists_mem_smallAfter hc hno
      exact absurd (hcs d (h.subset hd)) (Nat.not_lt.2 hge)
    rw [smallText, smallAfter_of_isPlain hplain] at h
    exact ⟨hplain, h⟩
  · rintro ⟨hplain, h⟩
    rwa [smallText, smallAfter_of_isPlain hplain]

theorem smallText_of_lt {s : String} (h : ∀ c ∈ s.toList, c.toNat < 128) :
    ∀ c ∈ smallText s, c.toNat < 128 := by
  rw [smallText, smallAfter_of_isPlain fun c hc => .inl (h c hc)]
  intro d hd
  obtain ⟨c, hc, rfl⟩ := List.mem_map.1 hd
  exact (plainSmall_of_lt (h c hc)).2

end Texts

end StreamSource.Text
