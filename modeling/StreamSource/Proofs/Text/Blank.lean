import Mathlib
import StreamSource.Text.Blank
import StreamSource.Text.Cut

/-! Blanks against the characters of words. A letter, a digit or any other mark of ASCII is no
blank, and none becomes one by a change of case, so trimming leaves words alone. A text in which
one character stands once has two pieces. A line starts at the start of a text and behind each
line feed. -/

namespace StreamSource.Text

theorem isBlank_of_graphic {c : Char} (h : 33 ≤ c.toNat ∧ c.toNat ≤ 126) : isBlank c = false := by
  simp only [isBlank, Bool.or_eq_false_iff, Bool.and_eq_false_iff, decide_eq_false_iff_not,
    beq_eq_false_iff_ne]
  omega

theorem graphic_of_isAlphanum {c : Char} (h : c.isAlphanum = true) :
    33 ≤ c.toNat ∧ c.toNat ≤ 126 := by
  simp only [Char.isAlphanum, Char.isAlpha, Char.isUpper, Char.isLower, Char.isDigit,
    Bool.or_eq_true, Bool.and_eq_true, decide_eq_true_eq, ge_iff_le, UInt32.le_iff_toNat_le,
    Char.toNat_val, Char.reduceToNat] at h
  omega

theorem isBlank_toLower (c : Char) : isBlank c.toLower = isBlank c := by
  unfold Char.toLower
  split
  next h =>
    have hrange : 65 ≤ c.toNat ∧ c.toNat ≤ 90 := by
      simpa [UInt32.le_iff_toNat_le] using h
    have hlower : (c.val + ('a'.val - 'A'.val)).toNat = c.toNat + 32 := by
      have hshift : ('a'.val - 'A'.val).toNat = 32 := rfl
      rw [UInt32.toNat_add, Char.toNat_val]
      omega
    rw [isBlank_of_graphic (c := c) (by omega)]
    refine isBlank_of_graphic ?_
    change 33 ≤ (c.val + ('a'.val - 'A'.val)).toNat ∧ (c.val + ('a'.val - 'A'.val)).toNat ≤ 126
    omega
  next => rfl

/-! ### Trimming -/

theorem trim_eq_self {cs : List Char} (h : ∀ c ∈ cs, isBlank c = false) : trim cs = cs :=
  trim_eq_self_of_ends (fun c hc => h c (List.mem_of_mem_head? hc))
    fun c hc => h c (List.mem_of_getLast? hc)

/-! ### Pieces -/

theorem pieces_of_notMem {mark : Char} {cs : List Char} (h : mark ∉ cs) :
    pieces mark cs = [cs] := by
  induction cs with
  | nil => rfl
  | cons c cs ih =>
    obtain ⟨hc, hcs⟩ := not_or.1 (mt List.mem_cons.2 h)
    rw [pieces, if_neg (Ne.symm hc), ih hcs]

theorem pieces_append_cons {mark : Char} {a : List Char} (h : mark ∉ a) (b : List Char) :
    pieces mark (a ++ mark :: b) = a :: pieces mark b := by
  induction a with
  | nil => rw [List.nil_append, pieces, if_pos rfl]
  | cons c a ih =>
    obtain ⟨hc, ha⟩ := not_or.1 (mt List.mem_cons.2 h)
    rw [List.cons_append, pieces, if_neg (Ne.symm hc), ih ha]

/-! ### Lines -/

/-- Whether a line starts behind a text. -/
def StartsLine (before : List Char) : Prop := before = [] ∨ before.getLast? = some '\n'

theorem startsLine_append {a b : List Char} (hb : StartsLine b) (ha : a.getLast? = some '\n') :
    (a ++ b).getLast? = some '\n' := by
  rcases hb with rfl | hb
  · rwa [List.append_nil]
  · rw [List.getLast?_append, hb]
    rfl

theorem StartsLine.append {a b : List Char} (ha : StartsLine a) (hb : StartsLine b) :
    StartsLine (a ++ b) := by
  rcases ha with rfl | ha
  · exact hb
  · exact .inr (startsLine_append hb ha)

end StreamSource.Text
