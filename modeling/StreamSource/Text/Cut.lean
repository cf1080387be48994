/-! Cutting a text at the first place where a mark occurs, or at every place. The two
parts and the mark between them make up the text, and the mark does not occur
earlier; the pieces joined by the mark make up the text. -/

namespace StreamSource.Text

/-- The text before and after the first occurrence of `mark`. -/
def cut? (mark : List Char) : List Char → Option (List Char × List Char)
  | [] => if mark.isEmpty then some ([], []) else none
  | c :: cs =>
    if mark.isPrefixOf (c :: cs) then some ([], (c :: cs).drop mark.length)
    else (cut? mark cs).map fun p => (c :: p.1, p.2)

/-- The pieces of a text between the places where `mark` stands. -/
def pieces (mark : Char) : List Char → List (List Char)
  | [] => [[]]
  | c :: cs =>
    if c = mark then [] :: pieces mark cs
    else match pieces mark cs with
      | [] => [[c]]
      | p :: ps => (c :: p) :: ps

/-- Whether `part` stands somewhere in a text, in one piece. -/
def occursIn (part cs : List Char) : Bool := (cut? part cs).isSome

theorem eq_append_of_cut? {mark cs a b : List Char} (h : cut? mark cs = some (a, b)) :
    cs = a ++ mark ++ b := by
  fun_induction cut? mark cs generalizing a b with
  | case1 hm => simp_all
  | case2 => simp at h
  | case3 c cs hp =>
    simp only [Option.some.injEq, Prod.mk.injEq] at h
    obtain ⟨rfl, rfl⟩ := h
    obtain ⟨t, ht⟩ := List.isPrefixOf_iff_prefix.1 hp
    simp [← ht]
  | case4 c cs hp ih =>
    obtain ⟨p, hp', h⟩ := Option.map_eq_some_iff.1 h
    simp only [Prod.mk.injEq] at h
    obtain ⟨rfl, rfl⟩ := h
    simpa using ih hp'

theorem cut?_eq_none_iff {mark cs : List Char} : cut? mark cs = none ↔ ¬ mark <:+: cs := by
  fun_induction cut? mark cs with
  | case1 hm => simp_all
  | case2 hm => simp_all
  | case3 c cs hp =>
    simp only [reduceCtorEq, false_iff, Decidable.not_not]
    exact (List.isPrefixOf_iff_prefix.1 hp).isInfix
  | case4 c cs hp ih =>
    rw [Option.map_eq_none_iff, ih, List.infix_cons_iff, List.isPrefixOf_iff_prefix.symm]
    simp [hp]

theorem pieces_ne_nil (mark : Char) (cs : List Char) : pieces mark cs ≠ [] := by
  fun_induction pieces mark cs <;> simp

theorem intercalate_pieces (mark : Char) (cs : List Char) :
    [mark].intercalate (pieces mark cs) = cs := by
  fun_induction pieces mark cs with
  | case1 => rfl
  | case2 cs ih =>
    cases h : pieces mark cs with
    | nil => exact absurd h (pieces_ne_nil mark cs)
    | cons p ps => simp_all [List.intercalate_cons_cons]
  | case3 c cs hc h => exact absurd h (pieces_ne_nil mark cs)
  | case4 c cs hc p ps h ih =>
    cases ps <;> simp_all [List.intercalate_cons_cons]

theorem occursIn_iff {part cs : List Char} : occursIn part cs = true ↔ part <:+: cs := by
  rw [occursIn, Option.isSome_iff_ne_none, ne_eq, cut?_eq_none_iff, Decidable.not_not]

end StreamSource.Text
