import StreamSource.Text.Cut
import StreamSource.Url

/-! The first place where a mark stands in a text, and what it says about URLs: the scheme
is all that stands before the first mark, two schemes that differ in ASCII letter case only
serve the same URLs, and a URL is absolute if neither side of the mark is empty. -/

namespace StreamSource

namespace Text

/-- The text is `a`, the mark and `b`, and the mark stands nowhere before the end of `a`. -/
structure FirstCut (mark cs a b : List Char) : Prop where
  eq_append : cs = a ++ mark ++ b
  first : ∀ a' b', cs = a' ++ mark ++ b' → a.length ≤ a'.length

theorem FirstCut.unique {mark cs a b a' b' : List Char} (h : FirstCut mark cs a b)
    (h' : FirstCut mark cs a' b') : a = a' ∧ b = b' := by
  have hlength : a.length = a'.length :=
    Nat.le_antisymm (h.first a' b' h'.eq_append) (h'.first a b h.eq_append)
  have heq : a ++ (mark ++ b) = a' ++ (mark ++ b') := by
    rw [← List.append_assoc, ← List.append_assoc, ← h.eq_append, ← h'.eq_append]
  obtain ⟨ha, hrest⟩ := List.append_inj heq hlength
  exact ⟨ha, List.append_cancel_left hrest⟩

/-- A cut is never made behind a place where the mark stands. -/
theorem length_le_of_cut? {mark cs a b a' b' : List Char} (h : cut? mark cs = some (a, b))
    (heq : cs = a' ++ mark ++ b') : a.length ≤ a'.length := by
  fun_induction cut? mark cs generalizing a b a' b' with
  | case1 hm =>
    simp only [Option.some.injEq, Prod.mk.injEq] at h
    obtain ⟨rfl, rfl⟩ := h
    exact Nat.zero_le _
  | case2 => simp at h
  | case3 c cs hprefix =>
    simp only [Option.some.injEq, Prod.mk.injEq] at h
    obtain ⟨rfl, rfl⟩ := h
    exact Nat.zero_le _
  | case4 c cs hprefix ih =>
    obtain ⟨⟨a₁, b₁⟩, hcut, h⟩ := Option.map_eq_some_iff.1 h
    simp only [Prod.mk.injEq] at h
    obtain ⟨rfl, rfl⟩ := h
    cases a' with
    | nil =>
      -- the mark would stand at the very start
      refine absurd (List.isPrefixOf_iff_prefix.2 ⟨b', ?_⟩) hprefix
      simpa using heq.symm
    | cons c' a' =>
      have htail : cs = a' ++ mark ++ b' := by simpa using (List.cons.inj heq).2
      simpa using ih hcut htail

theorem cut?_eq_some_iff {mark cs a b : List Char} :
    cut? mark cs = some (a, b) ↔ FirstCut mark cs a b := by
  constructor
  · intro h
    exact ⟨eq_append_of_cut? h, fun a' b' heq => length_le_of_cut? h heq⟩
  · intro h
    cases hcut : cut? mark cs with
    | none => exact absurd ⟨a, b, h.eq_append.symm⟩ (cut?_eq_none_iff.1 hcut)
    | some p =>
      have hp : FirstCut mark cs p.1 p.2 :=
        ⟨eq_append_of_cut? hcut, fun a' b' heq => length_le_of_cut? hcut heq⟩
      obtain ⟨ha, hb⟩ := hp.unique h
      rw [← ha, ← hb]

end Text

namespace Url

open Text (FirstCut)

/-- The text before the first mark of a URL, or all of it if it has none. -/
def IsBeforeMark (url name : String) : Prop :=
  (∃ rest, FirstCut mark url.toList name.toList rest) ∨ (¬ mark <:+: url.toList ∧ name = url)

theorem isBeforeMark_schemeOrAll (url : String) : IsBeforeMark url (schemeOrAll url) := by
  unfold schemeOrAll
  split
  · rename_i scheme rest h
    exact .inl ⟨rest, by simpa using Text.cut?_eq_some_iff.1 h⟩
  · rename_i h
    exact .inr ⟨Text.cut?_eq_none_iff.1 h, rfl⟩

/-- Whether a URL has this scheme: the text before its first mark, in any ASCII letter case. -/
def HasScheme (url scheme : String) : Prop :=
  ∃ before rest, FirstCut mark url.toList before rest ∧ lower scheme.toList = lower before

theorem hasScheme_iff {schemes : List String} {url : String} :
    hasScheme schemes url = true ↔ ∃ s ∈ schemes, HasScheme url s := by
  unfold hasScheme
  split
  · rename_i before rest h
    have hcut := Text.cut?_eq_some_iff.1 h
    simp only [List.any_eq_true, beq_iff_eq]
    constructor
    · rintro ⟨s, hs, heq⟩
      exact ⟨s, hs, before, rest, hcut, heq⟩
    · rintro ⟨s, hs, before', rest', hcut', heq⟩
      exact ⟨s, hs, (hcut.unique hcut').1 ▸ heq⟩
  · rename_i h
    simp only [Bool.false_eq_true, false_iff]
    rintro ⟨s, -, before, rest, hcut, -⟩
    exact Text.cut?_eq_none_iff.1 h ⟨before, rest, hcut.eq_append.symm⟩

/-- A URL with something on both sides of its first mark. -/
def Absolute (url : String) : Prop :=
  ∃ scheme rest, FirstCut mark url.toList scheme rest ∧ scheme ≠ [] ∧ rest ≠ []

theorem isAbsolute_iff {url : String} : isAbsolute url = true ↔ Absolute url := by
  unfold isAbsolute split?
  split
  next scheme rest h =>
    have hcut := Text.cut?_eq_some_iff.1 h
    simp only [Bool.and_eq_true, Bool.not_eq_true', List.isEmpty_eq_false_iff]
    constructor
    · rintro ⟨hscheme, hrest⟩
      exact ⟨scheme, rest, hcut, hscheme, hrest⟩
    · rintro ⟨scheme', rest', hcut', hscheme, hrest⟩
      obtain ⟨rfl, rfl⟩ := hcut.unique hcut'
      exact ⟨hscheme, hrest⟩
  next h =>
    refine iff_of_false Bool.false_ne_true ?_
    rintro ⟨scheme, rest, hcut, -⟩
    exact Text.cut?_eq_none_iff.1 h ⟨scheme, rest, hcut.eq_append.symm⟩

end Url

end StreamSource
