import Mathlib.Data.List.TakeWhile
import StreamSource.Text.Blank

/-! What trimming leaves of a text. Nothing but blanks is taken away, on both sides; what is left
neither starts nor ends with a blank, and it is empty for texts of blanks alone. So the blanks that
are left are those that stand between other characters, and there is one part of a text that
trimming can leave. -/

namespace StreamSource.Text

theorem head?_trimStart (cs : List Char) : ∀ c ∈ (trimStart cs).head?, isBlank c = false := by
  intro c hc
  have hhead := List.head?_dropWhile_not isBlank cs
  unfold trimStart at hc
  rw [Option.mem_def.1 hc] at hhead
  exact hhead

theorem getLast?_trimEnd (cs : List Char) : ∀ c ∈ (trimEnd cs).getLast?, isBlank c = false := by
  unfold trimEnd
  rw [List.getLast?_reverse]
  exact head?_trimStart cs.reverse

theorem exists_append_trimStart (cs : List Char) :
    ∃ as, allBlank as = true ∧ cs = as ++ trimStart cs :=
  ⟨cs.takeWhile isBlank, List.all_takeWhile, List.takeWhile_append_dropWhile.symm⟩

theorem exists_trimEnd_append (cs : List Char) :
    ∃ bs, allBlank bs = true ∧ cs = trimEnd cs ++ bs := by
  obtain ⟨bs, hbs, heq⟩ := exists_append_trimStart cs.reverse
  refine ⟨bs.reverse, by rwa [allBlank, List.all_reverse], ?_⟩
  have hreverse := congrArg List.reverse heq
  rwa [List.reverse_reverse, List.reverse_append] at hreverse

/-- A text is what trimming leaves of it with blanks before and after. -/
theorem exists_eq_append_trim (cs : List Char) :
    ∃ as bs, allBlank as = true ∧ allBlank bs = true ∧ cs = as ++ (trim cs ++ bs) := by
  obtain ⟨as, has, hstart⟩ := exists_append_trimStart cs
  obtain ⟨bs, hbs, hend⟩ := exists_trimEnd_append (trimStart cs)
  refine ⟨as, bs, has, hbs, ?_⟩
  unfold trim
  rw [← hend, ← hstart]

theorem head?_trim (cs : List Char) : ∀ c ∈ (trim cs).head?, isBlank c = false := by
  intro c hc
  obtain ⟨bs, -, hend⟩ := exists_trimEnd_append (trimStart cs)
  have hc : (trimEnd (trimStart cs)).head? = some c := hc
  refine head?_trimStart cs c ?_
  rw [hend, List.head?_append, hc]
  rfl

theorem getLast?_trim (cs : List Char) : ∀ c ∈ (trim cs).getLast?, isBlank c = false :=
  getLast?_trimEnd (trimStart cs)

theorem isBlank_of_allBlank {cs : List Char} (h : allBlank cs = true) {c : Char} (hc : c ∈ cs) :
    isBlank c = true :=
  List.all_eq_true.1 h c hc

theorem trim_ne_nil {cs : List Char} (h : ∃ c ∈ cs, isBlank c = false) : trim cs ≠ [] := by
  intro hnil
  obtain ⟨c, hc, hgraphic⟩ := h
  obtain ⟨as, bs, has, hbs, heq⟩ := exists_eq_append_trim cs
  rw [heq, hnil, List.nil_append] at hc
  have hblank : isBlank c = true :=
    (List.mem_append.1 hc).elim (isBlank_of_allBlank has) (isBlank_of_allBlank hbs)
  rw [hgraphic] at hblank
  cases hblank

/-! ### Blanks inside -/

/-- A blank stands between characters that are none. -/
def HasInnerBlank (cs : List Char) : Prop :=
  ∃ before c after, cs = before ++ c :: after ∧ isBlank c = true ∧
    (∃ d ∈ before, isBlank d = false) ∧ ∃ d ∈ after, isBlank d = false

theorem trimStart_append_of_graphic {as : List Char} (h : ∃ d ∈ as, isBlank d = false)
    (bs : List Char) : trimStart (as ++ bs) = trimStart as ++ bs := by
  obtain ⟨d, hd, hgraphic⟩ := h
  have hne : as.dropWhile isBlank ≠ [] := fun hnil => by
    rw [List.dropWhile_eq_nil_iff.1 hnil d hd] at hgraphic
    cases hgraphic
  unfold trimStart
  rw [List.dropWhile_append, if_neg (by simpa using hne)]

theorem trimEnd_append_of_graphic {bs : List Char} (h : ∃ d ∈ bs, isBlank d = false)
    (as : List Char) : trimEnd (as ++ bs) = as ++ trimEnd bs := by
  have hreverse : ∃ d ∈ bs.reverse, isBlank d = false := by simpa using h
  have hstart := trimStart_append_of_graphic hreverse as.reverse
  unfold trimStart at hstart
  unfold trimEnd
  rw [List.reverse_append, hstart, List.reverse_append, List.reverse_reverse]

/-- The blanks that trimming leaves are those between other characters. -/
theorem exists_isBlank_trim_iff {cs : List Char} :
    (∃ c ∈ trim cs, isBlank c = true) ↔ HasInnerBlank cs := by
  constructor
  · rintro ⟨c, hc, hblank⟩
    obtain ⟨as, bs, -, -, heq⟩ := exists_eq_append_trim cs
    obtain ⟨before, after, htrim⟩ := List.append_of_mem hc
    have hhead := head?_trim cs
    have hlast := getLast?_trim cs
    rw [htrim] at heq hhead hlast
    refine ⟨as ++ before, c, after ++ bs, by simpa using heq, hblank, ?_, ?_⟩
    · cases before with
      | nil =>
        rw [hhead c rfl] at hblank
        cases hblank
      | cons d before => exact ⟨d, by simp, hhead d rfl⟩
    · cases hafter : after.getLast? with
      | none =>
        rw [List.getLast?_eq_none_iff.1 hafter] at hlast
        rw [hlast c (by simp)] at hblank
        cases hblank
      | some d =>
        have hd : d ∈ after := List.mem_of_getLast? hafter
        refine ⟨d, List.mem_append_left bs hd, hlast d ?_⟩
        rw [List.getLast?_append, List.getLast?_cons, hafter]
        rfl
  · rintro ⟨before, c, after, rfl, hblank, hbefore, d, hd, hgraphic⟩
    have hrest : ∃ d ∈ c :: after, isBlank d = false := ⟨d, List.mem_cons_of_mem c hd, hgraphic⟩
    rw [trim, trimStart_append_of_graphic hbefore, ← List.singleton_append,
      ← List.append_assoc, trimEnd_append_of_graphic ⟨d, hd, hgraphic⟩]
    exact ⟨c, by simp, hblank⟩

/-! ### Blanks around -/

/-- A text is a part that neither starts nor ends with a blank, with nothing but blanks around. -/
structure TrimsTo (cs part : List Char) : Prop where
  around : ∃ as bs, allBlank as = true ∧ allBlank bs = true ∧ cs = as ++ (part ++ bs)
  head : ∀ c ∈ part.head?, isBlank c = false
  last : ∀ c ∈ part.getLast?, isBlank c = false

theorem trimStart_of_allBlank {cs : List Char} (h : allBlank cs = true) : trimStart cs = [] := by
  have hnil := trimStart_append h []
  rwa [List.append_nil] at hnil

theorem trimEnd_append_of_allBlank {bs : List Char} (h : allBlank bs = true) (cs : List Char) :
    trimEnd (cs ++ bs) = trimEnd cs := by
  have hreverse : allBlank bs.reverse = true := by rwa [allBlank, List.all_reverse]
  have hstart := trimStart_append hreverse cs.reverse
  unfold trimStart at hstart
  unfold trimEnd
  rw [List.reverse_append, hstart]

theorem trim_append_append {as bs : List Char} (has : allBlank as = true)
    (hbs : allBlank bs = true) (cs : List Char) : trim (as ++ (cs ++ bs)) = trim cs := by
  rw [trim, trimStart_append has, trim]
  by_cases hcs : ∃ d ∈ cs, isBlank d = false
  · rw [trimStart_append_of_graphic hcs, trimEnd_append_of_allBlank hbs]
  · have hblank : allBlank cs = true := by simpa [allBlank] using hcs
    rw [trimStart_append hblank, trimStart_of_allBlank hbs, trimStart_of_allBlank hblank]

/-- There is one part that a text is trimmed to, and trimming leaves it. -/
theorem trim_eq_iff {cs part : List Char} : trim cs = part ↔ TrimsTo cs part := by
  constructor
  · rintro rfl
    exact ⟨exists_eq_append_trim cs, head?_trim cs, getLast?_trim cs⟩
  · rintro ⟨⟨as, bs, has, hbs, rfl⟩, hhead, hlast⟩
    rw [trim_append_append has hbs, trim_eq_self_of_ends hhead hlast]

end StreamSource.Text
