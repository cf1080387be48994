import Mathlib.Data.List.TakeWhile
import StreamSource.Proofs.Text.Blank
import StreamSource.Proofs.Text.ByteOrder
import StreamSource.Proofs.Text.FirstCut
import StreamSource.Settings.KeyPosition

/-! The search for a key in a text. It finds the first place where the key comes first in its
line, but for blanks, with a separator behind it; the search for a key in a section does so behind
the first header of the section, wherever this header stands. -/

namespace StreamSource.KeyPosition

open Text

variable {key cs before after : List Char}

/-! ### Bytes -/

theorem size_append (a b : List Char) : size (a ++ b) = size a + size b := by
  induction a with
  | nil => exact (Nat.zero_add _).symm
  | cons c a ih =>
    change c.utf8Size + size (a ++ b) = c.utf8Size + size a + size b
    rw [ih, Nat.add_assoc]

theorem size_pos (h : cs ≠ []) : 0 < size cs := by
  cases cs with
  | nil => exact absurd rfl h
  | cons c r => exact Nat.lt_of_lt_of_le c.utf8Size_pos (Nat.le_add_right _ _)

theorem size_le_of_suffix {a b : List Char} (h : a <:+ b) : size a ≤ size b := by
  obtain ⟨d, rfl⟩ := h
  rw [size_append]
  exact Nat.le_add_left _ _

theorem size_le_of_prefix {a b : List Char} (h : a <+: b) : size a ≤ size b := by
  obtain ⟨d, rfl⟩ := h
  rw [size_append]
  exact Nat.le_add_right _ _

theorem length_flatMap_utf8EncodeChar (cs : List Char) :
    (cs.flatMap String.utf8EncodeChar).length = size cs := by
  induction cs with
  | nil => rfl
  | cons c cs ih =>
    rw [List.flatMap_cons, List.length_append, String.length_utf8EncodeChar, ih]
    rfl

/-- The bytes of a part of a text. -/
theorem take_drop_utf8 {s : String} {t : String} {before after : List Char}
    (h : s.toList = before ++ (t.toList ++ after)) :
    ((utf8 s).drop (size before)).take (size t.toList) = utf8 t := by
  rw [utf8_eq_flatMap, utf8_eq_flatMap, h, List.flatMap_append, List.flatMap_append,
    ← length_flatMap_utf8EncodeChar before, List.drop_left, ← length_flatMap_utf8EncodeChar,
    List.take_left]

/-! ### Keys in lines -/

/-- What may follow a key. -/
def IsSeparator (c : Char) : Prop := c = ' ' ∨ c = '=' ∨ c = '\t'

theorem startsWith_eq_true_iff :
    startsWith key cs = true ↔ ∃ c r, IsSeparator c ∧ cs = key ++ c :: r := by
  rw [startsWith, Bool.and_eq_true, List.isPrefixOf_iff_prefix]
  constructor
  · rintro ⟨⟨r, rfl⟩, hnext⟩
    rw [List.drop_left] at hnext
    cases r with
    | nil => cases hnext
    | cons c r => exact ⟨c, r, by simpa [IsSeparator, or_assoc] using hnext, rfl⟩
  · rintro ⟨c, r, hc, rfl⟩
    refine ⟨List.prefix_append _ _, ?_⟩
    rw [List.drop_left]
    simpa [IsSeparator, or_assoc] using hc

/-- A key stands in a text behind `before`: a separator follows it, and in its line only blanks
come before it. -/
structure KeyAt (key cs before after : List Char) : Prop where
  eq_append : cs = before ++ (key ++ after)
  oneLine : '\n' ∉ key
  indented : ∃ a b, before = a ++ b ∧ StartsLine a ∧ ∀ c ∈ b, isBlank c = true
  visible : ∀ c ∈ (key ++ after).head?, isBlank c = false
  separated : ∃ c ∈ after.head?, IsSeparator c

/-- No place for the key comes before this one. -/
structure FirstKeyAt (key cs before after : List Char) : Prop extends
    KeyAt key cs before after where
  first : ∀ before' after', KeyAt key cs before' after' → before.length ≤ before'.length

theorem KeyAt.length_blanks_le (h : KeyAt key cs before after) {p : List Char} (hp : p <+: cs)
    (hblank : ∀ c ∈ p, isBlank c = true) : p.length ≤ before.length := by
  by_contra hlt
  have hbefore : before <+: cs := ⟨_, h.eq_append.symm⟩
  obtain ⟨d, rfl⟩ := List.prefix_of_prefix_length_le hbefore hp (by omega)
  obtain ⟨r, hr⟩ := hp
  rw [h.eq_append, List.append_assoc] at hr
  have hd : d ++ r = key ++ after := List.append_cancel_left hr
  cases d with
  | nil => simp at hlt
  | cons c d =>
    have hc := h.visible c (by rw [← hd]; rfl)
    rw [hblank c (by simp)] at hc
    cases hc

theorem FirstKeyAt.unique {before' after' : List Char} (h : FirstKeyAt key cs before after)
    (h' : FirstKeyAt key cs before' after') : before = before' := by
  have hlength : before.length = before'.length :=
    Nat.le_antisymm (h.first _ _ h'.toKeyAt) (h'.first _ _ h.toKeyAt)
  exact (List.append_inj (h.eq_append.symm.trans h'.eq_append) hlength).1

theorem KeyAt.ne_nil (h : KeyAt key cs before after) : cs ≠ [] := by
  rintro rfl
  obtain ⟨_, hnil⟩ := List.append_eq_nil_iff.1 h.eq_append.symm
  obtain ⟨_, hc, _⟩ := h.separated
  rw [(List.append_eq_nil_iff.1 hnil).2] at hc
  cases hc

/-- A key behind a part of a text stands in what comes after this part. -/
theorem KeyAt.exists_of_length_le {l rest : List Char} (h : KeyAt key (l ++ rest) before after)
    (hle : l.length ≤ before.length) :
    ∃ before', before = l ++ before' ∧ KeyAt key rest before' after := by
  obtain ⟨before', rfl⟩ : l <+: before :=
    List.prefix_of_prefix_length_le ⟨rest, rfl⟩ ⟨key ++ after, h.eq_append.symm⟩ hle
  have hrest : rest = before' ++ (key ++ after) := by
    have heq := h.eq_append
    rw [List.append_assoc l before'] at heq
    exact List.append_cancel_left heq
  refine ⟨before', rfl, hrest, h.oneLine, ?_, h.visible, h.separated⟩
  -- the line may start in the part or after it
  obtain ⟨a, b, hab, ha, hb⟩ := h.indented
  rcases List.append_eq_append_iff.1 hab with ⟨a', rfl, rfl⟩ | ⟨b', heq, rfl⟩
  · refine ⟨a', b, rfl, ?_, hb⟩
    by_cases ha' : a' = []
    · exact .inl ha'
    · rcases ha with hnil | hlast
      · exact .inl (List.append_eq_nil_iff.1 hnil).2
      · exact .inr (List.getLast?_append_of_ne_nil _ ha' ▸ hlast)
  · exact ⟨[], before', rfl, .inl rfl, fun c hc => hb c (List.mem_append_right b' hc)⟩

/-- Texts that end with a line feed and have no other; the last may have none at all. -/
inductive AreLines : List (List Char) → Prop
  | nil : AreLines []
  | cons (body e : List Char) {ls : List (List Char)} (hbody : '\n' ∉ body)
      (hend : e = ['\n'] ∨ e = [] ∧ ls = []) (hls : AreLines ls) : AreLines ((body ++ e) :: ls)

theorem areLines_lines (cs : List Char) : AreLines (lines cs) := by
  fun_induction lines cs with
  | case1 => exact .nil
  | case2 r ih => exact .cons [] _ List.not_mem_nil (.inl rfl) ih
  | case3 c r hc hlines =>
    exact .cons [c] [] (by simpa using Ne.symm hc) (.inr ⟨rfl, rfl⟩) .nil
  | case4 c r hc l ls hlines ih =>
    rw [hlines] at ih
    cases ih with
    | cons body e hbody hend hls =>
      exact .cons (c :: body) e (by simpa using ⟨Ne.symm hc, hbody⟩) hend hls

/-! ### One line and the lines after it -/

section Line

variable {body e rest : List Char}

theorem eq_nil_of_startsLine {a : List Char} (h : StartsLine a) (hmem : '\n' ∉ a) : a = [] :=
  h.resolve_right fun hlast => hmem (List.mem_of_getLast? hlast)

variable (hbody : '\n' ∉ body) (hend : e = ['\n'] ∨ e = [] ∧ rest = [])
include hbody hend

/-- A line feed stands only at the end of a line. -/
theorem notMem_of_line {a d : List Char} (h : body ++ e = a ++ d) (hd : d ≠ []) : '\n' ∉ a := by
  have hlength : a.length ≤ body.length := by
    have heq := congrArg List.length h
    have hpos := List.length_pos_iff.2 hd
    rcases hend with rfl | ⟨rfl, _⟩ <;> simp at heq <;> omega
  have hstart : a <+: body :=
    List.prefix_of_prefix_length_le ⟨d, h.symm⟩ (List.prefix_append body e) hlength
  exact fun hmem => hbody (hstart.mem hmem)

theorem keyAt_of_startsWith (h : startsWith key (trimStart (body ++ e)) = true) :
    ∃ after, KeyAt key (body ++ e ++ rest) ((body ++ e).takeWhile isBlank) after := by
  obtain ⟨c, r, hc, htrim⟩ := startsWith_eq_true_iff.1 h
  have hsplit : body ++ e = (body ++ e).takeWhile isBlank ++ (key ++ c :: r) := by
    rw [← htrim]
    exact List.takeWhile_append_dropWhile.symm
  refine ⟨c :: r ++ rest, ?_, ?_, ⟨[], _, rfl, .inl rfl, ?_⟩, ?_, c, rfl, hc⟩
  · conv_lhs => rw [hsplit]
    simp only [List.append_assoc]
  · have hkey := notMem_of_line hbody hend (hsplit.trans (List.append_assoc _ _ _).symm) (by simp)
    exact fun hmem => hkey (List.mem_append_right _ hmem)
  · exact fun d hd => List.mem_takeWhile_imp hd
  · have hhead : (key ++ (c :: r ++ rest)).head? = (trimStart (body ++ e)).head? := by
      rw [htrim]
      cases key <;> rfl
    rw [hhead]
    intro d hd
    have hnot := List.head?_dropWhile_not isBlank (body ++ e)
    rw [← trimStart, Option.mem_def.1 hd] at hnot
    exact hnot

/-- A key in a line is what the line starts with. -/
theorem startsWith_of_keyAt {d : List Char} (h : KeyAt key (body ++ e ++ rest) before after)
    (hline : body ++ e = before ++ d) (hd : d ≠ []) :
    startsWith key (trimStart (body ++ e)) = true := by
  obtain ⟨a, b, rfl, ha, hb⟩ := h.indented
  have hnotMem := notMem_of_line hbody hend hline hd
  obtain rfl : a = [] := eq_nil_of_startsLine ha fun hmem => hnotMem (List.mem_append_left b hmem)
  rw [List.nil_append] at hline
  have hrest : d ++ rest = key ++ after := by
    have heq := h.eq_append
    rw [hline, List.append_assoc] at heq
    exact List.append_cancel_left heq
  have htrim : trimStart (body ++ e) = d := by
    rw [hline, trimStart_append (List.all_eq_true.2 hb)]
    refine trimStart_eq_self fun c hc => h.visible c ?_
    rw [← hrest, List.head?_append, Option.mem_def.1 hc]
    rfl
  obtain ⟨c, hc, hseparator⟩ := h.separated
  obtain ⟨r, rfl⟩ : ∃ r, after = c :: r := ⟨_, List.eq_cons_of_mem_head? hc⟩
  rw [htrim, startsWith_eq_true_iff]
  by_cases hlength : (key ++ [c]).length ≤ d.length
  · obtain ⟨r', rfl⟩ : key ++ [c] <+: d :=
      List.prefix_of_prefix_length_le ⟨r, by simp [hrest]⟩ (List.prefix_append d rest) hlength
    exact ⟨c, r', hseparator, (List.append_cons ..).symm⟩
  · -- the end of the line would stand in the key
    rw [List.length_append, List.length_singleton, Nat.not_le, Nat.lt_add_one_iff] at hlength
    rcases hend with rfl | ⟨rfl, rfl⟩
    · have hlast : d.getLast? = some '\n' := by
        rw [← List.getLast?_append_of_ne_nil b hd, ← hline, List.getLast?_concat]
      have hstart : d <+: key :=
        List.prefix_of_prefix_length_le ⟨rest, hrest⟩ (List.prefix_append key _) hlength
      exact absurd (hstart.mem (List.mem_of_getLast? hlast)) h.oneLine
    · have heq := congrArg List.length hrest
      simp at heq
      omega

omit hbody in
theorem KeyAt.append_line (h : KeyAt key rest before after) :
    KeyAt key (body ++ e ++ rest) (body ++ e ++ before) after := by
  obtain ⟨a, b, rfl, ha, hb⟩ := h.indented
  refine ⟨?_, h.oneLine, ⟨body ++ e ++ a, b, (List.append_assoc _ _ _).symm, .inr ?_, hb⟩,
    h.visible, h.separated⟩
  · rw [List.append_assoc (body ++ e) (a ++ b), ← h.eq_append]
  · obtain rfl : e = ['\n'] := hend.resolve_right fun hend => h.ne_nil hend.2
    exact startsLine_append ha (List.getLast?_concat ..)

/-- Unless the line itself starts with the key, the first key stands where it does in the lines
after it. -/
theorem firstKeyAt_append_iff (hno : ¬ startsWith key (trimStart (body ++ e)) = true) :
    FirstKeyAt key (body ++ e ++ rest) before after ↔
      ∃ before', before = body ++ e ++ before' ∧ FirstKeyAt key rest before' after := by
  have hlength {before after : List Char} (h : KeyAt key (body ++ e ++ rest) before after) :
      (body ++ e).length ≤ before.length := by
    by_contra hlt
    have hstart : before <+: body ++ e :=
      List.prefix_of_prefix_length_le ⟨key ++ after, h.eq_append.symm⟩ ⟨rest, rfl⟩ (by omega)
    obtain ⟨d, hd⟩ := hstart
    refine hno (startsWith_of_keyAt hbody hend h hd.symm ?_)
    rintro rfl
    rw [← hd, List.append_nil] at hlt
    exact hlt le_rfl
  constructor
  · intro h
    obtain ⟨before', rfl, hrest⟩ := h.toKeyAt.exists_of_length_le (hlength h.toKeyAt)
    refine ⟨before', rfl, hrest, fun before₁ after₁ h₁ => ?_⟩
    have hle := h.first _ _ (h₁.append_line hend)
    simpa using hle
  · rintro ⟨before', rfl, h⟩
    refine ⟨h.toKeyAt.append_line hend, fun before₁ after₁ h₁ => ?_⟩
    obtain ⟨before₂, rfl, h₂⟩ := h₁.exists_of_length_le (hlength h₁)
    have hle := h.first _ _ h₂
    simpa using hle

end Line

/-! ### The search -/

theorem inLines?_eq_some_iff {ls : List (List Char)} (hls : AreLines ls) {n o : Nat} :
    inLines? key n ls = some o ↔
      ∃ before after, FirstKeyAt key ls.flatten before after ∧ o = n + size before := by
  induction hls generalizing n with
  | nil =>
    refine iff_of_false (by simp [inLines?]) ?_
    rintro ⟨before, after, h, -⟩
    exact h.ne_nil rfl
  | @cons body e ls hbody hend hls ih =>
    have hend : e = ['\n'] ∨ e = [] ∧ ls.flatten = [] :=
      hend.imp_right fun h => ⟨h.1, by rw [h.2]; rfl⟩
    rw [inLines?, List.flatten_cons]
    by_cases hstart : startsWith key (trimStart (body ++ e)) = true
    · rw [if_pos hstart]
      obtain ⟨after, hat⟩ := keyAt_of_startsWith hbody hend hstart
      have hfirst : FirstKeyAt key (body ++ e ++ ls.flatten) ((body ++ e).takeWhile isBlank) after :=
        ⟨hat, fun before' after' h' => h'.length_blanks_le
          ((List.takeWhile_prefix _).trans (List.prefix_append _ _))
          fun c hc => List.mem_takeWhile_imp hc⟩
      have hsize : size (body ++ e) - size (trimStart (body ++ e)) =
          size ((body ++ e).takeWhile isBlank) := by
        have hsplit : (body ++ e).takeWhile isBlank ++ trimStart (body ++ e) = body ++ e :=
          List.takeWhile_append_dropWhile
        have heq := congrArg size hsplit
        rw [size_append] at heq
        omega
      rw [hsize, Option.some.injEq]
      constructor
      · rintro rfl
        exact ⟨_, after, hfirst, rfl⟩
      · rintro ⟨before, after', h, rfl⟩
        rw [h.unique hfirst]
    · rw [if_neg hstart, ih]
      constructor
      · rintro ⟨before, after, h, rfl⟩
        refine ⟨_, after, (firstKeyAt_append_iff hbody hend hstart).2 ⟨before, rfl, h⟩, ?_⟩
        rw [size_append (body ++ e), Nat.add_assoc]
      · rintro ⟨before, after, h, rfl⟩
        obtain ⟨before', rfl, h'⟩ := (firstKeyAt_append_iff hbody hend hstart).1 h
        refine ⟨before', after, h', ?_⟩
        rw [size_append (body ++ e), Nat.add_assoc]

/-- The key of a section stands first behind the first header of the section. -/
theorem offset?_cons_eq_some_iff {content name field : String} {path : List String} {o : Nat} :
    offset? content (name :: path) field = some o ↔
      ∃ a rest before after, FirstCut (header name) content.toList a rest ∧
        FirstKeyAt field.toList rest before after ∧
        o = size a + size (header name) + size before := by
  rw [offset?, Option.bind_eq_some_iff]
  constructor
  · rintro ⟨⟨a, rest⟩, hcut, h⟩
    obtain ⟨before, after, hfirst, ho⟩ := (inLines?_eq_some_iff (areLines_lines rest)).1 h
    rw [flatten_lines] at hfirst
    exact ⟨a, rest, before, after, cut?_eq_some_iff.1 hcut, hfirst, ho⟩
  · rintro ⟨a, rest, before, after, hcut, hfirst, ho⟩
    refine ⟨(a, rest), cut?_eq_some_iff.2 hcut, (inLines?_eq_some_iff (areLines_lines rest)).2 ?_⟩
    rw [flatten_lines]
    exact ⟨before, after, hfirst, ho⟩

end StreamSource.KeyPosition
