import Mathlib.Data.Bool.AllAny
import StreamSource.Proofs.Text.Blank
import StreamSource.Environment.Layer

/-! Variables named after a section and a field. In whatever letter case its name is, such a
variable makes a layer with one leaf: its value, under the section and the field in small
letters. -/

namespace StreamSource.Environment

open Text

/-- The name is, but for letter case, the mark, a section, an underscore and a field, and the
field is a word of letters, digits and underscores. -/
structure Names (name : String) (place : String × String) : Prop where
  small : name.toList.map Char.toLower =
    mark.toList.map Char.toLower ++ (place.1.toList ++ '_' :: place.2.toList)
  mem_sections : place.1 ∈ sections
  nonempty : place.2.toList ≠ []
  word : ∀ c ∈ place.2.toList, c.isAlphanum = true ∨ c = '_'

theorem isAlphanum_of_mem_section {s : String} (hs : s ∈ sections) {c : Char}
    (hc : c ∈ s.toList) : c.isAlphanum = true := by
  have hall : sections.all (·.toList.all Char.isAlphanum) = true := by decide
  exact List.all_eq_true.1 (List.all_eq_true.1 hall s hs) c hc

/-- A section and an underscore lead to a field, since no section begins another. -/
theorem placeOf_section {s : String} (hs : s ∈ sections) (field : List Char) :
    placeOf (s.toList ++ '_' :: field) = s.toList ++ '.' :: field := by
  simp only [sections, List.mem_cons, List.not_mem_nil, or_false] at hs
  rcases hs with rfl | rfl | rfl | rfl <;> rfl

theorem isBlank_of_word {c : Char} (h : c.isAlphanum = true ∨ c = '_') : isBlank c = false := by
  rcases h with h | rfl
  · exact isBlank_of_graphic (graphic_of_isAlphanum h)
  · decide

theorem ne_point_of_word {c : Char} (h : c.isAlphanum = true ∨ c = '_') : '.' ≠ c := by
  rintro rfl
  revert h
  decide

namespace Names

variable {name : String} {place : String × String}

/-- What stands in a name, in small letters. -/
theorem word_of_mem (h : Names name place) {c : Char} (hc : c ∈ name.toList.map Char.toLower) :
    c.isAlphanum = true ∨ c = '_' := by
  have hmark : ∀ c ∈ mark.toList.map Char.toLower, c.isAlphanum = true ∨ c = '_' :=
    List.all_iff_forall_prop.1 (by decide)
  rw [h.small, List.mem_append, List.mem_append, List.mem_cons] at hc
  rcases hc with hc | hc | hc | hc
  · exact hmark c hc
  · exact .inl (isAlphanum_of_mem_section h.mem_sections hc)
  · exact .inr hc
  · exact h.word c hc

theorem trim_toList (h : Names name place) : trim name.toList = name.toList := by
  refine trim_eq_self fun c hc => ?_
  rw [← isBlank_toLower]
  exact isBlank_of_word (h.word_of_mem (List.mem_map_of_mem hc))

theorem pathOf?_eq (h : Names name place) : pathOf? name = some [place.1, place.2] := by
  have hsection : '.' ∉ place.1.toList := fun hc =>
    ne_point_of_word (.inl (isAlphanum_of_mem_section h.mem_sections hc)) rfl
  have hfield : '.' ∉ place.2.toList := fun hc => ne_point_of_word (h.word _ hc) rfl
  have hne : place.1.toList ≠ [] := by
    have hall : ∀ s ∈ sections, s.toList ≠ [] := by decide
    exact hall _ h.mem_sections
  have hblank : trim (place.1.toList ++ '.' :: place.2.toList) =
      place.1.toList ++ '.' :: place.2.toList := by
    refine trim_eq_self fun c hc => ?_
    rcases List.mem_append.1 hc with hc | hc
    · exact isBlank_of_word (.inl (isAlphanum_of_mem_section h.mem_sections hc))
    · rcases List.mem_cons.1 hc with rfl | hc
      · decide
      · exact isBlank_of_word (h.word c hc)
  have hpieces : pieces '.' (place.1.toList ++ '.' :: place.2.toList) =
      [place.1.toList, place.2.toList] := by
    rw [pieces_append_cons hsection, pieces_of_notMem hfield]
  have hprefix : (mark.toList.map Char.toLower).isPrefixOf (name.toList.map Char.toLower) = true :=
    List.isPrefixOf_iff_prefix.2 ⟨_, h.small.symm⟩
  unfold pathOf?
  dsimp only
  rw [h.trim_toList, if_pos hprefix, h.small, List.drop_left, placeOf_section h.mem_sections,
    hblank, hpieces]
  simp [hne, h.nonempty]

/-- Names of one place differ in letter case only. -/
theorem small_eq {name' : String} (h : Names name place) (h' : Names name' place) :
    name.toList.map Char.toLower = name'.toList.map Char.toLower :=
  h.small.trans h'.small.symm

end Names

theorem names_cookie : Names "URLSPLITTER_HTTP_COOKIE" ("http", "cookie") where
  small := by decide
  mem_sections := by decide
  nonempty := by decide
  word := List.all_iff_forall_prop.1 (by decide)

/-! ### Values -/

/-- What is read from a variable was made in the environment. -/
theorem origin_of_value? {fuel : Nat} {cs r : List Char} {v : Setting}
    (h : value? fuel cs = some (v, r)) : v.origin = .environment := by
  cases fuel with
  | zero => simp [value?] at h
  | succ fuel =>
    rw [value?] at h
    split at h
    next =>
      obtain ⟨p, _, heq⟩ := Option.map_eq_some_iff.1 h
      cases heq
      rfl
    next =>
      obtain ⟨p, _, heq⟩ := Option.map_eq_some_iff.1 h
      cases heq
      rfl
    next =>
      obtain ⟨p, _, heq⟩ := Option.map_eq_some_iff.1 h
      cases heq
      rfl
    next =>
      cases h
      rfl
    next => cases h
    next => split_ifs at h <;> cases h <;> rfl

theorem origin_settingOf (value : String) : (settingOf value).origin = .environment := by
  unfold settingOf
  dsimp only
  split
  next v h => exact origin_of_value? h
  next => rfl

/-- The layer with one leaf. -/
def leafLayer (place : String × String) (v : Setting) : Layer :=
  [(place.1, .table .environment [(place.2, v)])]

theorem Names.layerOf_eq {name : String} {place : String × String} (h : Names name place)
    (value : String) : layerOf name value = leafLayer place (settingOf value) := by
  rw [layerOf, h.pathOf?_eq]
  dsimp only
  rw [Setting.under, Setting.under, Setting.under, origin_settingOf, leafLayer]

end StreamSource.Environment
