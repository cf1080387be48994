import StreamSource.Parameters.Assignment
import StreamSource.Proofs.Text.FirstCut
import StreamSource.Proofs.Text.Numeral

/-! What assignments say. The name stands before the first equals sign, and an assignment is
malformed if it has no such sign or if all before it is blank; any other gives its trimmed name
the value that is written after the sign. A name with an equals sign and the text of a value behind
it gives the name this value again, unless the value is a text that also writes a flag or an
integer. -/

namespace StreamSource.Parameter

open Text (FirstCut)

/-- There is no equals sign, or nothing but blanks before the first one. -/
def Malformed (a : String) : Prop :=
  '=' ∉ a.toList ∨
    ∃ name value, FirstCut ['='] a.toList name value ∧ ∀ c ∈ name, Text.isBlank c = true

/-- The assignment gives the parameter its name and its value. -/
def Assigns (a : String) (p : Parameter) : Prop :=
  ∃ name value, FirstCut ['='] a.toList name value ∧ (∃ c ∈ name, Text.isBlank c = false) ∧
    p.name = String.ofList (Text.trim name) ∧ p.value = .ofText (String.ofList value)

theorem ofAssignment?_of_firstCut {a : String} {name value : List Char}
    (h : FirstCut ['='] a.toList name value) :
    ofAssignment? a =
      if Text.allBlank name then none
      else some ⟨String.ofList (Text.trim name), .ofText (String.ofList value)⟩ := by
  unfold ofAssignment?
  rw [Text.cut?_eq_some_iff.2 h]

theorem malformed_iff {a : String} : Malformed a ↔ ofAssignment? a = none := by
  cases hcut : Text.cut? ['='] a.toList with
  | none =>
    have hsign : '=' ∉ a.toList := fun hmem => by
      obtain ⟨before, after, heq⟩ := List.append_of_mem hmem
      exact Text.cut?_eq_none_iff.1 hcut ⟨before, after, by simp [heq]⟩
    have hnone : ofAssignment? a = none := by
      unfold ofAssignment?
      rw [hcut]
    exact iff_of_true (.inl hsign) hnone
  | some cut =>
    obtain ⟨name, value⟩ := cut
    have hfirst := Text.cut?_eq_some_iff.1 hcut
    have hsign : '=' ∈ a.toList := by simp [hfirst.eq_append]
    rw [ofAssignment?_of_firstCut hfirst]
    constructor
    · rintro (habsent | ⟨name', value', hfirst', hblank⟩)
      · exact absurd hsign habsent
      · obtain ⟨rfl, -⟩ := hfirst.unique hfirst'
        exact if_pos (List.all_eq_true.2 hblank)
    · intro hnone
      refine .inr ⟨name, value, hfirst, List.all_eq_true.1 ?_⟩
      simpa [Text.allBlank] using hnone

instance (a : String) : Decidable (Malformed a) := decidable_of_iff _ malformed_iff.symm

theorem assigns_of_ofAssignment? {a : String} {p : Parameter} (h : ofAssignment? a = some p) :
    Assigns a p := by
  unfold ofAssignment? at h
  split at h
  · rename_i name value hcut
    obtain ⟨hblank, heq⟩ := Option.ite_none_left_eq_some.1 h
    cases heq
    refine ⟨name, value, Text.cut?_eq_some_iff.1 hcut, ?_, rfl, rfl⟩
    simpa [Text.allBlank] using hblank
  · cases h

/-! ### Written assignments -/

/-- A name that can stand before an equals sign as it is. -/
structure Assignable (name : String) : Prop where
  ne_nil : name.toList ≠ []
  head : ∀ c ∈ name.toList.head?, Text.isBlank c = false
  last : ∀ c ∈ name.toList.getLast?, Text.isBlank c = false
  noSign : '=' ∉ name.toList

namespace Assignable

variable {name : String}

theorem trim_eq (h : Assignable name) : Text.trim name.toList = name.toList :=
  Text.trim_eq_self_of_ends h.head h.last

theorem not_allBlank (h : Assignable name) : ¬ Text.allBlank name.toList = true := by
  intro hblank
  obtain ⟨c, cs, hname⟩ := List.exists_cons_of_ne_nil h.ne_nil
  have hc : Text.isBlank c = true := List.all_eq_true.1 hblank c (hname ▸ List.mem_cons_self)
  rw [h.head c (by rw [hname]; rfl)] at hc
  cases hc

theorem firstCut (h : Assignable name) (text : String) :
    FirstCut ['='] (name ++ "=" ++ text).toList name.toList text.toList where
  eq_append := by simp
  first a b heq := by
    by_contra hlt
    -- the sign would stand inside the name
    have hsign : (name ++ "=" ++ text).toList[a.length]? = some '=' := by simp [heq]
    rw [String.toList_append, String.toList_append, List.append_assoc,
      List.getElem?_append_left (Nat.lt_of_not_le hlt)] at hsign
    exact h.noSign (List.mem_of_getElem? hsign)

theorem ofAssignment?_eq (h : Assignable name) (text : String) :
    ofAssignment? (name ++ "=" ++ text) = some ⟨name, .ofText text⟩ := by
  rw [ofAssignment?_of_firstCut (h.firstCut text), if_neg h.not_allBlank, h.trim_eq,
    String.ofList_toList, String.ofList_toList]

end Assignable

/-- The text is written for a flag or for an integer. -/
def WritesScalar (s : String) : Prop := s = "true" ∨ s = "false" ∨ Text.IsInt64 s.toList

theorem ofText_eq_text_iff {s : String} :
    ParameterValue.ofText s = .text s ↔ ¬ WritesScalar s := by
  unfold ParameterValue.ofText WritesScalar
  by_cases htrue : s = "true"
  · simp [htrue]
  · by_cases hfalse : s = "false"
    · simp [hfalse]
    · rw [if_neg htrue, if_neg hfalse]
      cases hint : Text.int64? s.toList with
      | none =>
        have hnot := Text.int64?_eq_none_iff.1 hint
        simp [htrue, hfalse, hnot]
      | some n =>
        have his : Text.IsInt64 s.toList := by
          by_contra hnot
          rw [Text.int64?_eq_none_iff.2 hnot] at hint
          cases hint
        simp [his]

theorem ofText_showInt (n : Int64) :
    ParameterValue.ofText (Text.showInt n.toInt) = .integer n := by
  have hread := Text.int64?_showInt n
  have hne {s : String} (hs : Text.int64? s.toList = none) : Text.showInt n.toInt ≠ s := by
    rintro rfl
    rw [hread] at hs
    cases hs
  unfold ParameterValue.ofText
  rw [if_neg (hne (by decide)), if_neg (hne (by decide)), hread]

theorem ofText_display_iff {v : ParameterValue} :
    ParameterValue.ofText v.display = v ↔ ∀ s, v = .text s → ¬ WritesScalar s := by
  cases v with
  | text s =>
    refine ofText_eq_text_iff.trans ⟨fun h t ht => ?_, fun h => h s rfl⟩
    cases ht
    exact h
  | integer n => exact iff_of_true (ofText_showInt n) (fun s hs => by cases hs)
  | boolean b =>
    refine iff_of_true ?_ (fun s hs => by cases hs)
    cases b <;> rfl

/-- An assignment that is written for a name and a value gives the name this value, the texts that
are written for flags and integers apart. No assignment fails but those without an equals sign and
those with nothing but blanks before the first one. -/
theorem ofAssignment?_display_and_malformed :
    (∀ name, Assignable name → ∀ v : ParameterValue,
      ofAssignment? (name ++ "=" ++ v.display) = some ⟨name, v⟩ ↔
        ∀ s, v = .text s → ¬ WritesScalar s) ∧
    ∀ a, ofAssignment? a = none ↔ Malformed a := by
  refine ⟨fun name hname v => ?_, fun a => malformed_iff.symm⟩
  rw [hname.ofAssignment?_eq, ← ofText_display_iff]
  simp

/-- The integers go to the limits of their range, and a numeral beyond them is a text. -/
example :
    ofAssignment? "n=-9223372036854775808" = some ⟨"n", .integer Int64.minValue⟩ ∧
      ofAssignment? "n=9223372036854775808" = some ⟨"n", .text "9223372036854775808"⟩ := by
  decide

theorem assignable_cookie : Assignable "Http Cookie" where
  ne_nil := by decide
  head c hc := by
    obtain rfl : 'H' = c := by simpa using hc
    rfl
  last c hc := by
    obtain rfl : 'e' = c := by simpa using hc
    rfl
  noSign := by decide

/-- The name has a blank in it, and the value has blanks around it and equals signs. -/
theorem ofAssignment?_of_displayed_cookie :
    Assignable "Http Cookie" ∧ ¬ WritesScalar " a=1; b=+2 " ∧
      ofAssignment? ("Http Cookie" ++ "=" ++ (ParameterValue.text " a=1; b=+2 ").display) =
        some ⟨"Http Cookie", .text " a=1; b=+2 "⟩ := by
  have hvalue : ¬ WritesScalar " a=1; b=+2 " := ofText_eq_text_iff.1 (by decide)
  refine ⟨assignable_cookie, hvalue,
    (ofAssignment?_display_and_malformed.1 _ assignable_cookie _).2 fun s hs => ?_⟩
  cases hs
  exact hvalue

end StreamSource.Parameter
