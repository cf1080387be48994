import StreamSource.Parameters.Basic
import StreamSource.Proofs.Text.Canonical
import StreamSource.Proofs.Text.Trimmed

/-! Integers read from texts. Blanks around it apart, a text is read as an integer if and only if it
is one or more digits with one sign before them or none, and their number is one of a signed word of
64 bits. A reader that asks for an integer gets its default for every other text, and the written
form of an integer is read back whatever blanks are put around it. -/

namespace StreamSource

open Text (TrimsTo Writes allBlank)

namespace ParameterValue

/-- The text writes an integer of 64 bits, with nothing but blanks around the numeral. -/
structure IsNumeral (s : String) (n : Int) : Prop where
  numeral : ∃ cs, TrimsTo s.toList cs ∧ Writes cs n
  min_le : -2 ^ 63 ≤ n
  le_max : n ≤ 2 ^ 63 - 1

theorem asInteger?_text_eq_some_iff {s : String} {w : Int64} :
    (text s).asInteger? = some w ↔ ∃ cs, TrimsTo s.toList cs ∧ Writes cs w.toInt := by
  change Text.int64? (Text.trim s.toList) = some w ↔ _
  rw [Text.int64?_eq_some_iff]
  constructor
  · intro h
    exact ⟨Text.trim s.toList, Text.trim_eq_iff.1 rfl, h⟩
  · rintro ⟨cs, htrim, h⟩
    rwa [Text.trim_eq_iff.2 htrim]

theorem map_toInt_asInteger?_eq_some_iff {s : String} {n : Int} :
    (text s).asInteger?.map Int64.toInt = some n ↔ IsNumeral s n := by
  rw [Option.map_eq_some_iff]
  constructor
  · rintro ⟨w, hw, rfl⟩
    have hrange := Text.exists_toInt_eq_iff.1 ⟨w, rfl⟩
    exact ⟨asInteger?_text_eq_some_iff.1 hw, hrange.1, hrange.2⟩
  · rintro ⟨hnumeral, hmin, hmax⟩
    obtain ⟨w, rfl⟩ := Text.exists_toInt_eq_iff.2 ⟨hmin, hmax⟩
    exact ⟨w, asInteger?_text_eq_some_iff.2 hnumeral, rfl⟩

instance (s : String) (n : Int) : Decidable (IsNumeral s n) :=
  decidable_of_iff _ map_toInt_asInteger?_eq_some_iff

theorem asInteger?_eq_none_iff {s : String} :
    (text s).asInteger? = none ↔ ∀ n, ¬ IsNumeral s n := by
  rw [← Option.map_eq_none_iff (f := Int64.toInt), Option.eq_none_iff_forall_ne_some]
  exact forall_congr' fun n => not_congr map_toInt_asInteger?_eq_some_iff

/-- The written form of an integer has no blank in it, so trimming takes away what is around it. -/
theorem asInteger?_display (n : Int64) {before after : String}
    (hbefore : allBlank before.toList = true) (hafter : allBlank after.toList = true) :
    (text (before ++ (integer n).display ++ after)).asInteger? = some n := by
  have hwritten : Writes (integer n).display.toList n.toInt := Text.writes_showInt n.toInt
  change Text.int64? (Text.trim (before ++ (integer n).display ++ after).toList) = some n
  rw [String.toList_append, String.toList_append, List.append_assoc,
    Text.trim_append_append hbefore hafter, hwritten.trim_eq, Text.int64?_eq_some_iff]
  exact hwritten

end ParameterValue

namespace Parameters

open ParameterValue (IsNumeral)

variable {ps : Parameters} {name s : String}

theorem integerD_of_text (h : ps.value? name = some (.text s)) (default : Int64) :
    ps.integerD name default = (ParameterValue.text s).asInteger?.getD default := by
  rw [integerD, h, Option.bind_some]

theorem integerD_cases (h : ps.value? name = some (.text s)) (default : Int64) :
    IsNumeral s (ps.integerD name default).toInt ∨
      (∀ n, ¬ IsNumeral s n) ∧ ps.integerD name default = default := by
  rw [integerD_of_text h]
  cases hread : (ParameterValue.text s).asInteger? with
  | some w =>
    refine .inl (ParameterValue.map_toInt_asInteger?_eq_some_iff.1 ?_)
    rw [hread]
    rfl
  | none => exact .inr ⟨ParameterValue.asInteger?_eq_none_iff.1 hread, rfl⟩

/-- Of all texts, the numerals of 64 bits are read as integers, each as its number; under a name
with any other text a reader finds its default, and every integer is read back from its written form
with blanks around it. -/
theorem asInteger?_numerals_and_default_and_display :
    (∀ (s : String) (n : Int),
      (ParameterValue.text s).asInteger?.map Int64.toInt = some n ↔ IsNumeral s n) ∧
    (∀ (ps : Parameters) (name s : String) (default : Int64),
      ps.value? name = some (.text s) →
        IsNumeral s (ps.integerD name default).toInt ∨
          (∀ n, ¬ IsNumeral s n) ∧ ps.integerD name default = default) ∧
    ∀ (n : Int64) (before after : String),
      allBlank before.toList = true → allBlank after.toList = true →
        (ParameterValue.text (before ++ (ParameterValue.integer n).display ++ after)).asInteger? =
          some n :=
  ⟨fun _ _ => ParameterValue.map_toInt_asInteger?_eq_some_iff,
    fun _ _ _ default h => integerD_cases h default,
    fun n _ _ hbefore hafter => ParameterValue.asInteger?_display n hbefore hafter⟩

/-- One beyond the upper limit there is no integer; the lower limit is read, with blanks of other
scripts around it. -/
theorem default_beyond_limit :
    (ofPairs [("n", .text "+9223372036854775808 ")]).value? "n" =
        some (.text "+9223372036854775808 ") ∧
      ((∀ n, ¬ IsNumeral "+9223372036854775808 " n) ∧
        (ofPairs [("n", .text "+9223372036854775808 ")]).integerD "n" 7 = 7) ∧
      allBlank "\u3000\t".toList = true ∧ allBlank "\u00a0".toList = true ∧
      (ParameterValue.text ("\u3000\t" ++ (ParameterValue.integer Int64.minValue).display ++
        "\u00a0")).asInteger? = some Int64.minValue ∧
      IsNumeral " -009223372036854775808\n" (-9223372036854775808) := by
  obtain ⟨hread, hdefault, hback⟩ := asInteger?_numerals_and_default_and_display
  have hvalue : (ofPairs [("n", .text "+9223372036854775808 ")]).value? "n" =
      some (.text "+9223372036854775808 ") := by decide
  have hbefore : allBlank "\u3000\t".toList = true := by decide
  have hafter : allBlank "\u00a0".toList = true := by decide
  exact ⟨hvalue, (hdefault _ _ _ 7 hvalue).resolve_left (by decide), hbefore, hafter,
    hback Int64.minValue _ _ hbefore hafter, (hread _ _).1 (by decide)⟩

/-- No sign alone, no second sign, no blank or separator inside and no digit of another script. -/
example : ∀ s ∈ ["", "+", "+-1", "- 1", "1_000", "1 000", "0x1", "1.0", "\u0663"],
    (ParameterValue.text s).asInteger? = none := by
  decide

end Parameters

end StreamSource
