import StreamSource.Proofs.Parameters.Assignment
import StreamSource.Proofs.Text.Canonical

/-! Typed values of assignments. The value that an assignment gives is read as an integer and as a
flag like the text behind the equals sign, and it is shown as this text. The texts that it is not
shown as are the numerals with something redundant in them; these are shown as the canonical numeral
of their integer. -/

namespace StreamSource

namespace ParameterValue

open Text (Canonical IsInt64 Redundant Writes)

/-- A text is taken for the flag or the integer that it writes, and else for itself. -/
inductive Typed (s : String) : ParameterValue → Prop
  | flag (b : Bool) (h : s = flagText b) : Typed s (.boolean b)
  | numeral (n : Int64) (h : Writes s.toList n.toInt) : Typed s (.integer n)
  | text (h : ¬ IsInt64 s.toList) : Typed s (.text s)

theorem typed_ofText (s : String) : Typed s (ofText s) := by
  unfold ofText
  split
  next htrue => exact .flag true htrue
  next =>
    split
    next hfalse => exact .flag false hfalse
    next =>
      cases hint : Text.int64? s.toList with
      | some n => exact .numeral n (Text.int64?_eq_some_iff.1 hint)
      | none => exact .text (Text.int64?_eq_none_iff.1 hint)

/-- A value is read like a text, and shown as the text itself or as its canonical form. -/
structure StandsFor (v : ParameterValue) (s : String) : Prop where
  asInteger? : v.asInteger? = (text s).asInteger?
  asBoolean? : ∀ b, (text s).asBoolean? = some b → v.asBoolean? = some b
  display : ¬ (IsInt64 s.toList ∧ Redundant s.toList) → v.display = s
  canonical : IsInt64 s.toList → Redundant s.toList →
    Canonical v.display.toList ∧ ∃ n, Writes s.toList n ∧ Writes v.display.toList n

theorem StandsFor.of_display_eq {v : ParameterValue} {s : String}
    (hinteger : v.asInteger? = (text s).asInteger?)
    (hboolean : ∀ b, (text s).asBoolean? = some b → v.asBoolean? = some b)
    (hdisplay : v.display = s) (hint : ¬ IsInt64 s.toList) : StandsFor v s :=
  ⟨hinteger, hboolean, fun _ => hdisplay, fun h => absurd h hint⟩

theorem flagText_standsFor (b : Bool) : StandsFor (.boolean b) (flagText b) := by
  have hnone : Text.int64? (flagText b).toList = none := by cases b <;> decide
  have hinteger : (text (flagText b)).asInteger? = none := by cases b <;> decide
  have hboolean : (text (flagText b)).asBoolean? = some b := by cases b <;> decide
  exact .of_display_eq hinteger.symm (fun c hc => hboolean.symm.trans hc) rfl
    (Text.int64?_eq_none_iff.1 hnone)

/-- No numerals are words for flags but the two that are written with one digit. -/
theorem flag?_of_writes {s : String} {n : Int} (h : Writes s.toList n) {b : Bool}
    (hb : flag? s.toList = some b) : s = "1" ∧ b = true ∨ s = "0" ∧ b = false := by
  have hnot {t : String} (ht : Text.integer? t.toList = none) : s ≠ t := by
    rintro rfl
    rw [Text.integer?_eq_some_iff.2 h] at ht
    cases ht
  unfold flag? at hb
  rw [h.map_toLower, String.ofList_toList] at hb
  simp only [hnot (t := "true") (by decide), hnot (t := "yes") (by decide),
    hnot (t := "false") (by decide), hnot (t := "no") (by decide), or_false] at hb
  split at hb
  next hone => exact .inl ⟨hone, (Option.some.inj hb).symm⟩
  next =>
    obtain ⟨hzero, heq⟩ := Option.ite_none_right_eq_some.1 hb
    exact .inr ⟨hzero, (Option.some.inj heq).symm⟩

theorem numeral_standsFor {s : String} {n : Int64} (h : Writes s.toList n.toInt) :
    StandsFor (.integer n) s where
  asInteger? := by
    change some n = Text.int64? (Text.trim s.toList)
    rw [h.trim_eq, Text.int64?_eq_some_iff.2 h]
  asBoolean? b hb := by
    change flag? (Text.trim s.toList) = some b at hb
    rw [h.trim_eq] at hb
    have hint := Text.int64?_eq_some_iff.2 h
    -- the integers 1 and 0 are read as these flags too
    obtain ⟨rfl, rfl⟩ | ⟨rfl, rfl⟩ := flag?_of_writes h hb
    · have hone : n = 1 := Option.some.inj (hint.symm.trans (by decide))
      subst hone
      decide
    · have hzero : n = 0 := Option.some.inj (hint.symm.trans (by decide))
      subst hzero
      decide
  display hother := by
    have hrange : IsInt64 s.toList := ⟨n.toInt, h, Int64.minValue_le_toInt n, Int64.toInt_le n⟩
    refine (Text.showInt_eq_iff h).2 ?_
    by_contra hnot
    exact hother ⟨hrange, h.not_canonical_iff.1 hnot⟩
  canonical _ _ := ⟨Text.canonical_showInt n.toInt, n.toInt, h, Text.writes_showInt n.toInt⟩

theorem Typed.standsFor {v : ParameterValue} {s : String} (h : Typed s v) : StandsFor v s := by
  cases h with
  | flag b h => exact h ▸ flagText_standsFor b
  | numeral n h => exact numeral_standsFor h
  | text h => exact .of_display_eq rfl (fun _ hb => hb) rfl h

end ParameterValue

namespace Parameter

open ParameterValue (StandsFor)
open Text (FirstCut Redundant)

/-- Every assignment that is not malformed gives a value that stands for the text behind its first
equals sign. -/
theorem ofAssignment?_standsFor {a : String} {p : Parameter} (h : ofAssignment? a = some p) :
    ∃ name : List Char, ∃ value : String,
      FirstCut ['='] a.toList name value.toList ∧ StandsFor p.value value := by
  obtain ⟨name, value, hcut, -, -, hvalue⟩ := assigns_of_ofAssignment? h
  refine ⟨name, String.ofList value, by rwa [String.toList_ofList], ?_⟩
  rw [hvalue]
  exact (ParameterValue.typed_ofText (String.ofList value)).standsFor

/-- Zeros before other digits and a plus sign are read, and they are not shown again. -/
theorem ofAssignment?_sevens :
    ofAssignment? "n=+007" = some ⟨"n", .integer 7⟩ ∧ Redundant "+007".toList ∧
      StandsFor (.integer 7) "+007" := by
  have h : ofAssignment? "n=+007" = some ⟨"n", .integer 7⟩ := by decide
  have hcut : FirstCut ['='] "n=+007".toList ['n'] "+007".toList :=
    Text.cut?_eq_some_iff.1 (by decide)
  obtain ⟨name, value, hfirst, hstands⟩ := ofAssignment?_standsFor h
  obtain rfl : value = "+007" := String.toList_inj.1 (hfirst.unique hcut).2
  exact ⟨h, .plus, hstands⟩

end Parameter

end StreamSource
