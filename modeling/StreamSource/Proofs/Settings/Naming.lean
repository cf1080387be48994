import StreamSource.Proofs.Settings.Precedence
import StreamSource.Proofs.Settings.Validity
import StreamSource.Proofs.Text.Trimmed

/-! The names of the parameters. No name is empty, and none starts or ends with a blank. The check
of the settings allows no blank inside a name either, but it does not see assignments, and these
keep the blanks between the other characters of a name. So names without blanks come out for just
the assignments whose names have no such blank. -/

namespace StreamSource

open Text (FirstCut HasInnerBlank)

/-- A name that is not empty and neither starts nor ends with a blank. -/
structure IsTrimmed (name : String) : Prop where
  ne_nil : name.toList ≠ []
  head : ∀ c ∈ name.toList.head?, Text.isBlank c = false
  last : ∀ c ∈ name.toList.getLast?, Text.isBlank c = false

theorem IsName.isTrimmed {name : String} (h : IsName name) : IsTrimmed name where
  ne_nil := h.1
  head c hc := h.2 c (List.mem_of_mem_head? hc)
  last c hc := h.2 c (List.mem_of_getLast? hc)

namespace Parameter

/-- An assignment names its parameter by what trimming leaves of the text before the sign. -/
theorem name_of_firstCut {a : String} {p : Parameter} {name value : List Char}
    (h : ofAssignment? a = some p) (hcut : FirstCut ['='] a.toList name value) :
    p.name = String.ofList (Text.trim name) ∧ ∃ c ∈ name, Text.isBlank c = false := by
  obtain ⟨name', value', hcut', hgraphic, hname, -⟩ := assigns_of_ofAssignment? h
  obtain ⟨rfl, -⟩ := hcut'.unique hcut
  exact ⟨hname, hgraphic⟩

theorem isTrimmed_name {a : String} {p : Parameter} (h : ofAssignment? a = some p) :
    IsTrimmed p.name := by
  obtain ⟨name, value, hcut, hgraphic, hname, -⟩ := assigns_of_ofAssignment? h
  rw [hname]
  constructor
  · rw [String.toList_ofList]
    exact Text.trim_ne_nil hgraphic
  · rw [String.toList_ofList]
    exact Text.head?_trim name
  · rw [String.toList_ofList]
    exact Text.getLast?_trim name

theorem isName_name_iff {a : String} {p : Parameter} {name value : List Char}
    (h : ofAssignment? a = some p) (hcut : FirstCut ['='] a.toList name value) :
    IsName p.name ↔ ¬ HasInnerBlank name := by
  have hname := (name_of_firstCut h hcut).1
  rw [← Text.exists_isBlank_trim_iff, IsName, hname, String.toList_ofList]
  have hne := (isTrimmed_name h).ne_nil
  rw [hname, String.toList_ofList] at hne
  simp [hne]

end Parameter

namespace Parameters

theorem eq_of_ofAssignments {as : List String} {ps : Parameters} (h : ofAssignments as = .ok ps) :
    (∀ a ∈ as, ∃ p, Parameter.ofAssignment? a = some p) ∧
      ps = ofPairs ((as.filterMap Parameter.ofAssignment?).map fun p => (p.name, p.value)) := by
  simp only [ofAssignments] at h
  split at h
  next hnone =>
    cases h
    refine ⟨fun a ha => Option.ne_none_iff_exists'.1 fun hmalformed => ?_, rfl⟩
    have hmem : a ∈ as.filter fun a => (Parameter.ofAssignment? a).isNone :=
      List.mem_filter.2 ⟨ha, Option.isNone_iff_eq_none.2 hmalformed⟩
    rw [List.isEmpty_iff.1 hnone] at hmem
    cases hmem
  next => cases h

end Parameters

namespace Settings

variable {s : Settings} {as : List String} {ps : Parameters} {n : String}

theorem isName_of_mem_derivedNames (h : n ∈ s.derivedNames) : IsName n := by
  -- the names are the same for all settings
  have hall : ∀ n ∈ ({} : Settings).derived.map (·.1), isParameterName n = true := by decide
  have hmem : n ∈ s.derived.map (·.1) := (List.filter_sublist.map _).subset h
  exact isParameterName_iff.1 (hall n hmem)

theorem LaidOver.mem_names_iff {assigned : List Parameter} (h : s.LaidOver assigned ps) :
    n ∈ ps.names ↔ n ∈ s.derivedNames ∨ n ∈ s.parameters.names ∨ n ∈ assigned.map (·.name) := by
  rw [h.names]
  by_cases hderived : n ∈ s.derivedNames
  · simp [hderived]
  · by_cases hfree : n ∈ s.parameters.names <;> simp [hderived, hfree]

theorem exists_of_effective (h : s.effective as = .ok ps) :
    (∀ a ∈ as, ∃ p, Parameter.ofAssignment? a = some p) ∧
      s.LaidOver (as.filterMap Parameter.ofAssignment?) ps := by
  unfold effective at h
  cases hoverrides : Parameters.ofAssignments as with
  | error e =>
    rw [hoverrides] at h
    cases h
  | ok overrides =>
    obtain ⟨hassigned, rfl⟩ := Parameters.eq_of_ofAssignments hoverrides
    rw [hoverrides] at h
    cases h
    exact ⟨hassigned, s.laidOver_layered _⟩

/-- A name of the parameters keeps the rule for names, or an assignment gives it. -/
theorem isName_or_assigned (hs : s.Valid) (hps : s.effective as = .ok ps) (hn : n ∈ ps.names) :
    IsName n ∨ ∃ a ∈ as, ∃ p, Parameter.ofAssignment? a = some p ∧ p.name = n := by
  obtain hderived | hfree | hassigned := (exists_of_effective hps).2.mem_names_iff.1 hn
  · exact .inl (isName_of_mem_derivedNames hderived)
  · exact .inl (hs.parameterNames n hfree)
  · obtain ⟨p, hp, rfl⟩ := List.mem_map.1 hassigned
    obtain ⟨a, ha, hgives⟩ := List.mem_filterMap.1 hp
    exact .inr ⟨a, ha, p, hgives, rfl⟩

theorem name_mem_of_effective (hps : s.effective as = .ok ps) {a : String} (ha : a ∈ as)
    {p : Parameter} (hp : Parameter.ofAssignment? a = some p) : p.name ∈ ps.names :=
  (exists_of_effective hps).2.mem_names_iff.2
    (.inr (.inr (List.mem_map_of_mem (List.mem_filterMap.2 ⟨a, ha, hp⟩))))

/-- If the settings pass the check, no name of their parameters is empty or has a blank at either
end. A blank inside a name stands there since an assignment has it in its name, so all the names
keep the rule for names if and only if no assignment has a blank inside its name. -/
theorem names_of_checked_and_assigned (hs : s.check = .ok s) (hps : s.effective as = .ok ps) :
    (∀ n ∈ ps.names, IsTrimmed n) ∧
    (∀ n ∈ ps.names, IsName n ∨ ∃ a ∈ as, ∃ name value, FirstCut ['='] a.toList name value ∧
      HasInnerBlank name ∧ n = String.ofList (Text.trim name)) ∧
    ((∀ n ∈ ps.names, IsName n) ↔
      ∀ a ∈ as, ∀ name value, FirstCut ['='] a.toList name value → ¬ HasInnerBlank name) := by
  have hvalid := check_eq_ok_iff.1 hs
  refine ⟨fun n hn => ?_, fun n hn => ?_, fun hall a ha name value hcut => ?_, fun hnone n hn => ?_⟩
  · obtain hname | ⟨a, -, p, hp, rfl⟩ := isName_or_assigned hvalid hps hn
    · exact hname.isTrimmed
    · exact Parameter.isTrimmed_name hp
  · obtain hname | ⟨a, ha, p, hp, rfl⟩ := isName_or_assigned hvalid hps hn
    · exact .inl hname
    · obtain ⟨name, value, hcut, -, hname, -⟩ := Parameter.assigns_of_ofAssignment? hp
      by_cases hinner : HasInnerBlank name
      · exact .inr ⟨a, ha, name, value, hcut, hinner, hname⟩
      · exact .inl ((Parameter.isName_name_iff hp hcut).2 hinner)
  · obtain ⟨p, hp⟩ := (exists_of_effective hps).1 a ha
    exact (Parameter.isName_name_iff hp hcut).1 (hall p.name (name_mem_of_effective hps ha hp))
  · obtain hname | ⟨a, ha, p, hp, rfl⟩ := isName_or_assigned hvalid hps hn
    · exact hname
    · obtain ⟨name, value, hcut, -⟩ := Parameter.assigns_of_ofAssignment? hp
      exact (Parameter.isName_name_iff hp hcut).2 (hnone a ha name value hcut)

/-- The name of the only assignment has blanks around it and none inside. -/
theorem names_of_cookie :
    ({} : Settings).check = .ok {} ∧
      ∃ ps, ({} : Settings).effective [" HttpCookie\t= a b"] = .ok ps ∧
        "HttpCookie" ∈ ps.names ∧ ∀ n ∈ ps.names, IsName n := by
  have hcheck : ({} : Settings).check = .ok {} := rfl
  have hps : ({} : Settings).effective [" HttpCookie\t= a b"] =
      .ok (({} : Settings).layered (.ofPairs [("HttpCookie", .text " a b")])) := rfl
  refine ⟨hcheck, _, hps, by decide, ?_⟩
  refine (names_of_checked_and_assigned hcheck hps).2.2.2 fun a ha name value hcut => ?_
  obtain rfl := List.mem_singleton.1 ha
  have hfirst : FirstCut ['='] " HttpCookie\t= a b".toList " HttpCookie\t".toList " a b".toList :=
    Text.cut?_eq_some_iff.1 (by decide)
  rw [(hcut.unique hfirst).1, ← Text.exists_isBlank_trim_iff, ← List.any_eq_true]
  decide

/-- An assignment may name a parameter as the settings may not. -/
theorem spaced_name_assigned :
    ({} : Settings).check = .ok {} ∧
      ∃ ps, ({} : Settings).effective ["a b=1"] = .ok ps ∧ "a b" ∈ ps.names ∧ ¬ IsName "a b" := by
  refine ⟨rfl, _, rfl, by decide, ?_⟩
  rw [← isParameterName_iff]
  decide

end Settings

end StreamSource
