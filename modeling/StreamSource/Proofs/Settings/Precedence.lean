import StreamSource.Proofs.NameMap
import StreamSource.Proofs.Parameters.Assignment
import StreamSource.Proofs.Parameters.Merge
import StreamSource.Proofs.Text.ByteOrder
import StreamSource.Settings.Loading

/-! Where the parameters come from. An assignment wins over the free parameters of the settings,
and these over what the sections for HTTP and smooth streaming give. The names come in the
opposite order, each where it comes first. If any assignment is malformed, nothing comes out but
the number of all that are. -/

namespace StreamSource

open Parameters (ofPairs)

/-- What there is in a table of values that may be absent. -/
def present (table : List (String × Option ParameterValue)) : List (String × ParameterValue) :=
  table.filterMap fun e => e.2.map fun v => (e.1, v)

theorem present_cons (e : String × Option ParameterValue)
    (table : List (String × Option ParameterValue)) :
    present (e :: table) = (e.2.map fun v => (e.1, v)).toList ++ present table := by
  unfold present
  rw [List.filterMap_cons]
  cases e.2 <;> rfl

theorem present_nil : present [] = [] := rfl

theorem map_fst_present (table : List (String × Option ParameterValue)) :
    (present table).map (·.1) = (table.filter fun e => e.2.isSome).map (·.1) := by
  induction table with
  | nil => rfl
  | cons e table ih =>
    rw [present_cons, List.map_append, ih, List.filter_cons]
    cases e.2 <;> rfl

theorem find?_present {table : List (String × Option ParameterValue)}
    (h : (table.map (·.1)).Nodup) (n : String) :
    ((present table).find? fun p => p.1 = n).map (·.2) =
      (table.find? fun e => e.1 = n).bind (·.2) := by
  have hget : Entry.get? (present table) n = (Entry.get? table n).bind id :=
    Entry.get?_filterMap id h n
  unfold Entry.get? at hget
  rw [hget, Option.bind_map]
  rfl

/-! ### What the sections give -/

/-- The parameters that the section for HTTP gives, in their order. A time is the integer it is. -/
def HttpSettings.derived (h : HttpSettings) : List (String × Option ParameterValue) :=
  [("HttpUserAgent", h.userAgent.map .text),
    ("HttpReferer", h.referer.map .text),
    ("HttpCookie", h.cookie.map .text),
    ("HttpVersion", h.version.map .text),
    ("HttpServerUserName", h.serverUserName.map .text),
    ("HttpServerPassword", h.serverPassword.map .text),
    ("HttpIgnoreContentLength", some (.boolean h.ignoreContentLength)),
    ("HttpOpenConnectionTimeout", some (.integer (.ofNat h.openConnectionTimeout.toNat))),
    ("HttpOpenConnectionSleepTime", some (.integer (.ofNat h.openConnectionSleepTime.toNat))),
    ("HttpTotalReopenConnectionTimeout",
      some (.integer (.ofNat h.totalReopenConnectionTimeout.toNat))),
    ("HttpServerAuthenticate", h.serverUserName.map fun _ => .boolean true)]

def MshsSettings.derived (m : MshsSettings) : List (String × Option ParameterValue) :=
  [("MshsBaseUrl", m.baseUrl.map .text), ("MshsManifest", m.manifest.map .text)]

theorem HttpSettings.toPairs_eq_present (h : HttpSettings) : h.toPairs = present h.derived := by
  have hauthenticate :
      (if h.serverUserName.isSome then [(Names.httpServerAuthenticate, ParameterValue.boolean true)]
        else []) =
      (h.serverUserName.map fun _ => (Names.httpServerAuthenticate, .boolean true)).toList := by
    cases h.serverUserName <;> rfl
  unfold toPairs derived optionalText
  rw [hauthenticate]
  simp only [present_cons, present_nil, Option.map_map, List.append_assoc, List.append_nil]
  rfl

theorem MshsSettings.toPairs_eq_present (m : MshsSettings) : m.toPairs = present m.derived := by
  unfold toPairs derived optionalText
  simp only [present_cons, present_nil, Option.map_map, List.append_nil]
  rfl

namespace Settings

variable (s : Settings)

/-- The parameters that the typed sections give, those for HTTP first. -/
def derived : List (String × Option ParameterValue) := s.http.derived ++ s.mshs.derived

/-- The value that the typed sections give to a parameter. -/
def derived? (n : String) : Option ParameterValue :=
  (s.derived.find? fun e => e.1 = n).bind (·.2)

/-- The names of the parameters that the typed sections give. -/
def derivedNames : List String := (s.derived.filter fun e => e.2.isSome).map (·.1)

theorem nodup_map_fst_derived : (s.derived.map (·.1)).Nodup := by
  -- the names are the same for all settings
  have hnames : (({} : Settings).derived.map (·.1)).Nodup := by decide
  exact hnames

theorem nodup_map_fst_present : ((present s.derived).map (·.1)).Nodup := by
  rw [map_fst_present]
  exact s.nodup_map_fst_derived.sublist (List.filter_sublist.map _)

theorem names_ofPairs_present : (ofPairs (present s.derived)).names = s.derivedNames := by
  rw [Parameters.names_eq_map_toPairs, Parameters.toPairs_ofPairs s.nodup_map_fst_present,
    map_fst_present]
  rfl

theorem value?_ofPairs_present (n : String) :
    (ofPairs (present s.derived)).value? n = s.derived? n := by
  rw [Parameters.value?_eq_find?_toPairs, Parameters.toPairs_ofPairs s.nodup_map_fst_present,
    find?_present s.nodup_map_fst_derived]
  rfl

theorem toParameters_eq_merge :
    s.toParameters =
      (ofPairs (present s.derived)).merge (ofPairs s.parameters.entries) true := by
  have hmshs : (s.mshs.toPairs.map (·.1)).Nodup := by
    have hsuffix : s.mshs.toPairs.Sublist (present s.derived) := by
      rw [MshsSettings.toPairs_eq_present, derived, present, present, List.filterMap_append]
      exact List.sublist_append_right _ _
    exact s.nodup_map_fst_present.sublist (hsuffix.map _)
  rw [toParameters, Parameters.merge_overwrite (ofPairs s.http.toPairs),
    Parameters.toPairs_ofPairs hmshs, Parameters.setAll_ofPairs,
    HttpSettings.toPairs_eq_present, MshsSettings.toPairs_eq_present, derived, present, present,
    present, List.filterMap_append]

theorem names_ofPairs_entries : (ofPairs s.parameters.entries).names = s.parameters.names := by
  rw [Parameters.names_eq_map_toPairs, Parameters.toPairs_ofPairs s.parameters.nodup_names]
  rfl

theorem value?_ofPairs_entries (n : String) :
    (ofPairs s.parameters.entries).value? n = s.parameters.get? n := by
  rw [Parameters.value?_eq_find?_toPairs, Parameters.toPairs_ofPairs s.parameters.nodup_names]
  rfl

theorem names_toParameters :
    s.toParameters.names =
      s.derivedNames ++ s.parameters.names.filter (· ∉ s.derivedNames) := by
  rw [toParameters_eq_merge, Parameters.names_merge, names_ofPairs_present, names_ofPairs_entries]

theorem value?_toParameters (n : String) :
    s.toParameters.value? n = (s.parameters.get? n).or (s.derived? n) := by
  rw [toParameters_eq_merge, Parameters.value?_merge, if_pos rfl, value?_ofPairs_present,
    value?_ofPairs_entries]

/-! ### Assignments over them -/

/-- What is laid over the settings has its last value, and the settings have the other names. -/
theorem value?_layered (overrides : Parameters) (n : String) :
    (s.layered overrides).value? n =
      ((overrides.items.reverse.find? fun p => p.name = n).map (·.value)).or
        ((s.parameters.get? n).or (s.derived? n)) := by
  rw [layered, Parameters.merge_overwrite, Parameters.value?_setAll, value?_toParameters,
    Parameters.toPairs, ← List.map_reverse, List.find?_map, Option.map_map]
  rfl

/-- What the settings and the parameters that are assigned make together. -/
structure LaidOver (assigned : List Parameter) (ps : Parameters) : Prop where
  value? : ∀ n, ps.value? n =
    ((assigned.reverse.find? fun p => p.name = n).map (·.value)).or
      ((s.parameters.get? n).or (s.derived? n))
  names : ps.names =
    s.derivedNames ++ s.parameters.names.filter (· ∉ s.derivedNames) ++
      (assigned.map (·.name)).eraseDups.filter
        fun n => n ∉ s.derivedNames ∧ n ∉ s.parameters.names
  nodup : ps.names.Nodup
  ascending : s.parameters.names.Pairwise fun a b => Text.utf8 a < Text.utf8 b

theorem laidOver_layered (assigned : List Parameter) :
    s.LaidOver assigned (s.layered (ofPairs (assigned.map fun p => (p.name, p.value)))) where
  value? n := by
    rw [layered, Parameters.value?_merge, if_pos rfl, value?_toParameters, Parameters.value?_ofPairs, ← List.map_reverse, List.find?_map,
      Option.map_map]
    rfl
  names := by
    rw [layered, Parameters.names_merge, Parameters.names_ofPairs, List.map_map, names_toParameters]
    refine congrArg _ (List.filter_congr fun n _ => ?_)
    by_cases hn : n ∈ s.derivedNames <;> simp [hn]
  nodup := Parameters.nodup_names _
  ascending := s.parameters.pairwise_names.imp Text.lt_iff_utf8_lt.1

end Settings

namespace Parameters

theorem ofAssignments_of_malformed {as : List String} (h : ∃ a ∈ as, Parameter.Malformed a) :
    ofAssignments as =
      .error (.configuration (.malformedAssignments (as.countP (Parameter.Malformed ·)))) := by
  have hfilter : as.filter (fun a => (Parameter.ofAssignment? a).isNone) =
      as.filter (Parameter.Malformed ·) := by
    refine List.filter_congr fun a _ => ?_
    rw [Bool.eq_iff_iff, Option.isNone_iff_eq_none, decide_eq_true_iff, Parameter.malformed_iff]
  obtain ⟨a, ha, hmalformed⟩ := h
  have hne : (as.filter (Parameter.Malformed ·)).isEmpty = false := by
    rw [List.isEmpty_eq_false_iff]
    exact List.ne_nil_of_mem (List.mem_filter.2 ⟨ha, decide_eq_true hmalformed⟩)
  rw [ofAssignments, hfilter, hne, List.countP_eq_length_filter]
  rfl

theorem ofAssignments_of_wellFormed {as : List String} (h : ∀ a ∈ as, ¬ Parameter.Malformed a) :
    ∃ assigned, List.Forall₂ Parameter.Assigns as assigned ∧
      ofAssignments as = .ok (ofPairs (assigned.map fun p => (p.name, p.value))) := by
  have hfilter : as.filter (fun a => (Parameter.ofAssignment? a).isNone) = [] := by
    refine List.filter_eq_nil_iff.2 fun a ha => ?_
    simpa [Parameter.malformed_iff] using h a ha
  refine ⟨as.filterMap Parameter.ofAssignment?, ?_, ?_⟩
  · clear hfilter
    induction as with
    | nil => exact .nil
    | cons a as ih =>
      have ha := h a List.mem_cons_self
      rw [Parameter.malformed_iff] at ha
      obtain ⟨p, hp⟩ := Option.ne_none_iff_exists'.1 ha
      rw [List.filterMap_cons_some hp]
      exact .cons (Parameter.assigns_of_ofAssignment? hp)
        (ih fun b hb => h b (List.mem_cons_of_mem a hb))
  · rw [ofAssignments, hfilter]
    rfl

end Parameters

namespace Settings

/-- Either some assignments are malformed and all of these are counted, or every assignment gives
a parameter and what they give is laid over the settings. -/
theorem effective_malformed_or_laidOver (s : Settings) (assignments : List String) :
    ((∃ a ∈ assignments, Parameter.Malformed a) ∧
      s.effective assignments = .error (.configuration
        (.malformedAssignments (assignments.countP (Parameter.Malformed ·))))) ∨
    ((∀ a ∈ assignments, ¬ Parameter.Malformed a) ∧
      ∃ assigned ps, List.Forall₂ Parameter.Assigns assignments assigned ∧
        s.effective assignments = .ok ps ∧ s.LaidOver assigned ps) := by
  unfold effective
  by_cases h : ∃ a ∈ assignments, Parameter.Malformed a
  · refine .inl ⟨h, ?_⟩
    rw [Parameters.ofAssignments_of_malformed h]
    rfl
  · have hwell : ∀ a ∈ assignments, ¬ Parameter.Malformed a := fun a ha hm => h ⟨a, ha, hm⟩
    obtain ⟨assigned, hassigned, hok⟩ := Parameters.ofAssignments_of_wellFormed hwell
    refine .inr ⟨hwell, assigned, _, hassigned, ?_, s.laidOver_layered assigned⟩
    rw [hok]
    rfl

end Settings

end StreamSource
