import StreamSource.Proofs.NameMap
import StreamSource.Registry.Basic

/-! What a registry holds. Each operation changes the entries under the names that it is
about; every entry stays under the name in its manifest and keeps no factory of another kind.
Hence the entries are listed in the order of their names, and building a candidate by its
name builds that very candidate. -/

namespace StreamSource.Registry

variable {σ : Type}

/-! ### Look-ups -/

@[simp] theorem get?_empty (name : String) : (empty : Registry σ).get? name = none := rfl

theorem get?_register (r : Registry σ) (m : PluginManifest) (factory : Option (PluginFactory σ))
    (status : PluginStatus) (name : String) :
    (r.register m factory status).get? name =
      if m.name = name then some ⟨m, status, factory.filter fun f => f.kind = m.kind⟩
      else r.get? name :=
  NameMap.get?_insert ..

theorem get?_refresh (r : Registry σ) (ps : Parameters) (name : String) :
    (r.refresh ps).get? name = (r.get? name).map (·.refreshed ps) :=
  NameMap.get?_map ..

theorem ext_get? {r r' : Registry σ} (h : ∀ name, r.get? name = r'.get? name) : r = r' := by
  cases r
  cases r'
  exact congrArg Registry.mk (NameMap.ext_get? h)

/-- The status of an entry that is switched on or off. -/
def switched (on : Bool) : PluginStatus := if on then .enabled else .disabled

theorem setEnabled_of_none {r : Registry σ} {name : String} (h : r.get? name = none) (on : Bool) :
    r.setEnabled name on = .error (.pluginNotFound "unknown" name) := by
  rw [setEnabled, h]

theorem exists_setEnabled {r : Registry σ} {name : String} {e : PluginEntry σ}
    (h : r.get? name = some e) (on : Bool) : ∃ r', r.setEnabled name on = .ok r' :=
  ⟨_, by rw [setEnabled, h]⟩

/-- Switching succeeds for the names that are registered, and changes one status. -/
theorem setEnabled_eq_ok {r r' : Registry σ} {name : String} {on : Bool}
    (h : r.setEnabled name on = .ok r') :
    (∃ e, r.get? name = some e) ∧ ∀ k, r'.get? k =
      (r.get? k).map fun e => if name = k then { e with status := switched on } else e := by
  cases he : r.get? name with
  | none =>
    rw [setEnabled_of_none he] at h
    cases h
  | some e =>
    rw [setEnabled, he] at h
    cases h
    refine ⟨⟨e, rfl⟩, fun k => ?_⟩
    refine (NameMap.get?_insert ..).trans ?_
    by_cases hk : name = k
    · rw [if_pos hk, ← hk, he]
      simp [switched]
    · simp only [if_neg hk]
      exact Option.map_id'.symm

theorem lookup_eq_ok_iff {r : Registry σ} {name : String} {kind : PluginKind}
    {e : PluginEntry σ} :
    r.lookup name kind = .ok e ↔
      r.get? name = some e ∧ e.manifest.kind = kind ∧ e.status = .enabled := by
  unfold lookup
  cases r.get? name with
  | none => simp
  | some e' =>
    rw [Option.some.injEq]
    simp only
    split_ifs with hkind hstatus
    · rw [iff_false_left (by simp)]
      rintro ⟨rfl, h, -⟩
      exact hkind h
    · rw [iff_false_left (by simp)]
      rintro ⟨rfl, -, h⟩
      exact hstatus h
    · rw [Except.ok.injEq, iff_self_and]
      rintro rfl
      exact ⟨Decidable.not_not.1 hkind, Decidable.not_not.1 hstatus⟩

/-! ### Well-formed registries -/

structure WellFormed (r : Registry σ) : Prop where
  name_eq : ∀ {name e}, r.get? name = some e → e.manifest.name = name
  kind_eq : ∀ {name e f}, r.get? name = some e → e.factory = some f → f.kind = e.manifest.kind

namespace WellFormed

theorem empty : WellFormed (Registry.empty : Registry σ) where
  name_eq h := by cases h
  kind_eq h := by cases h

/-- An operation that changes no more than statuses keeps a registry well-formed. -/
theorem of_status {r r' : Registry σ} (hr : WellFormed r)
    (h : ∀ {name e'}, r'.get? name = some e' →
      ∃ e, r.get? name = some e ∧ e'.manifest = e.manifest ∧ e'.factory = e.factory) :
    WellFormed r' where
  name_eq he' := by
    obtain ⟨e, he, hmanifest, -⟩ := h he'
    rw [hmanifest, hr.name_eq he]
  kind_eq he' hf := by
    obtain ⟨e, he, hmanifest, hfactory⟩ := h he'
    rw [hmanifest, hr.kind_eq he (hfactory ▸ hf)]

theorem register {r : Registry σ} (hr : WellFormed r) (m : PluginManifest)
    (factory : Option (PluginFactory σ)) (status : PluginStatus) :
    WellFormed (r.register m factory status) where
  name_eq {name e} he := by
    rw [get?_register] at he
    split at he
    · rename_i hname
      cases he
      exact hname
    · exact hr.name_eq he
  kind_eq {name e f} he hf := by
    rw [get?_register] at he
    split at he
    · cases he
      simpa using (Option.filter_eq_some_iff.1 hf).2
    · exact hr.kind_eq he hf

theorem setEnabled {r r' : Registry σ} (hr : WellFormed r) {name : String} {on : Bool}
    (h : r.setEnabled name on = .ok r') : WellFormed r' := by
  refine hr.of_status fun {k e'} he' => ?_
  rw [(setEnabled_eq_ok h).2] at he'
  obtain ⟨e, he, rfl⟩ := Option.map_eq_some_iff.1 he'
  refine ⟨e, he, ?_⟩
  split <;> exact ⟨rfl, rfl⟩

theorem refresh {r : Registry σ} (hr : WellFormed r) (ps : Parameters) :
    WellFormed (r.refresh ps) := by
  refine hr.of_status fun {k e'} he' => ?_
  rw [get?_refresh] at he'
  obtain ⟨e, he, rfl⟩ := Option.map_eq_some_iff.1 he'
  exact ⟨e, he, rfl, rfl⟩

end WellFormed

/-! ### Lists of entries -/

theorem mem_list_iff {r : Registry σ} {e : PluginEntry σ} :
    e ∈ r.list ↔ ∃ name, r.get? name = some e :=
  NameMap.mem_values_iff

theorem WellFormed.get?_of_mem {r : Registry σ} (hr : WellFormed r) {e : PluginEntry σ}
    (he : e ∈ r.list) : r.get? e.manifest.name = some e := by
  obtain ⟨name, h⟩ := mem_list_iff.1 he
  rw [hr.name_eq h]
  exact h

theorem WellFormed.mem_list_iff_get? {r : Registry σ} (hr : WellFormed r) {e : PluginEntry σ} :
    e ∈ r.list ↔ r.get? e.manifest.name = some e :=
  ⟨hr.get?_of_mem, fun he => mem_list_iff.2 ⟨_, he⟩⟩

theorem WellFormed.pairwise_list {r : Registry σ} (hr : WellFormed r) :
    r.list.Pairwise fun a b => a.manifest.name < b.manifest.name := by
  unfold list NameMap.values
  rw [List.pairwise_map]
  refine r.entries.ascending.imp_of_mem fun {a b} ha hb hlt => ?_
  rw [hr.name_eq (NameMap.get?_eq_some_iff.2 ha), hr.name_eq (NameMap.get?_eq_some_iff.2 hb)]
  exact hlt

theorem mem_enabled_iff {r : Registry σ} {kind : PluginKind} {e : PluginEntry σ} :
    e ∈ r.enabled kind ↔ e ∈ r.list ∧ e.status = .enabled ∧ e.manifest.kind = kind := by
  rw [enabled, List.mem_filter, decide_eq_true_eq]

theorem mem_candidates_iff {r : Registry σ} {kind : PluginKind} {e : PluginEntry σ} :
    e ∈ r.candidates kind ↔
      e ∈ r.list ∧ e.status = .enabled ∧ e.manifest.kind = kind ∧ e.factory.isSome = true := by
  rw [candidates, List.mem_filter, mem_enabled_iff, and_assoc, and_assoc]

theorem candidates_sublist (r : Registry σ) (kind : PluginKind) :
    (r.candidates kind).Sublist r.list :=
  List.filter_sublist.trans List.filter_sublist

theorem WellFormed.pairwise_candidates {r : Registry σ} (hr : WellFormed r) (kind : PluginKind) :
    (r.candidates kind).Pairwise fun a b => a.manifest.name < b.manifest.name :=
  hr.pairwise_list.sublist (r.candidates_sublist kind)

/-- A candidate is found under its name, with a factory of its kind. -/
theorem WellFormed.lookup_candidate {r : Registry σ} (hr : WellFormed r) {kind : PluginKind}
    {e : PluginEntry σ} (he : e ∈ r.candidates kind) :
    r.lookup e.manifest.name kind = .ok e ∧ ∃ f, e.factory = some f ∧ f.kind = kind := by
  obtain ⟨hmem, hstatus, hkind, hfactory⟩ := mem_candidates_iff.1 he
  have hget := hr.get?_of_mem hmem
  obtain ⟨f, hf⟩ := Option.isSome_iff_exists.1 hfactory
  exact ⟨lookup_eq_ok_iff.2 ⟨hget, hkind, hstatus⟩, f, hf, (hr.kind_eq hget hf).trans hkind⟩

/-- A candidate protocol is built by its own factory, if nothing that it requires is missing. -/
theorem WellFormed.createProtocol_eq {r : Registry σ} (hr : WellFormed r) {e : PluginEntry σ}
    (he : e ∈ r.candidates .protocol) (ps : Parameters) :
    ∃ create, e.factory = some (.protocol create) ∧ r.createProtocol e.manifest.name ps =
      (ps.require e.manifest.requiredParameters).bind fun _ => create ps := by
  obtain ⟨hlookup, f, hf, hkind⟩ := hr.lookup_candidate he
  cases f with
  | protocol create =>
    refine ⟨create, hf, ?_⟩
    rw [createProtocol, hlookup]
    simp only [bind, Except.bind, hf]
  | parser create => cases hkind

theorem WellFormed.createParser_eq {r : Registry σ} (hr : WellFormed r) {e : PluginEntry σ}
    (he : e ∈ r.candidates .parser) (ps : Parameters) :
    ∃ create, e.factory = some (.parser create) ∧ r.createParser e.manifest.name ps =
      (ps.require e.manifest.requiredParameters).bind fun _ => create ps := by
  obtain ⟨hlookup, f, hf, hkind⟩ := hr.lookup_candidate he
  cases f with
  | protocol create => cases hkind
  | parser create =>
    refine ⟨create, hf, ?_⟩
    rw [createParser, hlookup]
    simp only [bind, Except.bind, hf]

/-- Only candidates are built as parsers. -/
theorem WellFormed.exists_candidate_of_createParser {r : Registry σ} (hr : WellFormed r)
    {name : String} {ps : Parameters} {p : StreamParser (Hoster σ)}
    (h : r.createParser name ps = .ok p) :
    ∃ e ∈ r.candidates .parser, e.manifest.name = name := by
  unfold createParser at h
  cases hlookup : r.lookup name .parser with
  | error err =>
    rw [hlookup] at h
    cases h
  | ok e =>
    obtain ⟨he, hkind, hstatus⟩ := lookup_eq_ok_iff.1 hlookup
    rw [hlookup] at h
    cases hf : e.factory with
    | none =>
      simp only [bind, Except.bind, hf] at h
      cases h
    | some f =>
      have hmem : e ∈ r.list := mem_list_iff.2 ⟨name, he⟩
      exact ⟨e, mem_candidates_iff.2 ⟨hmem, hstatus, hkind, by simp [hf]⟩, hr.name_eq he⟩

end StreamSource.Registry
