import StreamSource.Harness
import StreamSource.Proofs.Parameters.Lookup
import StreamSource.Proofs.Registry.Entries

/-! What a harness is built of. The build fails at the first name to be disabled under which
nothing is registered, and only there. Once it is built, its registry holds under each name the
plugin that was registered last, disabled if the settings say so, and its hoster hosts the enabled
protocols that lack no parameter, in the order of their names. -/

namespace StreamSource

/-- The protocol that a plugin is built as. -/
def MemoryPlugin.built (m : MemoryPlugin) (ps : Parameters) : MemoryProtocol :=
  { name := m.name, schemes := m.schemes, body := m.body, parameters := ps }

namespace HarnessPlugin

/-- The entry of a plugin that is registered. -/
def entry (p : HarnessPlugin) (status : PluginStatus) : PluginEntry MemoryProtocol :=
  ⟨p.manifest, status, some p.factory⟩

theorem filter_factory (p : HarnessPlugin) :
    (some p.factory).filter (fun f => f.kind = p.manifest.kind) = some p.factory := by
  cases p <;> rfl

end HarnessPlugin

namespace HarnessDraft

/-- The plugin that is registered last under a name. -/
def plugin? (d : HarnessDraft) (name : String) : Option HarnessPlugin :=
  d.plugins.reverse.find? fun p => p.manifest.name = name

/-- The status that the settings give to the plugins of a name. -/
def status (d : HarnessDraft) (name : String) : PluginStatus :=
  if name ∈ d.settings.plugins.disabled then .disabled else .enabled

theorem status_eq_enabled_iff {d : HarnessDraft} {name : String} :
    d.status name = .enabled ↔ name ∉ d.settings.plugins.disabled := by
  unfold status
  split <;> simp_all

/-! ### The registry -/

theorem get?_foldl_register (plugins : List HarnessPlugin) (r : Registry MemoryProtocol)
    (name : String) :
    (plugins.foldl register r).get? name =
      ((plugins.reverse.find? fun p => p.manifest.name = name).map (·.entry .enabled)).or
        (r.get? name) := by
  induction plugins generalizing r with
  | nil => rfl
  | cons p plugins ih =>
    rw [List.foldl_cons, ih, register, Registry.get?_register, p.filter_factory, List.reverse_cons,
      List.find?_append, Option.map_or, Option.or_assoc]
    by_cases hname : p.manifest.name = name <;> simp [hname, HarnessPlugin.entry]

theorem wellFormed_foldl_register (plugins : List HarnessPlugin) {r : Registry MemoryProtocol}
    (hr : r.WellFormed) : (plugins.foldl register r).WellFormed := by
  induction plugins generalizing r with
  | nil => exact hr
  | cons p plugins ih => exact ih (hr.register _ _ _)

/-- Disabling one name after the other changes the statuses of just these names. -/
theorem foldlM_setEnabled {names : List String} {r r' : Registry MemoryProtocol}
    (h : names.foldlM (fun r name => r.setEnabled name false) r = .ok r') (hr : r.WellFormed) :
    r'.WellFormed ∧ ∀ k, r'.get? k =
      (r.get? k).map fun e => if k ∈ names then { e with status := .disabled } else e := by
  induction names generalizing r with
  | nil =>
    cases h
    exact ⟨hr, fun k => by simp⟩
  | cons name names ih =>
    rw [List.foldlM_cons] at h
    cases hset : r.setEnabled name false with
    | error e =>
      rw [hset] at h
      cases h
    | ok r₁ =>
      rw [hset] at h
      obtain ⟨hwell, hget⟩ := ih h (hr.setEnabled hset)
      refine ⟨hwell, fun k => ?_⟩
      rw [hget, (Registry.setEnabled_eq_ok hset).2, Option.map_map]
      refine congrArg (Option.map · _) (funext fun e => ?_)
      by_cases hk : name = k
      · simp [hk, Registry.switched]
      · simp [hk, Ne.symm hk]

/-- Disabling one name after the other fails at the first that is not registered. What comes before
it changes no more than statuses, so that the names registered are the same throughout. -/
theorem foldlM_setEnabled_eq_error_iff {names : List String} {r : Registry MemoryProtocol}
    {err : Error} :
    names.foldlM (fun r name => r.setEnabled name false) r = .error err ↔
      ∃ n, FirstWithout (fun k => (r.get? k).isSome = true) names n ∧
        err = .pluginNotFound "unknown" n := by
  induction names generalizing r with
  | nil =>
    constructor
    · intro h
      cases h
    · rintro ⟨n, hn, -⟩
      obtain ⟨k, hk, -⟩ := exists_firstWithout_iff.1 ⟨n, hn⟩
      cases hk
  | cons name names ih =>
    rw [List.foldlM_cons]
    simp only [firstWithout_cons_iff]
    cases hget : r.get? name with
    | none =>
      rw [Registry.setEnabled_of_none hget]
      show Except.error _ = Except.error err ↔ _
      rw [Except.error.injEq, Option.isSome_none]
      constructor
      · rintro rfl
        exact ⟨name, .inl ⟨Bool.false_ne_true, rfl⟩, rfl⟩
      · rintro ⟨n, ⟨-, rfl⟩ | ⟨habsurd, -⟩, rfl⟩
        · rfl
        · cases habsurd
    | some e =>
      obtain ⟨r₁, hset⟩ := Registry.exists_setEnabled hget false
      have hsame (k : String) : (r₁.get? k).isSome = (r.get? k).isSome := by
        rw [(Registry.setEnabled_eq_ok hset).2, Option.isSome_map]
      rw [hset]
      show names.foldlM _ r₁ = Except.error err ↔ _
      simp only [ih, hsame, Option.isSome_some, not_true, false_and, true_and, false_or]

variable {d : HarnessDraft} {h : Harness}

/-- A plugin is registered under the name. -/
def Registers (d : HarnessDraft) (name : String) : Prop := ∃ p ∈ d.plugins, p.manifest.name = name

theorem isSome_get?_registered (d : HarnessDraft) (name : String) :
    (d.registered.get? name).isSome = true ↔ d.Registers name := by
  rw [registered, get?_foldl_register, Registry.get?_empty, Option.or_none, Option.isSome_map,
    List.isSome_find?, List.any_reverse, List.any_eq_true]
  simp only [decide_eq_true_eq]
  rfl

/-- The only error is that of the first name to be disabled under which nothing is registered. -/
theorem build_eq_error_iff {err : Error} :
    d.build = .error err ↔ ∃ name,
      FirstWithout d.Registers d.settings.plugins.disabled name ∧
        err = .pluginNotFound "unknown" name := by
  have hregistry : d.build = .error err ↔ d.registry = .error err := by
    unfold build
    cases d.registry <;> simp [Except.map]
  rw [hregistry, registry, foldlM_setEnabled_eq_error_iff]
  simp only [isSome_get?_registered]

theorem exists_build_iff :
    (∃ h, d.build = .ok h) ↔ ∀ name ∈ d.settings.plugins.disabled, d.Registers name := by
  constructor
  · rintro ⟨h, hb⟩ name hname
    by_contra hnot
    obtain ⟨n, hn⟩ := exists_firstWithout_iff.2 ⟨name, hname, hnot⟩
    rw [build_eq_error_iff.2 ⟨n, hn, rfl⟩] at hb
    cases hb
  · intro hall
    cases hb : d.build with
    | ok h => exact ⟨h, rfl⟩
    | error err =>
      obtain ⟨n, hn, -⟩ := build_eq_error_iff.1 hb
      obtain ⟨name, hname, hnot⟩ := exists_firstWithout_iff.1 ⟨n, hn⟩
      exact absurd (hall name hname) hnot

theorem build_eq_ok (hb : d.build = .ok h) :
    ∃ r, d.registry = .ok r ∧ h = ⟨⟨r, r.host d.parameters⟩, d.parameters⟩ := by
  unfold build at hb
  cases hr : d.registry with
  | error e =>
    rw [hr] at hb
    cases hb
  | ok r =>
    rw [hr] at hb
    cases hb
    exact ⟨r, rfl, rfl⟩

theorem hoster_of_build (hb : d.build = .ok h) : h.hoster = h.registry.host h.parameters := by
  obtain ⟨r, -, rfl⟩ := build_eq_ok hb
  rfl

theorem wellFormed_of_build (hb : d.build = .ok h) : h.registry.WellFormed := by
  obtain ⟨r, hr, rfl⟩ := build_eq_ok hb
  exact (foldlM_setEnabled hr (wellFormed_foldl_register d.plugins .empty)).1

theorem get?_of_build (hb : d.build = .ok h) (name : String) :
    h.registry.get? name = (d.plugin? name).map (·.entry (d.status name)) := by
  obtain ⟨r, hr, rfl⟩ := build_eq_ok hb
  rw [(foldlM_setEnabled hr (wellFormed_foldl_register d.plugins .empty)).2, registered,
    get?_foldl_register, Registry.get?_empty, Option.or_none, Option.map_map]
  refine congrArg (Option.map · _) (funext fun p => ?_)
  unfold status HarnessPlugin.entry
  by_cases hname : name ∈ d.settings.plugins.disabled <;> simp [hname]

/-- The entries of the registry are the plugins that are registered last under their names. -/
theorem mem_list_of_build (hb : d.build = .ok h) {e : PluginEntry MemoryProtocol} :
    e ∈ h.registry.list ↔
      ∃ p, d.plugin? e.manifest.name = some p ∧ e = p.entry (d.status e.manifest.name) := by
  have hwell := wellFormed_of_build hb
  constructor
  · intro he
    have hget := hwell.get?_of_mem he
    rw [get?_of_build hb] at hget
    obtain ⟨p, hp, heq⟩ := Option.map_eq_some_iff.1 hget
    exact ⟨p, hp, heq.symm⟩
  · rintro ⟨p, hp, heq⟩
    refine Registry.mem_list_iff.2 ⟨e.manifest.name, ?_⟩
    rw [get?_of_build hb, hp, Option.map_some, ← heq]

/-- The candidates of a kind are the plugins of that kind that the settings leave enabled. -/
theorem mem_candidates_of_build (hb : d.build = .ok h) {kind : PluginKind}
    {e : PluginEntry MemoryProtocol} :
    e ∈ h.registry.candidates kind ↔
      ∃ p, d.plugin? p.manifest.name = some p ∧ p.manifest.name ∉ d.settings.plugins.disabled ∧
        p.manifest.kind = kind ∧ e = p.entry .enabled := by
  rw [Registry.mem_candidates_iff, mem_list_of_build hb]
  constructor
  · rintro ⟨⟨p, hp, heq⟩, hstatus, hkind, -⟩
    have hmanifest : e.manifest = p.manifest := congrArg PluginEntry.manifest heq
    rw [hmanifest] at hp hkind heq
    have hon : d.status p.manifest.name = .enabled := by
      rwa [heq] at hstatus
    exact ⟨p, hp, status_eq_enabled_iff.1 hon, hkind, hon ▸ heq⟩
  · rintro ⟨p, hp, hon, hkind, rfl⟩
    refine ⟨⟨p, hp, ?_⟩, rfl, hkind, rfl⟩
    exact (congrArg p.entry (status_eq_enabled_iff.2 hon)).symm

/-! ### The hoster -/

/-- A protocol that the settings leave enabled is built unless it lacks a parameter. -/
theorem createProtocol_of_build (hb : d.build = .ok h) {m : MemoryPlugin}
    (hm : (HarnessPlugin.protocol m).entry .enabled ∈ h.registry.candidates .protocol)
    {p : MemoryProtocol} :
    (h.registry.createProtocol m.name h.parameters).toOption = some p ↔
      (∀ n ∈ m.required, h.parameters.contains n = true) ∧ p = m.built h.parameters := by
  obtain ⟨create, hfactory, hcreate⟩ :=
    (wellFormed_of_build hb).createProtocol_eq hm h.parameters
  cases hfactory
  rw [show h.registry.createProtocol m.name h.parameters = _ from hcreate]
  show ((h.parameters.require m.required).bind _).toOption = some p ↔ _
  cases hrequire : h.parameters.require m.required with
  | ok u =>
    rw [← Parameters.require_eq_ok_iff (u := u)]
    simp only [hrequire, true_and]
    exact ⟨fun h => (Option.some.inj h).symm, fun h => congrArg some h.symm⟩
  | error e =>
    rw [← Parameters.require_eq_ok_iff (u := ())]
    simp [hrequire, Except.bind, Except.toOption]

/-- A protocol is hosted if it is enabled and lacks no parameter. -/
theorem mem_protocols_of_build (hb : d.build = .ok h) {p : MemoryProtocol} :
    p ∈ h.hoster.protocols ↔
      ∃ m, d.plugin? m.name = some (.protocol m) ∧ m.name ∉ d.settings.plugins.disabled ∧
        (∀ n ∈ m.required, h.parameters.contains n = true) ∧ p = m.built h.parameters := by
  rw [hoster_of_build hb]
  show p ∈ (h.registry.createProtocols h.parameters) ↔ _
  rw [Registry.createProtocols, List.mem_filterMap]
  constructor
  · rintro ⟨e, he, hp⟩
    obtain ⟨q, hq, hon, hkind, rfl⟩ := (mem_candidates_of_build hb).1 he
    cases q with
    | protocol m => exact ⟨m, hq, hon, (createProtocol_of_build hb he).1 hp⟩
    | parser m => cases hkind
  · rintro ⟨m, hm, hon, hp⟩
    have he := (mem_candidates_of_build hb).2 ⟨.protocol m, hm, hon, rfl, rfl⟩
    exact ⟨_, he, (createProtocol_of_build hb he).2 hp⟩

theorem pairwise_protocols_of_build (hb : d.build = .ok h) :
    h.hoster.protocols.Pairwise fun p q => p.name < q.name := by
  have hname : ∀ e ∈ h.registry.candidates .protocol, ∀ p : MemoryProtocol,
      (h.registry.createProtocol e.manifest.name h.parameters).toOption = some p →
        p.name = e.manifest.name := by
    intro e he p hp
    obtain ⟨q, -, -, hkind, rfl⟩ := (mem_candidates_of_build hb).1 he
    cases q with
    | protocol m =>
      rw [((createProtocol_of_build hb he).1 hp).2]
      rfl
    | parser m => cases hkind
  rw [hoster_of_build hb]
  show (h.registry.createProtocols h.parameters).Pairwise _
  rw [Registry.createProtocols, List.pairwise_filterMap]
  refine ((wellFormed_of_build hb).pairwise_candidates .protocol).imp_of_mem
    fun {e e'} he he' hlt p hp p' hp' => ?_
  rw [hname e he p hp, hname e' he' p' hp']
  exact hlt

end HarnessDraft

end StreamSource
