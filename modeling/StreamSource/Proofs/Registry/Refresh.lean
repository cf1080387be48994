import StreamSource.Proofs.Registry.Construction

/-! Refreshing a registry. A refresh takes out the plugins that lack a parameter, and these are just
the ones that are passed over when plugins are built from the same parameters; so it does not show
unless it brings back a plugin. After it an enabled plugin lacks nothing, and nothing but
its own factory keeps it from being built. -/

namespace StreamSource

variable {σ : Type}

namespace PluginEntry

variable {e : PluginEntry σ} {ps : Parameters}

theorem status_refreshed_eq_enabled_iff :
    (e.refreshed ps).status = .enabled ↔
      e.status ≠ .disabled ∧ e.manifest.isSatisfiedBy ps = true := by
  rw [refreshed, PluginStatus.refreshed_eq]
  by_cases hstatus : e.status = .disabled
  · simp [hstatus]
  · cases e.manifest.isSatisfiedBy ps <;> simp [hstatus]

theorem refreshed_of_enabled (hstatus : e.status = .enabled)
    (hsatisfied : e.manifest.isSatisfiedBy ps = true) : e.refreshed ps = e := by
  obtain ⟨m, status, factory⟩ := e
  cases hstatus
  rw [refreshed, hsatisfied]
  rfl

end PluginEntry

namespace Registry

variable {r : Registry σ} {ps : Parameters} {kind : PluginKind} {e : PluginEntry σ}
  {es : List (PluginEntry σ)}

/-! ### Candidates -/

theorem WellFormed.candidates_refresh (hr : WellFormed r)
    (hconfigured : ∀ e ∈ r.list, e.status ≠ .notConfigured) (ps : Parameters) (kind : PluginKind) :
    (r.refresh ps).candidates kind = (r.candidates kind).filter (·.manifest.isSatisfiedBy ps) := by
  have hr' := hr.refresh ps
  refine eq_of_pairwise_of_mem_iff (fun _ _ => String.lt_asymm) (hr'.pairwise_candidates kind)
    ((hr.pairwise_candidates kind).filter _) fun e => ?_
  rw [List.mem_filter, mem_candidates_iff, mem_candidates_iff, hr'.mem_list_iff_get?,
    hr.mem_list_iff_get?, get?_refresh]
  constructor
  · rintro ⟨he, hstatus, hkind, hfactory⟩
    obtain ⟨e', he', rfl⟩ := Option.map_eq_some_iff.1 he
    obtain ⟨hon, hsatisfied⟩ := PluginEntry.status_refreshed_eq_enabled_iff.1 hstatus
    have henabled : e'.status = .enabled := by
      have hne := hconfigured e' (mem_list_iff.2 ⟨_, he'⟩)
      cases hcases : e'.status <;> simp_all
    have heq := PluginEntry.refreshed_of_enabled henabled hsatisfied
    exact ⟨⟨heq.symm ▸ he', heq.symm ▸ henabled, hkind, hfactory⟩, hsatisfied⟩
  · rintro ⟨⟨he, hstatus, hkind, hfactory⟩, hsatisfied⟩
    refine ⟨?_, hstatus, hkind, hfactory⟩
    rw [he, Option.map_some, PluginEntry.refreshed_of_enabled hstatus hsatisfied]

theorem WellFormed.get?_refresh_candidate (hr : WellFormed r) (he : e ∈ r.candidates kind)
    (hsatisfied : e.manifest.isSatisfiedBy ps = true) :
    (r.refresh ps).get? e.manifest.name = r.get? e.manifest.name := by
  obtain ⟨hmem, hstatus, -⟩ := mem_candidates_iff.1 he
  rw [get?_refresh, hr.get?_of_mem hmem, Option.map_some,
    PluginEntry.refreshed_of_enabled hstatus hsatisfied]

theorem require_of_not_isSatisfiedBy {m : PluginManifest} (h : ¬ m.isSatisfiedBy ps = true) :
    ∃ n, ps.require m.requiredParameters = .error (.missingParameter n) := by
  rw [PluginManifest.isSatisfiedBy_iff, Classical.not_forall] at h
  obtain ⟨n, hn⟩ := h
  exact Parameters.exists_require_eq_error ⟨n, Classical.not_imp.1 hn⟩

/-! ### What is built and detected -/

theorem WellFormed.createProtocols_refresh (hr : WellFormed r)
    (hconfigured : ∀ e ∈ r.list, e.status ≠ .notConfigured) (ps : Parameters) :
    (r.refresh ps).createProtocols ps = r.createProtocols ps := by
  rw [createProtocols, hr.candidates_refresh hconfigured, List.filterMap_filter, createProtocols]
  refine List.filterMap_congr fun e he => ?_
  by_cases hsatisfied : e.manifest.isSatisfiedBy ps = true
  · rw [if_pos hsatisfied, createProtocol_congr (hr.get?_refresh_candidate he hsatisfied)]
  · obtain ⟨create, -, hcreate⟩ := hr.createProtocol_eq he ps
    obtain ⟨n, hn⟩ := require_of_not_isSatisfiedBy hsatisfied
    rw [if_neg hsatisfied, hcreate, hn]
    rfl

/-- A detection passes over the candidates that lack a parameter. -/
theorem WellFormed.detectAmong_filter (hr : WellFormed r)
    (hes : ∀ e ∈ es, e ∈ r.candidates .parser) (ps : Parameters) (h : Hoster σ) :
    r.detectAmong ps (es.filter (·.manifest.isSatisfiedBy ps)) h = r.detectAmong ps es h := by
  induction es generalizing h with
  | nil => rfl
  | cons e es ih =>
    have ih := ih fun e he => hes e (List.mem_cons_of_mem _ he)
    by_cases hsatisfied : e.manifest.isSatisfiedBy ps = true
    · rw [List.filter_cons, if_pos hsatisfied, detectAmong, detectAmong]
      simp only [ih]
    · obtain ⟨create, -, hcreate⟩ := hr.createParser_eq (hes e List.mem_cons_self) ps
      obtain ⟨n, hn⟩ := require_of_not_isSatisfiedBy hsatisfied
      rw [hn] at hcreate
      rw [List.filter_cons, if_neg hsatisfied, detectAmong_of_missing hcreate, ih]

theorem WellFormed.detect_refresh (hr : WellFormed r)
    (hconfigured : ∀ e ∈ r.list, e.status ≠ .notConfigured) (ps : Parameters) (h : Hoster σ) :
    (r.refresh ps).detect ps h = r.detect ps h := by
  have hcreate : ∀ e ∈ (r.candidates .parser).filter (·.manifest.isSatisfiedBy ps),
      (r.refresh ps).createParser e.manifest.name ps = r.createParser e.manifest.name ps := by
    intro e he
    obtain ⟨hmem, hsatisfied⟩ := List.mem_filter.1 he
    exact createParser_congr (hr.get?_refresh_candidate hmem hsatisfied) ps
  rw [detect, hr.candidates_refresh hconfigured, detectAmong_congr hcreate,
    hr.detectAmong_filter (fun _ he => he), detect]

/-! ### After a refresh -/

/-- The plugin of a name lacks nothing, and to build it answers what its own factory answers. -/
structure Unhindered (r : Registry σ) (ps : Parameters) (name : String) (e : PluginEntry σ) :
    Prop where
  required : ∀ n ∈ e.manifest.requiredParameters, ps.contains n = true
  protocol : e.manifest.kind = .protocol → e.factory.isSome = true →
    ∃ create, e.factory = some (.protocol create) ∧ r.createProtocol name ps = create ps
  parser : e.manifest.kind = .parser → e.factory.isSome = true →
    ∃ create, e.factory = some (.parser create) ∧ r.createParser name ps = create ps

theorem WellFormed.unhindered (hr : WellFormed r) {name : String} (he : r.get? name = some e)
    (hstatus : e.status = .enabled)
    (hrequired : ∀ n ∈ e.manifest.requiredParameters, ps.contains n = true) :
    Unhindered r ps name e where
  required := hrequired
  protocol hkind hfactory := by
    obtain ⟨f, hf⟩ := Option.isSome_iff_exists.1 hfactory
    cases f with
    | protocol create =>
      refine ⟨create, hf, ?_⟩
      rw [← construct_eq_createProtocol]
      exact hr.construct_of_constructs (.answers he hkind hstatus hf rfl hrequired)
    | parser create => cases (hr.kind_eq he hf).trans hkind
  parser hkind hfactory := by
    obtain ⟨f, hf⟩ := Option.isSome_iff_exists.1 hfactory
    cases f with
    | protocol create => cases (hr.kind_eq he hf).trans hkind
    | parser create =>
      refine ⟨create, hf, ?_⟩
      rw [← construct_eq_createParser]
      exact hr.construct_of_constructs (.answers he hkind hstatus hf rfl hrequired)

theorem required_of_refresh {name : String} (he : (r.refresh ps).get? name = some e)
    (hstatus : e.status = .enabled) :
    ∀ n ∈ e.manifest.requiredParameters, ps.contains n = true := by
  rw [get?_refresh] at he
  obtain ⟨e', -, rfl⟩ := Option.map_eq_some_iff.1 he
  exact PluginManifest.isSatisfiedBy_iff.1 (PluginEntry.status_refreshed_eq_enabled_iff.1 hstatus).2

/-- After any run, if no plugin is waiting for parameters, a refresh with the parameters that
plugins are then built from does not show in the protocols that are built nor in what is detected.
After any run at all, a refresh leaves the enabled plugins unhindered. -/
theorem refresh_unseen_and_unhindered (cs : List (Change σ)) (ps : Parameters) :
    let r := (empty : Registry σ).after cs
    ((∀ e ∈ r.list, e.status ≠ .notConfigured) →
      (r.refresh ps).createProtocols ps = r.createProtocols ps ∧
        ∀ h, (r.refresh ps).detect ps h = r.detect ps h) ∧
    ∀ name e, (r.refresh ps).get? name = some e → e.status = .enabled →
      Unhindered (r.refresh ps) ps name e := by
  intro r
  have hr : WellFormed r := wellFormed_after cs
  refine ⟨fun hconfigured => ⟨hr.createProtocols_refresh hconfigured ps,
    hr.detect_refresh hconfigured ps⟩, fun name e he hstatus => ?_⟩
  exact (hr.refresh ps).unhindered he hstatus (required_of_refresh he hstatus)

/-- A protocol that needs a manifest, one that needs nothing, and a parser that is disabled. -/
def mixed : List (Change String) :=
  [.register (requiring "mshs" .protocol [Names.mshsManifest]
      (some (.protocol fun _ => .ok "mshs"))),
    .register (requiring "udp" .protocol [] (some (.protocol fun _ => .ok "udp"))),
    .register (requiring "f4m" .parser []), .setEnabled "f4m" false]

theorem createProtocols_of_mixed :
    let r := (empty : Registry String).after mixed
    (∀ e ∈ r.list, e.status ≠ .notConfigured) ∧
      (r.refresh .empty).createProtocols .empty = r.createProtocols .empty ∧
      r.createProtocols .empty = ["udp"] ∧
      ∃ e, (r.refresh .empty).get? "udp" = some e ∧ e.status = .enabled ∧
        Unhindered (r.refresh .empty) .empty "udp" e := by
  intro r
  have hconfigured : ∀ e ∈ r.list, e.status ≠ .notConfigured := by
    have hstatus : r.list.map (·.status) = [.disabled, .enabled, .enabled] := rfl
    intro e he heq
    have hmem : e.status ∈ r.list.map (·.status) := List.mem_map_of_mem he
    rw [hstatus, heq] at hmem
    simp at hmem
  have hrefresh := refresh_unseen_and_unhindered mixed .empty
  exact ⟨hconfigured, (hrefresh.1 hconfigured).1, rfl, _, rfl, rfl, hrefresh.2 "udp" _ rfl rfl⟩

/-- Where a plugin was waiting for parameters, a refresh that brings them shows. -/
example :
    let there := Parameters.ofPairs [(Names.mshsManifest, .text "http://m")]
    let r := (empty : Registry String).after (mixed ++ [.refresh .empty])
    r.createProtocols there = ["udp"] ∧ (r.refresh there).createProtocols there = ["mshs", "udp"] :=
  ⟨rfl, rfl⟩

end Registry

end StreamSource
