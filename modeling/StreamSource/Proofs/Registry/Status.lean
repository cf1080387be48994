import Mathlib.Data.List.Induction
import StreamSource.Names
import StreamSource.Proofs.Registry.FirstMatch

/-! The statuses of plugins. The last successful call that names a plugin gives it a status; if
that is not disabled, then only the last refresh since then counts. As long as a plugin is not
enabled, nothing that the registry builds or detects depends on it. -/

namespace StreamSource

variable {σ : Type}

/-- A refresh does not look at the status, unless the plugin is disabled. -/
theorem PluginStatus.refreshed_eq (satisfied : Bool) (s : PluginStatus) :
    s.refreshed satisfied =
      if s = .disabled then .disabled else if satisfied then .enabled else .notConfigured := by
  cases s <;> rfl

namespace PluginManifest

theorem isSatisfiedBy_iff {m : PluginManifest} {ps : Parameters} :
    m.isSatisfiedBy ps = true ↔ ∀ n ∈ m.requiredParameters, ps.contains n = true := by
  unfold isSatisfiedBy Parameters.missing?
  rw [Option.isNone_iff_eq_none, List.find?_eq_none]
  simp only [Bool.not_eq_true, Bool.not_eq_false']

/-- The status of a plugin that was given `S` and refreshed with parameters since then. -/
def settled (m : PluginManifest) (S : PluginStatus) (refreshes : List Parameters) : PluginStatus :=
  if S = .disabled then .disabled
  else
    match refreshes.getLast? with
    | none => S
    | some ps =>
      if ∀ n ∈ m.requiredParameters, ps.contains n = true then .enabled else .notConfigured

theorem settled_eq_disabled_iff {m : PluginManifest} {S : PluginStatus}
    {refreshes : List Parameters} : m.settled S refreshes = .disabled ↔ S = .disabled := by
  unfold settled
  by_cases hS : S = .disabled
  · rw [if_pos hS, eq_self, true_iff]
    exact hS
  · rw [if_neg hS]
    cases refreshes.getLast? with
    | none => rfl
    | some ps =>
      simp only [hS, iff_false]
      split <;> simp

theorem settled_concat (m : PluginManifest) (S : PluginStatus) (refreshes : List Parameters)
    (ps : Parameters) :
    m.settled S (refreshes ++ [ps]) = (m.settled S refreshes).refreshed (m.isSatisfiedBy ps) := by
  simp only [PluginStatus.refreshed_eq, settled_eq_disabled_iff, isSatisfiedBy_iff]
  rw [settled, List.getLast?_concat]

end PluginManifest

namespace Registry

/-- The status that a call gives a plugin by naming it. A call that fails gives none. -/
def given? (r : Registry σ) (name : String) : Change σ → Option PluginStatus
  | .register g => if g.manifest.name = name then some g.status else none
  | .setEnabled k on =>
    if k = name ∧ (r.setEnabled k on).isOk then some (switched on) else none
  | .refresh _ => none

namespace Change

def parameters? : Change σ → Option Parameters
  | .register _ => none
  | .setEnabled _ _ => none
  | .refresh ps => some ps

end Change

/-- In a run from the empty registry, the last call to give the plugin a status gives `S`, and
the calls `later` are made after it. -/
inductive LastGiven (name : String) : List (Change σ) → PluginStatus → List (Change σ) → Prop
  | now (cs : List (Change σ)) (c : Change σ) {S : PluginStatus}
    (h : (empty.after cs).given? name c = some S) : LastGiven name (cs ++ [c]) S []
  | before (cs : List (Change σ)) (c : Change σ) {S : PluginStatus} {later : List (Change σ)}
    (hlast : LastGiven name cs S later) (h : (empty.after cs).given? name c = none) :
    LastGiven name (cs ++ [c]) S (later ++ [c])

variable {r : Registry σ} {name : String}

theorem get?_changed_of_given {c : Change σ} {S : PluginStatus} (h : r.given? name c = some S) :
    ∃ e, (r.changed c).get? name = some e ∧ e.status = S := by
  cases c with
  | register g =>
    rw [get?_changed_register]
    simp only [given?, Option.ite_none_right_eq_some, Option.some.injEq] at h
    rw [if_pos h.1]
    exact ⟨_, rfl, h.2⟩
  | setEnabled k on =>
    simp only [given?, Option.ite_none_right_eq_some, Option.some.injEq] at h
    obtain ⟨⟨rfl, hok⟩, rfl⟩ := h
    cases hset : r.setEnabled k on with
    | error err =>
      rw [hset] at hok
      cases hok
    | ok r' =>
      obtain ⟨⟨e, he⟩, -⟩ := setEnabled_eq_ok hset
      rw [get?_changed_setEnabled, he]
      exact ⟨_, rfl, by simp⟩
  | refresh ps => cases h

/-- A call that gives no status leaves an entry as it is, unless it is a refresh. -/
theorem get?_changed_of_given_eq_none {c : Change σ} (h : r.given? name c = none) :
    (r.changed c).get? name =
      (r.get? name).map fun e => c.parameters?.elim e fun ps => e.refreshed ps := by
  cases c with
  | register g =>
    rw [get?_changed_register]
    simp only [given?, ite_eq_right_iff, reduceCtorEq, imp_false] at h
    rw [if_neg h]
    exact Option.map_id'.symm
  | setEnabled k on =>
    cases hset : r.setEnabled k on with
    | error err =>
      rw [changed_setEnabled_of_error hset]
      exact Option.map_id'.symm
    | ok r' =>
      have hk : k ≠ name := by
        rintro rfl
        simp [given?, hset, Except.isOk, Except.toBool] at h
      rw [get?_changed_setEnabled]
      simp only [if_neg hk]
      rfl
  | refresh ps => exact get?_changed_refresh r ps name

/-- The status that was given last settles with the refreshes since then. -/
theorem LastGiven.status_eq {cs later : List (Change σ)} {S : PluginStatus}
    (h : LastGiven name cs S later) :
    ∃ e, (empty.after cs).get? name = some e ∧
      e.status = e.manifest.settled S (later.filterMap Change.parameters?) := by
  induction h with
  | @now cs c S h =>
    obtain ⟨e, he, hstatus⟩ := get?_changed_of_given h
    refine ⟨e, ?_, ?_⟩
    · rw [after_concat, he]
    · rw [hstatus]
      cases S <;> rfl
  | before cs c _ h ih =>
    obtain ⟨e, he, hstatus⟩ := ih
    rw [after_concat, get?_changed_of_given_eq_none h, he, List.filterMap_append]
    cases hc : c.parameters? with
    | none =>
      refine ⟨e, rfl, ?_⟩
      rw [List.filterMap_cons_none hc, List.filterMap_nil, List.append_nil]
      exact hstatus
    | some ps =>
      refine ⟨e.refreshed ps, rfl, ?_⟩
      rw [List.filterMap_cons_some hc, List.filterMap_nil, PluginEntry.refreshed,
        PluginManifest.settled_concat, hstatus]

/-- A plugin that is registered was given a status. -/
theorem exists_lastGiven {cs : List (Change σ)} {e : PluginEntry σ}
    (he : (empty.after cs).get? name = some e) : ∃ S later, LastGiven name cs S later := by
  induction cs using List.reverseRecOn generalizing e with
  | nil => cases he
  | append_singleton cs c ih =>
    cases h : (empty.after cs).given? name c with
    | some S => exact ⟨S, [], .now cs c h⟩
    | none =>
      rw [after_concat, get?_changed_of_given_eq_none h] at he
      obtain ⟨e', he', -⟩ := Option.map_eq_some_iff.1 he
      obtain ⟨S, later, hlast⟩ := ih he'
      exact ⟨S, later ++ [c], .before cs c hlast h⟩

theorem refresh_refresh (r : Registry σ) (ps ps' : Parameters) :
    (r.refresh ps).refresh ps' = r.refresh ps' := by
  refine ext_get? fun name => ?_
  rw [get?_refresh, get?_refresh, get?_refresh, Option.map_map]
  refine congrArg (Option.map · _) (funext fun e => ?_)
  simp only [Function.comp, PluginEntry.refreshed, PluginStatus.refreshed_eq]
  split
  · rfl
  · cases e.manifest.isSatisfiedBy ps <;> rfl

/-! ### Plugins that are not enabled -/

variable {r' : Registry σ} {es : List (PluginEntry σ)} {kind : PluginKind}

theorem createProtocol_congr (h : r.get? name = r'.get? name) (ps : Parameters) :
    r.createProtocol name ps = r'.createProtocol name ps := by
  unfold createProtocol lookup
  rw [h]

theorem createParser_congr (h : r.get? name = r'.get? name) (ps : Parameters) :
    r.createParser name ps = r'.createParser name ps := by
  unfold createParser lookup
  rw [h]

/-- A detection depends only on what its candidates are built as. -/
theorem detectAmong_congr {ps : Parameters}
    (h : ∀ e ∈ es, r.createParser e.manifest.name ps = r'.createParser e.manifest.name ps)
    (hoster : Hoster σ) : r.detectAmong ps es hoster = r'.detectAmong ps es hoster := by
  induction es generalizing hoster with
  | nil => rfl
  | cons e es ih =>
    have ih := ih fun e he => h e (List.mem_cons_of_mem _ he)
    unfold detectAmong
    rw [h e List.mem_cons_self]
    simp only [ih]

theorem lookup_ne_ok {e : PluginEntry σ} (he : r.get? name = some e) (hoff : e.status ≠ .enabled)
    (e' : PluginEntry σ) : r.lookup name kind ≠ .ok e' := by
  intro hlookup
  obtain ⟨he', -, hstatus⟩ := lookup_eq_ok_iff.1 hlookup
  cases he.symm.trans he'
  exact hoff hstatus

/-- A registration that is not enabled, in the place of a plugin that is not, does not change
the candidates. -/
theorem WellFormed.candidates_register (hr : WellFormed r) {g : Registration σ}
    (hg : g.status ≠ .enabled) {e : PluginEntry σ} (he : r.get? g.manifest.name = some e)
    (hoff : e.status ≠ .enabled) (kind : PluginKind) :
    (r.changed (.register g)).candidates kind = r.candidates kind := by
  have hr' := hr.changed (.register g)
  refine eq_of_pairwise_of_mem_iff (fun _ _ => String.lt_asymm) (hr'.pairwise_candidates kind)
    (hr.pairwise_candidates kind) fun e' => ?_
  rw [mem_candidates_iff, mem_candidates_iff, hr'.mem_list_iff_get?, hr.mem_list_iff_get?,
    get?_changed_register]
  refine and_congr_left fun ⟨hstatus, _⟩ => ?_
  by_cases hname : g.manifest.name = e'.manifest.name
  · rw [if_pos hname, ← hname, he]
    constructor
    · intro heq
      cases heq
      exact absurd hstatus hg
    · intro heq
      cases heq
      exact absurd hstatus hoff
  · rw [if_neg hname]

theorem WellFormed.name_ne_of_candidate (hr : WellFormed r) {e : PluginEntry σ}
    (he : r.get? name = some e) (hoff : e.status ≠ .enabled) {e' : PluginEntry σ}
    (he' : e' ∈ r.candidates kind) : e'.manifest.name ≠ name := by
  rintro rfl
  obtain ⟨hmem, hstatus, -⟩ := mem_candidates_iff.1 he'
  rw [hr.get?_of_mem hmem] at he
  cases he
  exact hoff hstatus

theorem WellFormed.get?_register_candidate (hr : WellFormed r) {g : Registration σ}
    {e : PluginEntry σ} (he : r.get? g.manifest.name = some e) (hoff : e.status ≠ .enabled)
    {e' : PluginEntry σ} (he' : e' ∈ r.candidates kind) :
    (r.changed (.register g)).get? e'.manifest.name = r.get? e'.manifest.name := by
  rw [get?_changed_register, if_neg (hr.name_ne_of_candidate he hoff he').symm]

/-- The plugin of a name is not built, neither alone nor with the others. Whatever else might be
registered for it, disabled, makes no difference to what is built and detected. -/
structure StaysOut (r : Registry σ) (name : String) : Prop where
  createProtocol : ∀ ps p, r.createProtocol name ps ≠ .ok p
  createParser : ∀ ps p, r.createParser name ps ≠ .ok p
  mem_createProtocols : ∀ ps p, p ∈ r.createProtocols ps →
    ∃ e ∈ r.list, e.manifest.name ≠ name ∧ r.createProtocol e.manifest.name ps = .ok p
  detected : ∀ ps h p, (r.detect ps h).1 = .ok (some p) →
    ∃ e ∈ r.list, e.manifest.name ≠ name ∧ r.createParser e.manifest.name ps = .ok p
  createProtocols : ∀ g : Registration σ, g.manifest.name = name → g.status = .disabled →
    ∀ ps, (r.changed (.register g)).createProtocols ps = r.createProtocols ps
  detect : ∀ g : Registration σ, g.manifest.name = name → g.status = .disabled →
    ∀ ps h, (r.changed (.register g)).detect ps h = r.detect ps h

theorem WellFormed.staysOut (hr : WellFormed r) {e : PluginEntry σ} (he : r.get? name = some e)
    (hoff : e.status ≠ .enabled) : StaysOut r name where
  createProtocol ps p hp := by
    unfold createProtocol at hp
    cases hlookup : r.lookup name .protocol with
    | ok e' => exact lookup_ne_ok he hoff e' hlookup
    | error err =>
      rw [hlookup] at hp
      cases hp
  createParser ps p hp := by
    unfold createParser at hp
    cases hlookup : r.lookup name .parser with
    | ok e' => exact lookup_ne_ok he hoff e' hlookup
    | error err =>
      rw [hlookup] at hp
      cases hp
  mem_createProtocols ps p hp := by
    obtain ⟨e', he', hp⟩ := List.mem_filterMap.1 hp
    refine ⟨e', (mem_candidates_iff.1 he').1, hr.name_ne_of_candidate he hoff he', ?_⟩
    cases hcreate : r.createProtocol e'.manifest.name ps with
    | ok q =>
      rw [hcreate] at hp
      exact congrArg Except.ok (Option.some.inj hp)
    | error err =>
      rw [hcreate] at hp
      cases hp
  detected ps h p hp := by
    obtain ⟨e', he', hp⟩ := hr.exists_candidate_of_detect hp
    exact ⟨e', (mem_candidates_iff.1 he').1, hr.name_ne_of_candidate he hoff he', hp⟩
  createProtocols g hname hg ps := by
    subst hname
    have hg : g.status ≠ .enabled := by simp [hg]
    have hcandidates := hr.candidates_register hg he hoff .protocol
    unfold createProtocols
    rw [hcandidates]
    refine List.filterMap_congr fun e' he' => ?_
    rw [createProtocol_congr (hr.get?_register_candidate he hoff he')]
  detect g hname hg ps h := by
    subst hname
    have hg : g.status ≠ .enabled := by simp [hg]
    have hcandidates := hr.candidates_register hg he hoff .parser
    unfold detect
    rw [hcandidates]
    exact detectAmong_congr
      (fun e' he' => createParser_congr (hr.get?_register_candidate he hoff he') ps) h

/-! ### Runs -/

/-- After any run, the status of every plugin is the one that it was given last, settled with
the refreshes since then. A refresh makes up for those before it, a name that is not
registered cannot be switched, and a plugin that is disabled stays out. -/
theorem status_settled_and_disabled_staysOut (cs : List (Change σ)) (name : String) :
    let r := (empty : Registry σ).after cs
    (∀ e, r.get? name = some e →
      (∃ S later, LastGiven name cs S later) ∧
      ∀ S later, LastGiven name cs S later →
        e.status = e.manifest.settled S (later.filterMap Change.parameters?)) ∧
    (∀ ps ps', (r.refresh ps).refresh ps' = r.refresh ps') ∧
    (r.get? name = none → ∀ on, r.setEnabled name on = .error (.pluginNotFound "unknown" name) ∧
      r.changed (.setEnabled name on) = r) ∧
    ∀ e, r.get? name = some e → e.status = .disabled → StaysOut r name := by
  intro r
  have hr : WellFormed r := wellFormed_after cs
  refine ⟨fun e he => ⟨exists_lastGiven he, fun S later hlast => ?_⟩, refresh_refresh r,
    fun hnone on => ?_, fun e he hoff => hr.staysOut he (by simp [hoff])⟩
  · obtain ⟨e', he', hstatus⟩ := hlast.status_eq
    rw [show (empty : Registry σ).after cs = r from rfl, he] at he'
    cases he'
    exact hstatus
  · have hset := setEnabled_of_none hnone on
    exact ⟨hset, changed_setEnabled_of_error hset⟩

/-- A protocol that needs a URL and opens whatever it is. -/
def needy : Registration Unit where
  manifest :=
    { name := "mshs", version := "0.1.0", description := "", kind := .protocol,
      requiredParameters := [Names.mshsManifest] }
  factory := some (.protocol fun _ => .ok ())

/-- It is built where the URL is there, and not configured once a refresh misses it. If it is
disabled, the refresh does not bring it back, and the same parameters no longer build it. -/
theorem status_of_needy :
    let there := Parameters.ofPairs [(Names.mshsManifest, .text "http://m")]
    let r := (empty : Registry Unit).after [.register needy, .refresh there, .refresh .empty]
    let r' := (empty : Registry Unit).after
      [.register needy, .setEnabled "mshs" false, .refresh there]
    ((empty : Registry Unit).after [.register needy, .refresh there]).createProtocols there = [()] ∧
      (∃ e, r.get? "mshs" = some e ∧ e.status = .notConfigured) ∧
      StaysOut r' "mshs" ∧ r'.createProtocols there = [] := by
  intro there r r'
  have hlast : LastGiven "mshs" [.register needy, .refresh there, .refresh .empty] .enabled
      [.refresh there, .refresh .empty] :=
    .before [.register needy, .refresh there] _
      (.before [.register needy] _ (.now [] _ rfl) rfl) rfl
  have hlast' : LastGiven "mshs" [.register needy, .setEnabled "mshs" false, .refresh there]
      .disabled [.refresh there] :=
    .before [.register needy, .setEnabled "mshs" false] _ (.now [.register needy] _ rfl) rfl
  have hstatus := (status_settled_and_disabled_staysOut
    [.register needy, .refresh there, .refresh .empty] "mshs").1 _ rfl
  have hstatus' := status_settled_and_disabled_staysOut
    [.register needy, .setEnabled "mshs" false, .refresh there] "mshs"
  refine ⟨rfl, ⟨_, rfl, (hstatus.2 _ _ hlast).trans rfl⟩, hstatus'.2.2.2 _ rfl ?_, rfl⟩
  exact ((hstatus'.1 _ rfl).2 _ _ hlast').trans rfl

end Registry

end StreamSource
