import StreamSource.Configuration
import StreamSource.Proofs.Registry.Status

/-! What it answers to build a plugin by its name. The conditions are gone through in one order for
both kinds: there is a plugin of the kind under the name, it is enabled, it has a factory, and no
parameter that it requires is missing. The first that fails is the answer; if none does, the factory
answers. When all protocols are built, those that can be built by their names are there. -/

namespace StreamSource

variable {σ : Type}

/-- What a plugin of a kind is built as. -/
abbrev PluginKind.Product (σ : Type) : PluginKind → Type
  | .protocol => σ
  | .parser => StreamParser (Hoster σ)

namespace PluginFactory

/-- How a factory builds plugins of a kind, if this is its own kind. -/
def create? : PluginFactory σ → (kind : PluginKind) →
    Option (Parameters → Except Error (kind.Product σ))
  | .protocol create, .protocol => some create
  | .parser create, .parser => some create
  | .protocol _, .parser => none
  | .parser _, .protocol => none

theorem exists_create? {f : PluginFactory σ} {kind : PluginKind} (hkind : f.kind = kind) :
    ∃ create, f.create? kind = some create := by
  subst hkind
  cases f with
  | protocol create => exact ⟨create, rfl⟩
  | parser create => exact ⟨create, rfl⟩

end PluginFactory

namespace PluginManifest

/-- The configuration that a parser is built from. -/
def configuration {η : Type} (m : PluginManifest) (ps : Parameters) (h : η) :
    Except Error (PluginConfiguration η) :=
  ConfigurationDraft.build <|
    ConfigurationDraft.require { parameters := some ps, hoster := some h } m.requiredParameters

theorem configuration_eq {η : Type} (m : PluginManifest) (ps : Parameters) (h : η) :
    m.configuration ps h = (ps.require m.requiredParameters).map fun _ => ⟨ps, h⟩ := rfl

end PluginManifest

namespace Registry

variable {r : Registry σ} {kind : PluginKind} {name : String} {ps : Parameters}

/-- What building the plugin of a name answers: the first condition that fails, or else what the
factory does. -/
inductive Constructs (r : Registry σ) (kind : PluginKind) (name : String) (ps : Parameters) :
    Except Error (kind.Product σ) → Prop
  | notFound (h : ∀ e, r.get? name = some e → e.manifest.kind ≠ kind) :
    Constructs r kind name ps (.error (.pluginNotFound kind.name name))
  | notEnabled {e : PluginEntry σ} (he : r.get? name = some e) (hkind : e.manifest.kind = kind)
    (hstatus : e.status ≠ .enabled) :
    Constructs r kind name ps (.error (.configuration (.notEnabled name e.status)))
  | noFactory {e : PluginEntry σ} (he : r.get? name = some e) (hkind : e.manifest.kind = kind)
    (hstatus : e.status = .enabled) (hfactory : e.factory = none) :
    Constructs r kind name ps (.error (.configuration (.noFactory kind name)))
  | lacks {e : PluginEntry σ} {n : String} (he : r.get? name = some e)
    (hkind : e.manifest.kind = kind) (hstatus : e.status = .enabled)
    (hfactory : e.factory.isSome = true)
    (hn : FirstWithout (ps.contains · = true) e.manifest.requiredParameters n) :
    Constructs r kind name ps (.error (.missingParameter n))
  | answers {e : PluginEntry σ} {f : PluginFactory σ}
    {create : Parameters → Except Error (kind.Product σ)} (he : r.get? name = some e)
    (hkind : e.manifest.kind = kind) (hstatus : e.status = .enabled) (hfactory : e.factory = some f)
    (hcreate : f.create? kind = some create)
    (hrequired : ∀ n ∈ e.manifest.requiredParameters, ps.contains n = true) :
    Constructs r kind name ps (create ps)

/-! ### The two ways to build -/

/-- How a plugin of either kind is built. -/
def construct (r : Registry σ) (kind : PluginKind) (name : String) (ps : Parameters) :
    Except Error (kind.Product σ) := do
  let e ← r.lookup name kind
  match e.factory.bind (·.create? kind) with
  | some create =>
    ps.require e.manifest.requiredParameters
    create ps
  | none => .error (.configuration (.noFactory kind name))

theorem construct_eq_createProtocol (r : Registry σ) (name : String) (ps : Parameters) :
    r.construct .protocol name ps = r.createProtocol name ps := by
  unfold construct createProtocol
  cases r.lookup name .protocol with
  | error err => rfl
  | ok e =>
    obtain ⟨m, status, factory⟩ := e
    rcases factory with _ | _ | _ <;> rfl

theorem construct_eq_createParser (r : Registry σ) (name : String) (ps : Parameters) :
    r.construct .parser name ps = r.createParser name ps := by
  unfold construct createParser
  cases r.lookup name .parser with
  | error err => rfl
  | ok e =>
    obtain ⟨m, status, factory⟩ := e
    rcases factory with _ | _ | _ <;> rfl

/-- A parser that is built from a configuration, with the hoster that streams are read through. -/
def createParserOn (r : Registry σ) (name : String) (ps : Parameters) (h : Hoster σ) :
    Except Error (StreamParser (Hoster σ)) := do
  let e ← r.lookup name .parser
  match e.factory with
  | some (.parser create) =>
    let c ← e.manifest.configuration ps h
    create c.parameters
  | _ => .error (.configuration (.noFactory .parser name))

/-- The configuration adds no error of its own, and has just the parameters that were given. -/
theorem createParserOn_eq (r : Registry σ) (name : String) (ps : Parameters) (h : Hoster σ) :
    r.createParserOn name ps h = r.createParser name ps := by
  unfold createParserOn createParser
  cases r.lookup name .parser with
  | error err => rfl
  | ok e =>
    obtain ⟨m, status, factory⟩ := e
    rcases factory with _ | _ | create
    · rfl
    · rfl
    · show (m.configuration ps h).bind _ = (ps.require m.requiredParameters).bind _
      rw [m.configuration_eq]
      cases ps.require m.requiredParameters <;> rfl

/-! ### What they answer -/

theorem lookup_of_notFound (h : ∀ e, r.get? name = some e → e.manifest.kind ≠ kind) :
    r.lookup name kind = .error (.pluginNotFound kind.name name) := by
  unfold lookup
  cases he : r.get? name with
  | none => rfl
  | some e => exact if_pos (h e he)

theorem lookup_of_notEnabled {e : PluginEntry σ} (he : r.get? name = some e)
    (hkind : e.manifest.kind = kind) (hstatus : e.status ≠ .enabled) :
    r.lookup name kind = .error (.configuration (.notEnabled name e.status)) := by
  unfold lookup
  simp only [he, hkind, hstatus, ne_eq, not_true, not_false_eq_true, if_false, if_true]

/-- An enabled plugin of the kind is built unless it has no factory or lacks a parameter. -/
theorem construct_of_enabled {e : PluginEntry σ} (he : r.get? name = some e)
    (hkind : e.manifest.kind = kind) (hstatus : e.status = .enabled) (ps : Parameters) :
    r.construct kind name ps =
      match e.factory.bind (·.create? kind) with
      | some create => (ps.require e.manifest.requiredParameters).bind fun _ => create ps
      | none => .error (.configuration (.noFactory kind name)) := by
  unfold construct
  rw [lookup_eq_ok_iff.2 ⟨he, hkind, hstatus⟩]
  rfl

theorem WellFormed.exists_create? (hr : WellFormed r) {e : PluginEntry σ}
    (he : r.get? name = some e) (hkind : e.manifest.kind = kind) {f : PluginFactory σ}
    (hfactory : e.factory = some f) : ∃ create, f.create? kind = some create :=
  PluginFactory.exists_create? ((hr.kind_eq he hfactory).trans hkind)

theorem WellFormed.construct_of_constructs (hr : WellFormed r)
    {x : Except Error (kind.Product σ)} (hx : Constructs r kind name ps x) :
    r.construct kind name ps = x := by
  cases hx with
  | notFound h =>
    unfold construct
    rw [lookup_of_notFound h]
    rfl
  | notEnabled he hkind hstatus =>
    unfold construct
    rw [lookup_of_notEnabled he hkind hstatus]
    rfl
  | noFactory he hkind hstatus hfactory =>
    rw [construct_of_enabled he hkind hstatus, hfactory]
    rfl
  | lacks he hkind hstatus hfactory hn =>
    obtain ⟨f, hf⟩ := Option.isSome_iff_exists.1 hfactory
    obtain ⟨create, hcreate⟩ := hr.exists_create? he hkind hf
    rw [construct_of_enabled he hkind hstatus, hf, Option.bind_some, hcreate,
      Parameters.require_eq_error_iff.2 ⟨_, hn, rfl⟩]
    rfl
  | answers he hkind hstatus hfactory hcreate hrequired =>
    rw [construct_of_enabled he hkind hstatus, hfactory, Option.bind_some, hcreate,
      (Parameters.require_eq_ok_iff (u := ())).2 hrequired]
    rfl

theorem WellFormed.exists_constructs (hr : WellFormed r) (kind : PluginKind) (name : String)
    (ps : Parameters) : ∃ x, Constructs r kind name ps x := by
  by_cases hfound : ∃ e, r.get? name = some e ∧ e.manifest.kind = kind
  · obtain ⟨e, he, hkind⟩ := hfound
    by_cases hstatus : e.status = .enabled
    · cases hf : e.factory with
      | none => exact ⟨_, .noFactory he hkind hstatus hf⟩
      | some f =>
        cases hrequire : ps.require e.manifest.requiredParameters with
        | error err =>
          obtain ⟨n, hn, -⟩ := Parameters.require_eq_error_iff.1 hrequire
          exact ⟨_, .lacks he hkind hstatus (by simp [hf]) hn⟩
        | ok u =>
          obtain ⟨create, hcreate⟩ := hr.exists_create? he hkind hf
          exact ⟨_, .answers he hkind hstatus hf hcreate (Parameters.require_eq_ok_iff.1 hrequire)⟩
    · exact ⟨_, .notEnabled he hkind hstatus⟩
  · exact ⟨_, .notFound fun e he hkind => hfound ⟨e, he, hkind⟩⟩

theorem WellFormed.construct_eq_iff (hr : WellFormed r) {x : Except Error (kind.Product σ)} :
    r.construct kind name ps = x ↔ Constructs r kind name ps x := by
  constructor
  · rintro rfl
    obtain ⟨x, hx⟩ := hr.exists_constructs kind name ps
    exact (hr.construct_of_constructs hx).symm ▸ hx
  · exact hr.construct_of_constructs

/-! ### All protocols -/

/-- Those without a factory need not be left out before they are built. -/
theorem WellFormed.createProtocols_eq (hr : WellFormed r) (ps : Parameters) :
    r.createProtocols ps =
      (r.enabled .protocol).filterMap fun e => (r.createProtocol e.manifest.name ps).toOption := by
  rw [createProtocols, candidates, List.filterMap_filter]
  refine List.filterMap_congr fun e he => ?_
  cases hfactory : e.factory with
  | some f => simp
  | none =>
    obtain ⟨hmem, hstatus, hkind⟩ := mem_enabled_iff.1 he
    have hnone : r.construct .protocol e.manifest.name ps = _ :=
      hr.construct_of_constructs (.noFactory (hr.get?_of_mem hmem) hkind hstatus hfactory)
    rw [← construct_eq_createProtocol, hnone]
    rfl

/-- What is built is told by the names of the enabled protocols, in the order of their bytes. -/
theorem WellFormed.exists_names_createProtocols (hr : WellFormed r) (ps : Parameters) :
    ∃ names : List String,
      (∀ n, n ∈ names ↔
        ∃ e, r.get? n = some e ∧ e.status = .enabled ∧ e.manifest.kind = .protocol) ∧
      names.Pairwise (fun a b => Text.utf8 a < Text.utf8 b) ∧
      r.createProtocols ps = names.filterMap fun n => (r.createProtocol n ps).toOption := by
  refine ⟨(r.enabled .protocol).map (·.manifest.name), fun n => ?_, ?_, ?_⟩
  · rw [List.mem_map]
    constructor
    · rintro ⟨e, he, rfl⟩
      obtain ⟨hmem, hstatus, hkind⟩ := mem_enabled_iff.1 he
      exact ⟨e, hr.get?_of_mem hmem, hstatus, hkind⟩
    · rintro ⟨e, he, hstatus, hkind⟩
      exact ⟨e, mem_enabled_iff.2 ⟨mem_list_iff.2 ⟨n, he⟩, hstatus, hkind⟩, hr.name_eq he⟩
  · rw [List.pairwise_map]
    exact (hr.pairwise_list.sublist List.filter_sublist).imp Text.lt_iff_utf8_lt.1
  · rw [List.filterMap_map]
    exact hr.createProtocols_eq ps

/-- After any run, building a plugin by its name answers with the first condition that fails or with
what the factory answers, and it makes no difference whether a parser gets its parameters
alone or in a configuration. All protocols are those that can be built by the names of the enabled
ones, in the order of the bytes of these names; what one is built as depends on no other. -/
theorem constructs_after (cs : List (Change σ)) (ps : Parameters) :
    let r := (empty : Registry σ).after cs
    (∀ name x, r.createProtocol name ps = x ↔ Constructs r .protocol name ps x) ∧
    (∀ name x, r.createParser name ps = x ↔ Constructs r .parser name ps x) ∧
    (∀ name h, r.createParserOn name ps h = r.createParser name ps) ∧
    (∃ names : List String,
      (∀ n, n ∈ names ↔
        ∃ e, r.get? n = some e ∧ e.status = .enabled ∧ e.manifest.kind = .protocol) ∧
      names.Pairwise (fun a b => Text.utf8 a < Text.utf8 b) ∧
      r.createProtocols ps = names.filterMap fun n => (r.createProtocol n ps).toOption) ∧
    ∀ (g : Registration σ) name, g.manifest.name ≠ name →
      (r.changed (.register g)).createProtocol name ps = r.createProtocol name ps := by
  intro r
  have hr : WellFormed r := wellFormed_after cs
  refine ⟨fun name x => ?_, fun name x => ?_, fun name => r.createParserOn_eq name ps,
    hr.exists_names_createProtocols ps, fun g name hne => createProtocol_congr ?_ ps⟩
  · rw [← construct_eq_createProtocol]
    exact hr.construct_eq_iff
  · rw [← construct_eq_createParser]
    exact hr.construct_eq_iff
  · rw [get?_changed_register, if_neg hne]

/-- What a plugin is registered with that requires some parameters. -/
def requiring (name : String) (kind : PluginKind) (names : List String)
    (factory : Option (PluginFactory String) := none) : Registration String where
  manifest :=
    { name := name, version := "0.1.0", description := "", kind := kind,
      requiredParameters := names }
  factory := factory

/-- A parser that is disabled, one that is not, both without a factory, and a protocol; all of them
lack parameters. -/
def hindered : List (Change String) :=
  [.register (requiring "f4m" .parser [Names.url]), .setEnabled "f4m" false,
    .register (requiring "ism" .parser [Names.url]),
    .register (requiring "mshs" .protocol [Names.mshsBaseUrl, Names.mshsManifest]
      (some (.protocol fun _ => .ok "mshs")))]

theorem constructs_of_hindered :
    let there := Parameters.ofPairs
      [(Names.mshsManifest, .text "http://m"), (Names.mshsBaseUrl, .text "http://b")]
    let r := (empty : Registry String).after hindered
    r.createProtocol "f4m" .empty = .error (.pluginNotFound "Protocol" "f4m") ∧
      r.createParser "f4m" .empty = .error (.configuration (.notEnabled "f4m" .disabled)) ∧
      r.createParser "ism" .empty = .error (.configuration (.noFactory .parser "ism")) ∧
      r.createProtocol "mshs" .empty = .error (.missingParameter Names.mshsBaseUrl) ∧
      r.createProtocol "mshs" there = .ok "mshs" ∧
      ∀ g : Registration String, g.manifest.name = "f4m" →
        (r.changed (.register g)).createProtocol "mshs" there = .ok "mshs" := by
  intro there r
  obtain ⟨hprotocol, hparser, -⟩ := constructs_after hindered .empty
  obtain ⟨hbuilt, -, -, -, hframe⟩ := constructs_after hindered there
  have hf4m : r.get? "f4m" =
      some { (requiring "f4m" .parser [Names.url]).entry with status := .disabled } := rfl
  have hism : r.get? "ism" = some (requiring "ism" .parser [Names.url]).entry := rfl
  have hmshs : r.get? "mshs" =
      some (requiring "mshs" .protocol [Names.mshsBaseUrl, Names.mshsManifest]
        (some (.protocol fun _ => .ok "mshs"))).entry := rfl
  have hlacks : FirstWithout (Parameters.empty.contains · = true)
      [Names.mshsBaseUrl, Names.mshsManifest] Names.mshsBaseUrl :=
    ⟨[], [Names.mshsManifest], rfl, by simp, Bool.false_ne_true⟩
  have hok : r.createProtocol "mshs" there = .ok "mshs" :=
    (hbuilt _ _).2 (.answers hmshs rfl rfl rfl rfl (by decide))
  refine ⟨(hprotocol _ _).2 (.notFound fun e he => ?_),
    (hparser _ _).2 (.notEnabled hf4m rfl ?_), (hparser _ _).2 (.noFactory hism rfl rfl rfl),
    (hprotocol _ _).2 (.lacks hmshs rfl rfl rfl hlacks), hok,
    fun g hg => (hframe g "mshs" ?_).trans hok⟩
  · cases hf4m.symm.trans he
    exact nofun
  · exact nofun
  · rw [hg]
    decide

end Registry

end StreamSource
