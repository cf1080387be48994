import StreamSource.Proofs.Harness.Building
import StreamSource.Proofs.Parser.Marker
import StreamSource.Proofs.Registry.Detection
import StreamSource.Proofs.Text.ByteOrder
import StreamSource.Proofs.Text.FirstCut

/-! What a harness detects, whatever was done with it before: of the parsers that are
enabled and lack no parameter, the first in the order of the names whose marker starts the body
that is served at the URL of the harness. Each of them opens the URL again, and finds the
same body there. -/

namespace StreamSource

open MarkerParser (givenUrl? servedBody?)

/-- The first of the protocols, in the order of the bytes of their names, that has the scheme
of a URL. -/
structure FirstServing (url : String) (ps : List MemoryProtocol) (p : MemoryProtocol) : Prop where
  mem : p ∈ ps
  serves : ∃ s ∈ p.schemes, Url.HasScheme url s
  first : ∀ q ∈ ps, (∃ s ∈ q.schemes, Url.HasScheme url s) → q ≠ p →
    Text.utf8 p.name < Text.utf8 q.name

/-- If all have the same parameters, the first protocol to serve a URL is the first that has its
scheme, unless the parameters make them refuse. -/
theorem find?_serves_eq_some_iff {ps : List MemoryProtocol} {params : Parameters}
    (hparams : ∀ p ∈ ps, p.parameters = params) (hps : ps.Pairwise fun p q => p.name < q.name)
    {url : String} {p : MemoryProtocol} :
    ps.find? (MemoryProtocol.serves url) = some p ↔
      FirstServing url ps p ∧ params.booleanD Names.memoryFailOpen false = false := by
  have hserves : ∀ q ∈ ps, (q.serves url = true ↔
      (∃ s ∈ q.schemes, Url.HasScheme url s) ∧
        params.booleanD Names.memoryFailOpen false = false) := by
    intro q hq
    rw [MemoryProtocol.serves, Bool.and_eq_true, MemoryProtocol.refusesToOpen, hparams q hq,
      Bool.not_eq_true', ← Url.hasScheme_iff]
    rfl
  rw [find?_eq_some_iff_least (fun _ _ => String.lt_asymm) hps]
  constructor
  · rintro ⟨hmem, hp, hleast⟩
    obtain ⟨hscheme, hopens⟩ := (hserves p hmem).1 hp
    refine ⟨⟨hmem, hscheme, fun q hq hscheme hne => ?_⟩, hopens⟩
    exact Text.lt_iff_utf8_lt.1 (hleast q hq ((hserves q hq).2 ⟨hscheme, hopens⟩) hne)
  · rintro ⟨hp, hopens⟩
    refine ⟨hp.mem, (hserves p hp.mem).2 ⟨hp.serves, hopens⟩, fun q hq hserved hne => ?_⟩
    exact Text.lt_iff_utf8_lt.2 (hp.first q hq ((hserves q hq).1 hserved).1 hne)

namespace Harness

/-- The parsers that ought to recognise the stream: they are registered and not disabled, no
parameter that they require is missing, and their marker starts the body of the first
protocol that serves the URL. -/
structure Recognizes (d : HarnessDraft) (h : Harness) (name : String) : Prop where
  entry : ∃ e ∈ h.registry.list, e.manifest.name = name ∧ e.manifest.kind = .parser ∧
    e.status ≠ .disabled ∧ ∀ n ∈ e.manifest.requiredParameters, h.parameters.contains n = true
  marker : ∃ m url p, d.plugin? name = some (.parser m) ∧ givenUrl? h.parameters = some url ∧
    FirstServing url h.hoster.protocols p ∧ m.marker <+: p.body
  opens : h.parameters.booleanD Names.memoryFailOpen false = false

variable {d : HarnessDraft} {h : Harness}

theorem servedBody?_eq_some_iff (hb : d.build = .ok h) {body : Bytes} :
    servedBody? h.parameters h.hoster = some body ↔
      ∃ url p, givenUrl? h.parameters = some url ∧ FirstServing url h.hoster.protocols p ∧
        h.parameters.booleanD Names.memoryFailOpen false = false ∧ p.body = body := by
  have hbuilt : ∀ p ∈ h.hoster.protocols, p.reset = p ∧ p.parameters = h.parameters := by
    intro p hp
    obtain ⟨m, -, -, -, rfl⟩ := (HarnessDraft.mem_protocols_of_build hb).1 hp
    exact ⟨rfl, rfl⟩
  have horiginals : h.hoster.originals = h.hoster.protocols :=
    (List.map_congr_left fun p hp => (hbuilt p hp).1).trans (List.map_id' _)
  have hfind (url : String) (p : MemoryProtocol) :
      h.hoster.protocols.find? (MemoryProtocol.serves url) = some p ↔
        FirstServing url h.hoster.protocols p ∧
          h.parameters.booleanD Names.memoryFailOpen false = false :=
    find?_serves_eq_some_iff (fun p hp => (hbuilt p hp).2)
      (HarnessDraft.pairwise_protocols_of_build hb)
  rw [servedBody?, horiginals, Option.bind_eq_some_iff]
  constructor
  · rintro ⟨url, hurl, hbody⟩
    obtain ⟨p, hp, hbody⟩ := Option.map_eq_some_iff.1 hbody
    obtain ⟨hfirst, hopens⟩ := (hfind url p).1 hp
    exact ⟨url, p, hurl, hfirst, hopens, hbody⟩
  · rintro ⟨url, p, hurl, hfirst, hopens, hbody⟩
    exact ⟨url, hurl, Option.map_eq_some_iff.2 ⟨p, (hfind url p).2 ⟨hfirst, hopens⟩, hbody⟩⟩

/-- For a parser that the settings leave enabled, what is left to ask of it. -/
theorem recognizes_iff (hb : d.build = .ok h) {m : MarkerPlugin}
    (hm : d.plugin? m.name = some (.parser m)) (hon : m.name ∉ d.settings.plugins.disabled) :
    Recognizes d h m.name ↔ (∀ n ∈ m.required, h.parameters.contains n = true) ∧
      ∃ body, servedBody? h.parameters h.hoster = some body ∧ m.marker <+: body := by
  constructor
  · rintro ⟨⟨e, he, hname, -, -, hrequired⟩, ⟨m', url, p, hm', hurl, hp, hmarker⟩, hopens⟩
    obtain ⟨q, hq, heq⟩ := (HarnessDraft.mem_list_of_build hb).1 he
    rw [hname, hm] at hq
    rw [hm] at hm'
    cases hq
    cases hm'
    rw [heq] at hrequired
    exact ⟨hrequired, p.body,
      (servedBody?_eq_some_iff hb).2 ⟨url, p, hurl, hp, hopens, rfl⟩, hmarker⟩
  · rintro ⟨hrequired, body, hbody, hmarker⟩
    obtain ⟨url, p, hurl, hp, hopens, rfl⟩ := (servedBody?_eq_some_iff hb).1 hbody
    have he := (HarnessDraft.mem_candidates_of_build hb).2 ⟨.parser m, hm, hon, rfl, rfl⟩
    obtain ⟨hmem, hstatus, hkind, -⟩ := Registry.mem_candidates_iff.1 he
    refine ⟨⟨_, hmem, rfl, hkind, ?_, hrequired⟩, ⟨m, url, p, hm, hurl, hp, hmarker⟩, hopens⟩
    rw [hstatus]
    exact fun h => by cases h

/-- Only candidates recognise the stream. -/
theorem exists_candidate_of_recognizes (hb : d.build = .ok h) {name : String}
    (hr : Recognizes d h name) : ∃ e ∈ h.registry.candidates .parser, e.manifest.name = name := by
  obtain ⟨e, he, hname, hkind, hstatus, -⟩ := hr.entry
  obtain ⟨q, -, heq⟩ := (HarnessDraft.mem_list_of_build hb).1 he
  refine ⟨e, Registry.mem_candidates_iff.2 ⟨he, ?_, hkind, by rw [heq]; rfl⟩, hname⟩
  rw [heq] at hstatus ⊢
  exact HarnessDraft.status_eq_enabled_iff.2 fun hoff => hstatus (if_pos hoff)

/-- A parser that the settings leave enabled is built unless it lacks a parameter. -/
theorem createParser_of_build (hb : d.build = .ok h) {m : MarkerPlugin}
    (hm : (HarnessPlugin.parser m).entry .enabled ∈ h.registry.candidates .parser) :
    h.registry.createParser m.name h.parameters =
      (h.parameters.require m.required).bind fun _ =>
        MarkerParser.create m.name m.marker h.parameters := by
  obtain ⟨create, hfactory, hcreate⟩ :=
    (HarnessDraft.wellFormed_of_build hb).createParser_eq hm h.parameters
  cases hfactory
  exact hcreate

/-- The states of the hoster in which nothing has changed but what was opened. -/
def Unchanged (h : Harness) (hoster : Hoster MemoryProtocol) : Prop :=
  hoster.originals = h.hoster.originals

open Classical in
theorem steady_of_build (hb : d.build = .ok h) {e : PluginEntry MemoryProtocol}
    (he : e ∈ h.registry.candidates .parser) :
    Registry.Steady h.registry h.parameters h.Unchanged (decide (Recognizes d h e.manifest.name))
      e := by
  obtain ⟨q, hq, hon, hkind, rfl⟩ := (HarnessDraft.mem_candidates_of_build hb).1 he
  cases q with
  | protocol m => cases hkind
  | parser m =>
    have hrecognizes := recognizes_iff hb hq hon
    have hcreate := createParser_of_build hb he
    cases hrequire : h.parameters.require m.required with
    | error err =>
      obtain ⟨n, rfl⟩ := Parameters.require_eq_error hrequire
      rw [hrequire] at hcreate
      refine .lacks n hcreate (decide_eq_false fun hr => ?_)
      have hok := Parameters.require_eq_ok_iff (u := ()).2 (hrecognizes.1 hr).1
      rw [hrequire] at hok
      cases hok
    | ok u =>
      rw [hrequire] at hcreate
      refine .built _ hcreate rfl fun hoster hunchanged => ⟨?_, ?_⟩
      · exact (MarkerParser.originals_parse _ hoster).trans hunchanged
      · have hserved : servedBody? h.parameters hoster = servedBody? h.parameters h.hoster := by
          rw [servedBody?, servedBody?, show hoster.originals = _ from hunchanged]
        refine MarkerParser.exists_recognized_iff.trans ?_
        rw [decide_eq_true_iff]
        refine Iff.trans ?_ hrecognizes.symm
        rw [hserved, and_iff_right (Parameters.require_eq_ok_iff.1 hrequire)]

/-! ### Steps -/

/-- The harness after a run. -/
def after (h : Harness) (steps : List Step) : Harness := steps.foldl (fun h s => (h.step s).2) h

theorem step_detect (h : Harness) :
    h.step .detect =
      match h.registry.detect h.parameters h.hoster with
      | (.ok found, hoster) => (.name? (found.map (·.name)), { h with hoster := hoster })
      | (.error e, hoster) => (.failed e, { h with hoster := hoster }) := by
  unfold step Assembly.detect
  obtain ⟨r, hoster⟩ := h.registry.detect h.parameters h.hoster
  cases r <;> rfl

theorem step_parse (h : Harness) (name : String) :
    h.step (.parse name) =
      match h.registry.createParser name h.parameters with
      | .error e => (.failed e, h)
      | .ok p =>
        (.parsed p.name p.version (p.parse h.hoster).1,
          { h with hoster := (p.parse h.hoster).2 }) := by
  rw [step, Assembly.parse]
  cases h.registry.createParser name h.parameters <;> rfl

/-- What a harness has in common with the one that it was built as. -/
structure Continues (h₀ h : Harness) : Prop where
  registry : h.registry = h₀.registry
  parameters : h.parameters = h₀.parameters
  unchanged : h₀.Unchanged h.hoster

variable {h₀ : Harness}

open Classical in
/-- A detection ends without an error, with the first candidate that recognises the stream. -/
theorem Continues.detect (hb : d.build = .ok h₀) (hc : Continues h₀ h) :
    ∃ found hoster, h.registry.detect h.parameters h.hoster = (.ok found, hoster) ∧
      h₀.Unchanged hoster ∧ found.map (·.name) =
        ((h₀.registry.candidates .parser).find? fun e => Recognizes d h₀ e.manifest.name).map
          (·.manifest.name) := by
  rw [hc.registry, hc.parameters, Registry.detect]
  obtain ⟨hunchanged, found, hfound, hname⟩ :=
    Registry.detectAmong_of_steady (fun e he => steady_of_build hb he) hc.unchanged
  exact ⟨found, _, Prod.ext hfound rfl, hunchanged, hname⟩

theorem Continues.parse (hb : d.build = .ok h₀) (hc : Continues h₀ h) {name : String}
    {p : StreamParser (Hoster MemoryProtocol)}
    (hp : h.registry.createParser name h.parameters = .ok p) :
    h₀.Unchanged (p.parse h.hoster).2 := by
  rw [hc.registry, hc.parameters] at hp
  obtain ⟨e, he, rfl⟩ :=
    (HarnessDraft.wellFormed_of_build hb).exists_candidate_of_createParser hp
  cases steady_of_build hb he with
  | lacks n hlacks =>
    rw [hp] at hlacks
    cases hlacks
  | built q hq hname hparse =>
    rw [hp] at hq
    cases hq
    exact (hparse h.hoster hc.unchanged).1

theorem Continues.step (hb : d.build = .ok h₀) (hc : Continues h₀ h) (s : Step) :
    Continues h₀ (h.step s).2 := by
  cases s with
  | stream s => exact ⟨hc.registry, hc.parameters, (h.hoster.originals_step s).trans hc.unchanged⟩
  | detect =>
    obtain ⟨found, hoster, hdetect, hunchanged, -⟩ := hc.detect hb
    rw [step_detect, hdetect]
    exact ⟨hc.registry, hc.parameters, hunchanged⟩
  | parse name =>
    rw [step_parse]
    cases hp : h.registry.createParser name h.parameters with
    | error e => exact hc
    | ok p => exact ⟨hc.registry, hc.parameters, hc.parse hb hp⟩

theorem Continues.after (hb : d.build = .ok h₀) (hc : Continues h₀ h) (steps : List Step) :
    Continues h₀ (h.after steps) := by
  induction steps generalizing h with
  | nil => exact hc
  | cons s steps ih => exact ih (hc.step hb s)

theorem continues_after (hb : d.build = .ok h) (steps : List Step) :
    Continues h (h.after steps) :=
  Continues.after hb ⟨rfl, rfl, rfl⟩ steps

open Classical in
/-- The first candidate that recognises the stream is that of the least name. -/
theorem find?_recognizes_eq_some_iff (hb : d.build = .ok h) {name : String} :
    ((h.registry.candidates .parser).find? fun e => Recognizes d h e.manifest.name).map
        (·.manifest.name) = some name ↔
      Recognizes d h name ∧
        ∀ other, Recognizes d h other → other ≠ name → Text.utf8 name < Text.utf8 other := by
  have hwell := HarnessDraft.wellFormed_of_build hb
  have hleast (e : PluginEntry MemoryProtocol) :=
    find?_eq_some_iff_least (fun _ _ => String.lt_asymm) (hwell.pairwise_candidates .parser)
      (P := fun e => decide (Recognizes d h e.manifest.name)) (a := e)
  simp only [decide_eq_true_eq] at hleast
  rw [Option.map_eq_some_iff]
  constructor
  · rintro ⟨e, he, rfl⟩
    obtain ⟨hmem, hr, hlt⟩ := (hleast e).1 he
    refine ⟨hr, fun other hother hne => ?_⟩
    obtain ⟨e', he', rfl⟩ := exists_candidate_of_recognizes hb hother
    exact Text.lt_iff_utf8_lt.1 (hlt e' he' hother fun heq => hne (heq ▸ rfl))
  · rintro ⟨hr, hlt⟩
    obtain ⟨e, he, rfl⟩ := exists_candidate_of_recognizes hb hr
    refine ⟨e, (hleast e).2 ⟨he, hr, fun e' he' hr' hne => ?_⟩, rfl⟩
    refine Text.lt_iff_utf8_lt.2 (hlt _ hr' fun hname => hne ?_)
    have hget := hwell.get?_of_mem (Registry.mem_candidates_iff.1 he).1
    have hget' := hwell.get?_of_mem (Registry.mem_candidates_iff.1 he').1
    rw [hname, hget] at hget'
    exact (Option.some.inj hget').symm

/-- Whatever steps were made before, a harness that was built detects without an error the
parser of the least name, in the order of the bytes, among those that ought to recognise the
stream, and none if there are none. -/
theorem detect_least_recognizing (hb : d.build = .ok h) (steps : List Step) :
    ∃ found : Option String, ((h.after steps).step .detect).1 = .name? found ∧
      (∀ name, found = some name ↔ Recognizes d h name ∧
        ∀ other, Recognizes d h other → other ≠ name → Text.utf8 name < Text.utf8 other) ∧
      (found = none ↔ ∀ name, ¬ Recognizes d h name) := by
  classical
  have hc : Continues h (h.after steps) := Continues.after hb ⟨rfl, rfl, rfl⟩ steps
  obtain ⟨found, hoster, hdetect, -, hname⟩ := hc.detect hb
  refine ⟨found.map (·.name), ?_, fun name => ?_, ?_⟩
  · rw [step_detect, hdetect]
  · rw [hname]
    exact find?_recognizes_eq_some_iff hb
  · rw [hname, Option.map_eq_none_iff, List.find?_eq_none]
    constructor
    · intro hnone name hr
      obtain ⟨e, he, rfl⟩ := exists_candidate_of_recognizes hb hr
      exact hnone e he (decide_eq_true hr)
    · intro hnone e he hr
      exact hnone _ (of_decide_eq_true hr)

/-- Of the parsers that come before `flv` one is disabled and one lacks a parameter, and the
scheme is written in another letter case. -/
def flvDraft : HarnessDraft where
  settings := { plugins := { disabled := ["any"] } }
  overrides := .ofPairs [(Names.url, .text "MEM://stream")]
  plugins := [.parser { name := "zip", marker := [70] },
    .parser { name := "flv", marker := [70, 76] }, .parser { name := "any" },
    .parser { name := "box", required := ["Key"] },
    .protocol { name := "memory", schemes := ["mem"], body := [70, 76, 86] }]

/-- The same plugins where opening is to fail. -/
def refusingDraft : HarnessDraft :=
  { flvDraft with
    overrides := .ofPairs [(Names.url, .text "MEM://stream"), ("MemoryFailOpen", .text " Yes ")] }

/-- `flv` is detected, and where opening fails, nothing is, though the same parsers are there. -/
theorem detect_flv :
    (∃ h, flvDraft.build = .ok h ∧ Recognizes flvDraft h "flv" ∧
      ((h.after [.stream (.stream (.openUrl "mem://other")), .parse "zip"]).step .detect).1 =
        .name? (some "flv")) ∧
    ∃ h, refusingDraft.build = .ok h ∧ (∀ name, ¬ Recognizes refusingDraft h name) ∧
      ((h.after [.stream (.stream (.openUrl "mem://other")), .parse "zip"]).step .detect).1 =
        .name? none := by
  constructor
  · obtain ⟨h, hb⟩ : ∃ h, flvDraft.build = .ok h := ⟨_, rfl⟩
    obtain ⟨found, hfound, hleast, -⟩ :=
      detect_least_recognizing hb [.stream (.stream (.openUrl "mem://other")), .parse "zip"]
    have hflv : (.name? found : Registry.Answer MemoryProtocol) = .name? (some "flv") := by
      cases hb
      exact hfound.symm.trans rfl
    cases hflv
    exact ⟨h, hb, ((hleast "flv").1 rfl).1, hfound⟩
  · obtain ⟨h, hb⟩ : ∃ h, refusingDraft.build = .ok h := ⟨_, rfl⟩
    obtain ⟨found, hfound, -, hnone⟩ :=
      detect_least_recognizing hb [.stream (.stream (.openUrl "mem://other")), .parse "zip"]
    have habsent : (.name? found : Registry.Answer MemoryProtocol) = .name? none := by
      cases hb
      exact hfound.symm.trans rfl
    cases habsent
    exact ⟨h, hb, hnone.1 rfl, hfound⟩

end Harness

end StreamSource
