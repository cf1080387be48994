import StreamSource.Proofs.Harness.Detection
import StreamSource.Proofs.Registry.Construction
import StreamSource.Proofs.Settings.Precedence

/-! What becomes of the names that the settings disable. A harness is built unless nothing is
registered under one of them, and the first such name is what the error is about. Once it is built,
it hosts the protocols that are left enabled and lack no parameter; and whatever is done with it
then, no plugin of a disabled name is active, detected, or built as a parser. -/

namespace StreamSource

namespace Hoster

/-- The names of the protocols do not depend on what was opened. -/
theorem names_eq_map_originals (h : Hoster MemoryProtocol) :
    h.names = h.originals.map (·.name) := by
  unfold names originals
  rw [List.map_map]
  rfl

theorem mem_names_of_activeName? {σ : Type} [Protocol σ] {h : Hoster σ} {name : String}
    (hname : h.activeName? = some name) : name ∈ h.names := by
  obtain ⟨p, hp, rfl⟩ := Option.map_eq_some_iff.1 hname
  obtain ⟨i, -, hi⟩ := Option.bind_eq_some_iff.1 hp
  exact List.mem_map_of_mem (List.mem_of_getElem? hi)

end Hoster

namespace Harness

variable {d : HarnessDraft} {h h₀ : Harness}

/-- A harness does with the names that are disabled as it ought to. -/
structure HonoursDisabled (d : HarnessDraft) (h : Harness) : Prop where
  /-- Of the overrides the last counts, and then the settings do. -/
  layered : ∀ n, h.parameters.value? n =
    ((d.overrides.items.reverse.find? fun p => p.name = n).map (·.value)).or
      ((d.settings.parameters.get? n).or (d.settings.derived? n))
  hosts_iff : ∀ p, p ∈ h.hoster.protocols ↔
    ∃ m, d.plugin? m.name = some (.protocol m) ∧ m.name ∉ d.settings.plugins.disabled ∧
      (∀ n ∈ m.required, h.parameters.contains n = true) ∧ p = m.built h.parameters
  ascending : h.hoster.names.Pairwise fun a b => Text.utf8 a < Text.utf8 b
  active : ∀ steps name, (h.after steps).hoster.activeName? = some name →
    name ∉ d.settings.plugins.disabled ∧ ∃ m, d.plugin? name = some (.protocol m)
  detected : ∀ steps name, ((h.after steps).step .detect).1 = .name? (some name) →
    name ∉ d.settings.plugins.disabled ∧ ∃ m, d.plugin? name = some (.parser m)
  /-- A parser that is disabled is not built, and to ask for it changes nothing. -/
  refused : ∀ steps name m, name ∈ d.settings.plugins.disabled →
    d.plugin? name = some (.parser m) →
      (h.after steps).registry.createParser name (h.after steps).parameters =
          .error (.configuration (.notEnabled name .disabled)) ∧
        (h.after steps).step (.parse name) =
          (.failed (.configuration (.notEnabled name .disabled)), h.after steps)

theorem Continues.names (hc : Continues h₀ h) : h.hoster.names = h₀.hoster.names := by
  rw [Hoster.names_eq_map_originals, Hoster.names_eq_map_originals,
    show h.hoster.originals = _ from hc.unchanged]

theorem plugin?_of_mem_names (hb : d.build = .ok h) {name : String}
    (hname : name ∈ h.hoster.names) :
    name ∉ d.settings.plugins.disabled ∧ ∃ m, d.plugin? name = some (.protocol m) := by
  obtain ⟨p, hp, rfl⟩ := List.mem_map.1 hname
  obtain ⟨m, hm, hon, -, rfl⟩ := (HarnessDraft.mem_protocols_of_build hb).1 hp
  exact ⟨hon, m, hm⟩

theorem plugin?_of_mem_candidates (hb : d.build = .ok h) {e : PluginEntry MemoryProtocol}
    (he : e ∈ h.registry.candidates .parser) :
    e.manifest.name ∉ d.settings.plugins.disabled ∧
      ∃ m, d.plugin? e.manifest.name = some (.parser m) := by
  obtain ⟨p, hp, hon, hkind, rfl⟩ := (HarnessDraft.mem_candidates_of_build hb).1 he
  cases p with
  | protocol m => cases hkind
  | parser m => exact ⟨hon, m, hp⟩

/-- What is detected is a candidate. -/
theorem Continues.exists_candidate_of_detect (hb : d.build = .ok h₀) (hc : Continues h₀ h)
    {name : String} (hname : (h.step .detect).1 = .name? (some name)) :
    ∃ e ∈ h₀.registry.candidates .parser, e.manifest.name = name := by
  obtain ⟨found, hoster, hdetect, -, hfound⟩ := hc.detect hb
  rw [step_detect, hdetect] at hname
  injection hname with hname
  rw [hname, eq_comm, Option.map_eq_some_iff] at hfound
  obtain ⟨e, he, heq⟩ := hfound
  exact ⟨e, List.mem_of_find?_eq_some he, heq⟩

theorem Continues.createParser_of_disabled (hb : d.build = .ok h₀) (hc : Continues h₀ h)
    {name : String} {m : MarkerPlugin} (hoff : name ∈ d.settings.plugins.disabled)
    (hm : d.plugin? name = some (.parser m)) :
    h.registry.createParser name h.parameters =
      .error (.configuration (.notEnabled name .disabled)) := by
  have hget := HarnessDraft.get?_of_build hb name
  rw [hm, Option.map_some, HarnessDraft.status, if_pos hoff] at hget
  rw [hc.registry, ← Registry.construct_eq_createParser]
  exact (HarnessDraft.wellFormed_of_build hb).construct_of_constructs
    (.notEnabled hget rfl (by simp [HarnessPlugin.entry]))

theorem honoursDisabled_of_build (hb : d.build = .ok h) : HonoursDisabled d h where
  layered n := by
    obtain ⟨r, -, rfl⟩ := HarnessDraft.build_eq_ok hb
    exact d.settings.value?_layered d.overrides n
  hosts_iff p := HarnessDraft.mem_protocols_of_build hb
  ascending :=
    List.pairwise_map.2 <|
      (HarnessDraft.pairwise_protocols_of_build hb).imp Text.lt_iff_utf8_lt.1
  active steps name hname := by
    have hmem := Hoster.mem_names_of_activeName? hname
    rw [(continues_after hb steps).names] at hmem
    exact plugin?_of_mem_names hb hmem
  detected steps name hname := by
    obtain ⟨e, he, rfl⟩ := (continues_after hb steps).exists_candidate_of_detect hb hname
    exact plugin?_of_mem_candidates hb he
  refused steps name m hoff hm := by
    have hcreate := (continues_after hb steps).createParser_of_disabled hb hoff hm
    exact ⟨hcreate, by rw [step_parse, hcreate]⟩

/-- The build fails just when nothing is registered under one of the names that are disabled, with
the first such name, and otherwise comes to a harness that honours them. -/
theorem build_fails_or_honoursDisabled (d : HarnessDraft) :
    (∀ err, d.build = .error err ↔ ∃ name,
      FirstWithout d.Registers d.settings.plugins.disabled name ∧
        err = .pluginNotFound "unknown" name) ∧
    ((∃ h, d.build = .ok h) ↔ ∀ name ∈ d.settings.plugins.disabled, d.Registers name) ∧
    ∀ h, d.build = .ok h → HonoursDisabled d h := by
  exact ⟨fun err => HarnessDraft.build_eq_error_iff, HarnessDraft.exists_build_iff,
    fun h => honoursDisabled_of_build⟩

/-- Two names are registered once for each kind, `memory` in the end as a protocol and `flv` as a
parser, and `mshs` lacks a parameter. -/
def twofold (disabled : List String) : HarnessDraft where
  settings := { plugins := { disabled := disabled } }
  overrides := .ofPairs [(Names.url, .text "mem://stream")]
  plugins := [.parser { name := "memory" },
    .protocol { name := "memory", schemes := ["mem"], body := [70, 76, 86] },
    .protocol { name := "flv", schemes := ["mem"] }, .parser { name := "flv", marker := [70] },
    .protocol { name := "file", schemes := ["mem"] },
    .protocol { name := "mshs", schemes := ["mem"], required := [Names.mshsManifest] }]

theorem honoursDisabled_twofold :
    (∃ h, (twofold ["flv", "file"]).build = .ok h ∧
      HonoursDisabled (twofold ["flv", "file"]) h ∧ h.hoster.names = ["memory"] ∧
      let opened := h.after [.stream (.stream (.openUrl "mem://stream"))]
      opened.hoster.activeName? = some "memory" ∧ (opened.step .detect).1 = .name? none ∧
        (opened.step (.parse "flv")).1 =
          .failed (.configuration (.notEnabled "flv" .disabled))) ∧
    (twofold ["flv", "none", "file"]).build = .error (.pluginNotFound "unknown" "none") := by
  obtain ⟨-, -, hhonours⟩ := build_fails_or_honoursDisabled (twofold ["flv", "file"])
  obtain ⟨hfails, -, -⟩ := build_fails_or_honoursDisabled (twofold ["flv", "none", "file"])
  obtain ⟨h, hb⟩ : ∃ h, (twofold ["flv", "file"]).build = .ok h := ⟨_, rfl⟩
  have hhonoured := hhonours h hb
  have hrefused := hhonoured.refused [.stream (.stream (.openUrl "mem://stream"))] "flv"
    { name := "flv", marker := [70] } (by decide) rfl
  refine ⟨⟨h, hb, hhonoured, ?_, ?_, ?_, congrArg Prod.fst hrefused.2⟩, ?_⟩
  · cases hb
    rfl
  · cases hb
    rfl
  · cases hb
    rfl
  · refine (hfails _).2 ⟨"none", ⟨["flv"], ["file"], rfl, fun b hb => ?_, ?_⟩, rfl⟩
    · cases List.mem_singleton.1 hb
      exact ⟨.parser { name := "flv", marker := [70] }, by simp [twofold], rfl⟩
    · simp [HarnessDraft.Registers, twofold, HarnessPlugin.manifest, MemoryPlugin.manifest,
        MarkerPlugin.manifest]

end Harness

end StreamSource
