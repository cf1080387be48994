import Mathlib
import StreamSource.Proofs.Environment.Merged
import StreamSource.Proofs.Environment.Naming

/-! The free parameters and the environment. A variable whose path leads into the free parameters
reaches them, and what it sets there hides what the files set; the variables named after sections
and fields reach none of them. -/

namespace StreamSource

namespace Environment

open Setting (overlay? overlayEntries)

/-- Whether the path of a variable leads to what stands under a name at the top, or into it. -/
def Reaches (v name : String) : Prop := ∃ path, pathOf? v = some (name :: path)

variable {files : List (Except LoadFault Layer)} {vars : List (String × String)} {s : Settings}

/-- A variable named after a section and a field does not reach the free parameters. -/
theorem Names.not_reaches_parameters {name : String} {place : String × String}
    (h : Names name place) : ¬ Reaches name "parameters" := by
  rintro ⟨path, hpath⟩
  rw [h.pathOf?_eq] at hpath
  have hsection : place.1 = "parameters" := (List.cons.inj (Option.some.inj hpath)).1
  exact absurd h.mem_sections (hsection ▸ by decide)

theorem get?_layerOf_eq_none {v name : String} (h : ¬ Reaches v name) (value : String) :
    Entry.get? (layerOf v value) name = none := by
  unfold layerOf
  cases hpath : pathOf? v with
  | none => rfl
  | some path =>
    cases path with
    | nil => exact absurd rfl (pathOf?_ne_nil hpath)
    | cons k ks =>
      have hne : k ≠ name := by
        rintro rfl
        exact h ⟨ks, hpath⟩
      change Entry.get? [(k, _)] name = none
      rw [Entry.get?_cons, if_neg hne]
      rfl

/-- Variables that do not reach a name leave nothing there. -/
theorem get?_layer_eq_none {name : String} (h : ∀ v ∈ vars, ¬ Reaches v.1 name) :
    Entry.get? (layer vars) name = none := by
  induction vars using List.reverseRecOn with
  | nil => rfl
  | append_singleton vars v ih =>
    have hv := h v (List.mem_append_right vars (List.mem_singleton.2 rfl))
    rw [layer_concat,
      Setting.get?_overlayEntries (Entry.nodup_of_ascending (ordered_layerOf v.1 v.2).names),
      get?_layerOf_eq_none hv, ih fun w hw => h w (List.mem_append_left [v] hw)]
    rfl

/-- What the files have under a name stays if no variable reaches it. -/
theorem get?_merged_of_not_reaches {name : String} (h : ∀ v ∈ vars, ¬ Reaches v.1 name) :
    Entry.get? (merged files vars) name = Entry.get? (below files) name := by
  rw [get?_merged, get?_layer_eq_none h]
  rfl

/-- In what was loaded, the environment has no free parameters or a table of them. -/
theorem tableAt_parameters_layer (h : load files vars = .ok s) :
    (layer vars).TableAt "parameters" := by
  intro v hv
  by_contra hno
  have hget : Entry.get? (merged files vars) "parameters" = _ := get?_merged "parameters"
  rw [hv, Option.map_some, Option.some_or,
    Setting.overlay?_of_ne_table fun o es heq => hno ⟨o, es, heq⟩] at hget
  exact hno (Settings.tableAt_parameters (faultless_merged h) v hget)

/-- In what was loaded, a free parameter of the environment hides that of the files. -/
theorem leaf?_parameters_merged (h : load files vars = .ok s) (n : String) :
    (merged files vars).leaf? "parameters" n =
      ((layer vars).leaf? "parameters" n).or ((below files).leaf? "parameters" n) := by
  have hleaf : (merged files vars).leaf? "parameters" n = _ :=
    Layer.leaf?_overlay (below files) (ordered_layer vars) (tableAt_parameters_layer h) n
  cases hv : (layer vars).leaf? "parameters" n with
  | none =>
    rw [hleaf, hv]
    rfl
  | some v =>
    rw [hv, Option.map_some, Option.some_or] at hleaf
    have hfits := Settings.fits_of_leaf? (faultless_merged h) hleaf
    rw [hleaf, Setting.overlay?_eq_self hfits.ne_table]
    rfl

end Environment

namespace Surroundings

variable {s : Surroundings} {settings : Settings}

theorem ordered_below (s : Surroundings) : (Environment.below s.fileLayers).Ordered := by
  refine Layer.ordered_stack fun l hl => ?_
  obtain ⟨x, hx, hl⟩ := List.mem_filterMap.1 hl
  have hok : x = .ok l := by
    cases x with
    | ok l' => exact congrArg Except.ok (Option.some.inj hl)
    | error e => cases hl
  exact s.ordered_of_mem_layers (List.mem_append_left _ (hok ▸ hx))

/-- A free parameter is what the environment sets, or else what the files set. So the free
parameters are those of the files alone if no variable reaches them. -/
theorem parameters_of_variables (h : Settings.ofLayers s.layers = .ok settings) :
    (∀ n, settings.parameters.get? n =
      (((Environment.layer s.environment).leaf? "parameters" n).or
        ((Environment.below s.fileLayers).leaf? "parameters" n)).bind fun v =>
          v.parameter.toOption) ∧
    ((∀ v ∈ s.environment, ¬ Environment.Reaches v.1 "parameters") →
      ∀ settings', Settings.ofLayers { s with environment := [] }.layers = .ok settings' →
        settings.parameters = settings'.parameters) := by
  have hload : Environment.load s.fileLayers s.environment = .ok settings := h
  constructor
  · intro n
    have hordered : (Environment.merged s.fileLayers s.environment).Ordered :=
      s.ordered_below.overlay (Environment.ordered_layer s.environment).keys
    have hget := Settings.get?_parameters_inSections hordered n
    rw [Environment.parameters_of_load hload]
    exact hget.trans (by rw [Environment.leaf?_parameters_merged hload])
  · intro hnot settings' h'
    have hload' : Environment.load s.fileLayers [] = .ok settings' := h'
    rw [Environment.parameters_of_load hload, Environment.parameters_of_load hload',
      Layer.entriesIn, Layer.entriesIn, Environment.get?_merged_of_not_reaches hnot,
      Environment.get?_merged_of_not_reaches fun _ hv => absurd hv List.not_mem_nil]

/-! ### A file with a free parameter -/

/-- A directory with a file that sets a free parameter. -/
def oneParameter (environment : List (String × String)) : Surroundings where
  files := [(⟨["work", fileName]⟩, "[parameters]\nA = 'a'\n")]
  workingDirectory := ⟨["work"]⟩
  userDirectory := none
  environment

theorem fileLayers_oneParameter : ∃ o, ∀ environment, (oneParameter environment).fileLayers =
    [.ok [], .ok [], .ok [("parameters", .table o [("A", .scalar o (.text "a"))])]] := by
  have hread : (Toml.read? "[parameters]\nA = 'a'\n").bind Toml.unwrapTop? =
      some [("parameters", .table [("A", .text "a")])] := by cbv
  obtain ⟨o, hlocal⟩ : ∃ o, (oneParameter []).fileLayer ((oneParameter []).nearest? fileName) =
      .ok (Setting.ofEntries o _) := exists_fileLayer_of_read? rfl rfl hread
  refine ⟨o, fun environment => ?_⟩
  change [_, _, (oneParameter []).fileLayer ((oneParameter []).nearest? fileName)] = _
  rw [hlocal]
  cbv

/-- A variable for the cookie leaves the free parameter. -/
theorem parameters_beside_cookie : ∃ settings settings',
    Settings.ofLayers (oneParameter [("URLSPLITTER_HTTP_COOKIE", "c")]).layers = .ok settings ∧
    Settings.ofLayers (oneParameter []).layers = .ok settings' ∧
    settings.http.cookie = some "c" ∧ settings.parameters = settings'.parameters := by
  obtain ⟨o, hfiles⟩ := fileLayers_oneParameter
  have hvalue : Environment.settingOf "c" = .scalar .environment (.text "c") := rfl
  have hload : Settings.ofLayers (oneParameter [("URLSPLITTER_HTTP_COOKIE", "c")]).layers =
      .ok { http := { cookie := some "c" }, parameters := .ofList [("A", .text "a")] } := by
    rw [ofLayers_layers, Environment.load, hfiles]
    change Settings.ofLayers (_ ++ [.ok (Environment.layer [_])]) = _
    rw [Environment.layer, List.map_singleton, Environment.names_cookie.layerOf_eq, hvalue]
    cbv
  have hload' : Settings.ofLayers (oneParameter []).layers =
      .ok { parameters := .ofList [("A", .text "a")] } := by
    rw [ofLayers_layers, Environment.load, hfiles]
    cbv
  have hsame := (parameters_of_variables hload).2 (fun v hv => ?_) _ hload'
  · exact ⟨_, _, hload, hload', rfl, hsame⟩
  · rcases List.mem_singleton.1 hv with rfl
    exact Environment.names_cookie.not_reaches_parameters

/-- A table in a variable changes the free parameter. -/
theorem parameter_changed_by_variable : ∃ settings settings',
    Settings.ofLayers (oneParameter [("URLSPLITTER_PARAMETERS", "\x7bA=b\x7d")]).layers =
      .ok settings ∧
    Settings.ofLayers (oneParameter []).layers = .ok settings' ∧
    settings.parameters.get? "A" = some (.text "b") ∧
    settings'.parameters.get? "A" = some (.text "a") := by
  obtain ⟨o, hfiles⟩ := fileLayers_oneParameter
  have hpath : Environment.pathOf? "URLSPLITTER_PARAMETERS" = some ["parameters"] := by
    decide +kernel
  have hvalue : Environment.settingOf "\x7bA=b\x7d" =
      .table .environment [("A", .scalar .environment (.text "b"))] := rfl
  refine ⟨{ parameters := .ofList [("A", .text "b")] },
    { parameters := .ofList [("A", .text "a")] }, ?_, ?_, rfl, rfl⟩
  · rw [ofLayers_layers, Environment.load, hfiles]
    change Settings.ofLayers (_ ++ [.ok (Environment.layer [_])]) = _
    rw [Environment.layer, List.map_singleton, Environment.layerOf, hpath, hvalue]
    cbv
  · rw [ofLayers_layers, Environment.load, hfiles]
    cbv

end Surroundings

end StreamSource
