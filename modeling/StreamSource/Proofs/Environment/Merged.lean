import StreamSource.Proofs.Settings.Source

/-! The environment over the layers of files. Whatever is loaded is read from the layer in which
the variables are laid over the files. -/

namespace StreamSource

namespace Environment

open Setting (overlay? overlayEntries)

theorem layer_concat (vars : List (String × String)) (v : String × String) :
    layer (vars ++ [v]) = overlayEntries (layer vars) (layerOf v.1 v.2) := by
  rw [layer, List.map_append, List.map_singleton, Layer.stack_concat, layer]

/-- What is loaded from the layers of files with variables over them. -/
def load (files : List (Except LoadFault Layer)) (vars : List (String × String)) :
    Except (List LoadFault) Settings :=
  Settings.ofLayers (files ++ [.ok (layer vars)])

/-- The files laid one over the other. -/
def below (files : List (Except LoadFault Layer)) : Layer :=
  Layer.stack (files.filterMap Except.toOption)

/-- The variables laid over the files. -/
def merged (files : List (Except LoadFault Layer)) (vars : List (String × String)) : Layer :=
  overlayEntries (below files) (layer vars)

variable {files : List (Except LoadFault Layer)} {vars : List (String × String)} {s : Settings}

theorem eq_ok_of_mapError {ε ε' α : Type} {x : Except ε α} {f : ε → ε'} {a : α}
    (h : x.mapError f = .ok a) : x = .ok a := by
  cases x with
  | ok b =>
    cases h
    rfl
  | error e => cases h

theorem ofLayer_merged (h : load files vars = .ok s) :
    Settings.ofLayer (merged files vars) = .ok s := by
  have hlayers : (files ++ [Except.ok (layer vars)]).filterMap Except.toOption =
      files.filterMap Except.toOption ++ [layer vars] := List.filterMap_append
  rw [load, Settings.ofLayers, Layer.stackAll, hlayers, Layer.stack_concat] at h
  split at h
  next l hstack =>
    split at hstack
    next =>
      cases hstack
      exact eq_ok_of_mapError h
    next => cases hstack
  next => cases h

theorem faultless_merged (h : load files vars = .ok s) :
    ∀ e ∈ merged files vars, Settings.entryFault? e = none :=
  ((Settings.ofLayer_eq_ok_iff_accepted s).1 (ofLayer_merged h)).1

theorem eq_ofSections (h : load files vars = .ok s) :
    s = Settings.ofSections (Settings.accepted (merged files vars)) :=
  ((Settings.ofLayer_eq_ok_iff_accepted s).1 (ofLayer_merged h)).2

/-- A field of a section that is a table has what its leaf gives, or its default. -/
theorem get_of_load (h : load files vars = .ok s) (f : Field)
    (htable : (merged files vars).TableAt f.place.1) :
    f.get s = ((f.leaf? (merged files vars)).bind f.kind.read?).getD (f.get {}) := by
  rw [eq_ofSections h, Settings.get_ofSections,
    Settings.accepted_eq_entriesIn (faultless_merged h) htable]
  rfl

theorem parameters_of_load (h : load files vars = .ok s) :
    s.parameters = Settings.parametersOf ((merged files vars).entriesIn "parameters") := by
  have hnone := faultless_merged h
  rw [← Settings.accepted_eq_entriesIn hnone (Settings.tableAt_parameters hnone)]
  exact congrArg Settings.parameters (eq_ofSections h)

theorem get?_merged (name : String) : Entry.get? (merged files vars) name =
    ((Entry.get? (layer vars) name).map (overlay? (Entry.get? (below files) name))).or
      (Entry.get? (below files) name) :=
  Setting.get?_overlayEntries (Entry.nodup_of_ascending (ordered_layer vars).names) _ name

end Environment

namespace Surroundings

/-- The layers of the system's, the user's and the directory's file. -/
def fileLayers (s : Surroundings) : List (Except LoadFault Layer) :=
  [s.fileLayer (some systemFile), s.fileLayer s.userFile?, s.fileLayer (s.nearest? fileName)]

theorem ofLayers_layers (s : Surroundings) :
    Settings.ofLayers s.layers = Environment.load s.fileLayers s.environment := rfl

end Surroundings

end StreamSource
