import Mathlib
import StreamSource.Proofs.Settings.Source

/-! What the layers of the surroundings come to. Where each layer can be read alone, so can all of
them together, and whatever the settings have in a place, they have from the highest layer that
sets it. -/

namespace StreamSource

namespace Layer

/-- The highest of some layers with a leaf in a place. -/
def highest? (ls : List Layer) (place : String × String) : Option Layer :=
  ls.reverse.find? fun l => (l.leaf? place.1 place.2).isSome

theorem findSome?_leaf?_reverse (ls : List Layer) (place : String × String) :
    (ls.reverse.findSome? fun l => l.leaf? place.1 place.2) =
      (highest? ls place).bind fun l => l.leaf? place.1 place.2 := by
  unfold highest?
  induction ls.reverse with
  | nil => rfl
  | cons l rest ih =>
    rw [List.findSome?_cons, List.find?_cons]
    cases h : l.leaf? place.1 place.2 with
    | none => exact ih
    | some v =>
      rw [Option.isSome_some, Option.bind_some]
      exact h.symm

end Layer

namespace Settings

/-- The settings have each leaf from the highest layer that sets it, as that layer alone has it. -/
structure FromHighest (ls : List Layer) (s : Settings) : Prop where
  field : ∀ (f : Field) (l : Layer), Layer.highest? ls f.place = some l →
    ∃ alone, ofLayers [.ok l] = .ok alone ∧ f.get s = f.get alone
  default : ∀ f : Field, Layer.highest? ls f.place = none → f.get s = f.get {}
  names : ∀ n, n ∈ s.parameters.names ↔ ∃ l ∈ ls, (l.leaf? "parameters" n).isSome = true
  parameter : ∀ (n : String) (l : Layer), Layer.highest? ls ("parameters", n) = some l →
    ∃ alone, ofLayers [.ok l] = .ok alone ∧ s.parameters.get? n = alone.parameters.get? n

theorem ofLayers_singleton {l : Layer} (hl : l.Readable) :
    ofLayers [.ok l] = .ok (inSections l) := by
  have hread : ofLayer l = .ok (inSections l) :=
    (ofLayer_eq_ok_iff hl.ordered hl.tabular _).2 ⟨hl.valid, rfl⟩
  exact (ofLayers_singleton_eq_ok_iff hl.ordered _).2 hread

theorem readable_of_ofLayers {l : Layer} {alone : Settings} (hordered : l.Ordered)
    (htables : l.Tabular) (h : ofLayers [.ok l] = .ok alone) : l.Readable := by
  have hread : ofLayer l = .ok alone := (ofLayers_singleton_eq_ok_iff hordered alone).1 h
  exact ⟨hordered, htables, ((ofLayer_eq_ok_iff hordered htables alone).1 hread).1⟩

theorem fromHighest_inSections {ls : List Layer} (h : ∀ l ∈ ls, l.Readable) :
    (inSections (Layer.stack ls)).FromHighest ls := by
  obtain ⟨hstack, hleaf⟩ := Layer.readable_stack h
  -- where a highest layer has the leaf, the stack has the same leaf
  have hsame {place : String × String} {l : Layer} (hl : Layer.highest? ls place = some l) :
      l.Readable ∧ (Layer.stack ls).leaf? place.1 place.2 = l.leaf? place.1 place.2 := by
    refine ⟨h l (List.mem_reverse.1 (List.mem_of_find?_eq_some hl)), ?_⟩
    rw [hleaf, Layer.findSome?_leaf?_reverse, hl, Option.bind_some]
  constructor
  · intro f l hl
    obtain ⟨hreadable, hleaf⟩ := hsame hl
    refine ⟨inSections l, ofLayers_singleton hreadable, ?_⟩
    rw [get_inSections, get_inSections, Field.leaf?, hleaf]
    rfl
  · intro f hnone
    have habsent : f.leaf? (Layer.stack ls) = none := by
      rw [Field.leaf?, hleaf, Layer.findSome?_leaf?_reverse, hnone, Option.bind_none]
    rw [get_inSections, habsent]
    rfl
  · intro n
    rw [mem_names_inSections_iff hstack, hleaf, List.findSome?_isSome_iff]
    simp only [List.mem_reverse]
  · intro n l hl
    obtain ⟨hreadable, hleaf⟩ := hsame hl
    refine ⟨inSections l, ofLayers_singleton hreadable, ?_⟩
    rw [get?_parameters_inSections hstack.ordered, hleaf,
      get?_parameters_inSections hreadable.ordered]

theorem exists_ok_of_ofLayers {x : Except LoadFault Layer} {alone : Settings}
    (h : ofLayers [x] = .ok alone) : ∃ l, x = .ok l := by
  cases x with
  | ok l => exact ⟨l, rfl⟩
  | error f => cases h

end Settings

namespace Surroundings

/-- Where every section is a table and each layer can be read alone, all layers together can be
read, and the settings have each leaf from the highest layer that sets it: from the environment,
else from the nearest file at or above the working directory, else from the file of the user, and
at last from that of the system. -/
theorem ofLayers_fromHighest (s : Surroundings) (htables : ∀ l, .ok l ∈ s.layers → l.Tabular)
    (halone : ∀ x ∈ s.layers, ∃ alone, Settings.ofLayers [x] = .ok alone) :
    ∃ (system user nearest : Layer) (settings : Settings),
      s.fileLayer (some systemFile) = .ok system ∧ s.fileLayer s.userFile? = .ok user ∧
      s.fileLayer (s.nearest? fileName) = .ok nearest ∧
      Settings.ofLayers s.layers = .ok settings ∧
      settings.FromHighest [system, user, nearest, Environment.layer s.environment] := by
  have hreadable {x : Except LoadFault Layer} (hx : x ∈ s.layers) :
      ∃ l, x = .ok l ∧ l.Readable := by
    obtain ⟨alone, h⟩ := halone x hx
    obtain ⟨l, rfl⟩ := Settings.exists_ok_of_ofLayers h
    exact ⟨l, rfl, Settings.readable_of_ofLayers (s.ordered_of_mem_layers hx) (htables l hx) h⟩
  obtain ⟨system, hsystem, hsystemReadable⟩ :=
    hreadable (x := s.fileLayer (some systemFile)) (by simp [layers])
  obtain ⟨user, huser, huserReadable⟩ := hreadable (x := s.fileLayer s.userFile?) (by simp [layers])
  obtain ⟨nearest, hnearest, hnearestReadable⟩ :=
    hreadable (x := s.fileLayer (s.nearest? fileName)) (by simp [layers])
  have hvariables : (Environment.layer s.environment).Readable := by
    obtain ⟨l, hl, hreadable⟩ :=
      hreadable (x := .ok (Environment.layer s.environment)) (by simp [layers])
    cases hl
    exact hreadable
  have hlayers : s.layers =
      [system, user, nearest, Environment.layer s.environment].map .ok := by
    rw [layers, hsystem, huser, hnearest]
    rfl
  have hall : ∀ l ∈ [system, user, nearest, Environment.layer s.environment], l.Readable := by
    simp [hsystemReadable, huserReadable, hnearestReadable, hvariables]
  refine ⟨system, user, nearest, _, hsystem, huser, hnearest, ?_,
    Settings.fromHighest_inSections hall⟩
  rw [hlayers, Settings.ofLayers_of_readable hall]

/-- A user with a cookie, a referer and a version, a directory with another cookie and another
referer, and a variable with a third cookie. -/
def home : Surroundings where
  files :=
    [(⟨["home", "urlsplitter", fileName]⟩,
        "http.cookie = 'user'\nhttp.referer = 'far'\nhttp.version = 11\n"),
      (⟨["work", fileName]⟩,
        "http.cookie = 12\nhttp.referer = 'near'\nplugins.disabled = ['zip']\n")]
  workingDirectory := ⟨["work", "deep"]⟩
  userDirectory := some ⟨["home"]⟩
  environment := [("URLSPLITTER_HTTP_COOKIE", "env"), ("SHELL", "sh")]

def userLayer (o : Origin) : Layer :=
  [("http", .table o [("cookie", .scalar o (.text "user")), ("referer", .scalar o (.text "far")),
    ("version", .scalar o (.signed 11))])]

def nearestLayer (o : Origin) : Layer :=
  [("http", .table o [("cookie", .scalar o (.signed 12)), ("referer", .scalar o (.text "near"))]),
    ("plugins", .table o [("disabled", .array o [.scalar o (.text "zip")])])]

def variableLayer : Layer :=
  [("http", .table .environment [("cookie", .scalar .environment (.text "env"))])]

theorem ofLayers_userLayer (o : Origin) : Settings.ofLayers [.ok (userLayer o)] =
    .ok { http := { cookie := some "user", referer := some "far", version := some "11" } } := by
  cbv

theorem ofLayers_nearestLayer (o : Origin) : Settings.ofLayers [.ok (nearestLayer o)] =
    .ok { http := { cookie := some "12", referer := some "near" },
          plugins := { disabled := ["zip"] } } := by cbv

theorem ofLayers_variableLayer : Settings.ofLayers [.ok variableLayer] =
    .ok { http := { cookie := some "env" } } := by cbv

theorem fileLayer_systemFile_home : home.fileLayer (some systemFile) = .ok [] := by
  have habsent : home.content? systemFile = none := rfl
  rw [fileLayer, Option.bind_some, habsent, Option.map_none]

theorem fileLayer_userFile?_home : ∃ o, home.fileLayer home.userFile? = .ok (userLayer o) := by
  have hread : (Toml.read? "http.cookie = 'user'\nhttp.referer = 'far'\nhttp.version = 11\n").bind
      Toml.unwrapTop? = some [("http", .table [("cookie", .text "user"), ("referer", .text "far"),
        ("version", .integer 11)])] := by cbv
  obtain ⟨o, huser⟩ : ∃ o, home.fileLayer home.userFile? = .ok (Setting.ofEntries o _) :=
    exists_fileLayer_of_read? rfl rfl hread
  refine ⟨o, huser.trans ?_⟩
  cbv

theorem fileLayer_nearest?_home :
    ∃ o, home.fileLayer (home.nearest? fileName) = .ok (nearestLayer o) := by
  have hread : (Toml.read?
      "http.cookie = 12\nhttp.referer = 'near'\nplugins.disabled = ['zip']\n").bind
      Toml.unwrapTop? = some [("http", .table [("cookie", .integer 12), ("referer", .text "near")]),
        ("plugins", .table [("disabled", .array [.text "zip"])])] := by cbv
  obtain ⟨o, hnearest⟩ : ∃ o, home.fileLayer (home.nearest? fileName) =
      .ok (Setting.ofEntries o _) := exists_fileLayer_of_read? rfl rfl hread
  refine ⟨o, hnearest.trans ?_⟩
  cbv

/-- The variable wins, then the directory, then the user. -/
theorem ofLayers_home : ∃ settings, Settings.ofLayers home.layers = .ok settings ∧
    settings.http.cookie = some "env" ∧ settings.http.referer = some "near" ∧
    settings.http.version = some "11" ∧ settings.plugins.disabled = ["zip"] := by
  obtain ⟨o, huser⟩ := fileLayer_userFile?_home
  obtain ⟨o', hnearest⟩ := fileLayer_nearest?_home
  have hvariables : Environment.layer home.environment = variableLayer := rfl
  have hlayers : home.layers =
      [.ok [], .ok (userLayer o), .ok (nearestLayer o'), .ok variableLayer] := by
    rw [layers, fileLayer_systemFile_home, huser, hnearest, hvariables]
  have htables : ∀ l, .ok l ∈ home.layers → l.Tabular := by
    intro l hl
    simp only [hlayers, List.mem_cons, List.not_mem_nil, or_false, Except.ok.injEq] at hl
    rcases hl with rfl | rfl | rfl | rfl <;>
      simp [Layer.Tabular, userLayer, nearestLayer, variableLayer]
  have halone : ∀ x ∈ home.layers, ∃ alone, Settings.ofLayers [x] = .ok alone := by
    intro x hx
    rw [hlayers] at hx
    simp only [List.mem_cons, List.not_mem_nil, or_false] at hx
    rcases hx with rfl | rfl | rfl | rfl
    exacts [⟨{}, by cbv⟩, ⟨_, ofLayers_userLayer o⟩, ⟨_, ofLayers_nearestLayer o'⟩,
      ⟨_, ofLayers_variableLayer⟩]
  obtain ⟨system, user, nearest, settings, hsystem, huser', hnearest', hok, hfrom⟩ :=
    ofLayers_fromHighest home htables halone
  cases fileLayer_systemFile_home.symm.trans hsystem
  cases huser.symm.trans huser'
  cases hnearest.symm.trans hnearest'
  rw [hvariables] at hfrom
  refine ⟨settings, hok, ?_, ?_, ?_, ?_⟩
  · obtain ⟨alone, halone, hsame⟩ := hfrom.field .cookie variableLayer rfl
    cases halone.symm.trans ofLayers_variableLayer
    exact hsame
  · obtain ⟨alone, halone, hsame⟩ := hfrom.field .referer (nearestLayer o') rfl
    cases halone.symm.trans (ofLayers_nearestLayer o')
    exact hsame
  · obtain ⟨alone, halone, hsame⟩ := hfrom.field .version (userLayer o) rfl
    cases halone.symm.trans (ofLayers_userLayer o)
    exact hsame
  · obtain ⟨alone, halone, hsame⟩ := hfrom.field .disabled (nearestLayer o') rfl
    cases halone.symm.trans (ofLayers_nearestLayer o')
    exact hsame

end Surroundings

end StreamSource
