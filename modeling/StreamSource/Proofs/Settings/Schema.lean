import Mathlib
import StreamSource.Proofs.Settings.Source
import StreamSource.Proofs.Toml.Meaning

/-! Which texts the settings are read from, and what the settings are then. The schema is put in
terms of TOML values: which values each field takes, which each free parameter, and that nothing
else may stand anywhere. It is held against what the document means, which is what is written
unless one of the two keys with a meaning of their own is below the top. -/

namespace StreamSource

namespace Toml

/-- What stands under a key of a table at the top. -/
def at? (entries : List (String × Toml)) (name key : String) : Option Toml :=
  match lookup? entries name with
  | some (.table es) => lookup? es key
  | _ => none

theorem exists_table_of_at? {entries : List (String × Toml)} {name key : String} {v : Toml}
    (h : at? entries name key = some v) :
    ∃ es, (name, .table es) ∈ entries ∧ (key, v) ∈ es := by
  unfold at? at h
  split at h
  next es hsection => exact ⟨es, Entry.mem_of_get? hsection, Entry.mem_of_get? h⟩
  next => cases h

def asText? : Toml → Option String
  | .text s => some s
  | _ => none

/-- A text, or a number or flag in its written form. -/
def asLooseText? : Toml → Option String
  | .text s => some s
  | .integer n => some (toString n.toInt)
  | .float x => some x.general
  | .boolean b => some (if b then "true" else "false")
  | _ => none

def asBoolean? : Toml → Option Bool
  | .boolean b => some b
  | _ => none

/-- An integer from 0 to 4294967295. -/
def asWord? : Toml → Option UInt32
  | .integer n =>
    if 0 ≤ n.toInt ∧ n.toInt ≤ 4294967295 then some (UInt32.ofNat n.toInt.toNat) else none
  | _ => none

def asTexts? : Toml → Option (List String)
  | .array items => items.mapM asText?
  | _ => none

def asParameter? : Toml → Option ParameterValue
  | .text s => some (.text s)
  | .integer n => some (.integer n)
  | .boolean b => some (.boolean b)
  | _ => none

end Toml

def FieldKind.ofToml? : (k : FieldKind) → Toml → Option k.Value
  | .text, v => v.asText?
  | .looseText, v => v.asLooseText?.map some
  | .boolean, v => v.asBoolean?
  | .word, v => v.asWord?
  | .texts, v => v.asTexts?

namespace Setting

theorem toOption_textsFrom (o : Origin) (i : Nat) (items : List Toml) :
    (textsFrom i (ofItems o items)).toOption = items.mapM Toml.asText? := by
  induction items generalizing i with
  | nil =>
    rw [ofItems]
    rfl
  | cons v vs ih =>
    rw [ofItems, textsFrom, List.mapM_cons]
    cases v with
    | text s =>
      rw [ofToml, text]
      change ((textsFrom (i + 1) (ofItems o vs)).map (s :: ·)).toOption = _
      rw [← ih (i + 1)]
      cases textsFrom (i + 1) (ofItems o vs) <;> rfl
    | integer | float | boolean | date | array | table =>
      rw [ofToml]
      rfl

theorem toOption_word (o : Origin) (n : Int64) :
    (word (.scalar o (.signed n.toInt))).toOption = (Toml.integer n).asWord? := by
  have hsize : UInt32.size = 4294967296 := rfl
  unfold word Toml.asWord?
  by_cases hrange : 0 ≤ n.toInt ∧ n.toInt ≤ 4294967295
  · have hword : 0 ≤ n.toInt ∧ n.toInt.toNat < UInt32.size := by omega
    simp only [if_pos hrange, if_pos hword]
    rfl
  · have hword : ¬ (0 ≤ n.toInt ∧ n.toInt.toNat < UInt32.size) := by omega
    simp only [if_neg hrange, if_neg hword]
    rfl

theorem toOption_parameter_integer (o : Origin) (n : Int64) :
    (parameter (.scalar o (.signed n.toInt))).toOption = some (.integer n) := by
  have hfits : int64? n.toInt = some (.integer n) := by
    have hrange : Int64.minValue.toInt ≤ n.toInt ∧ n.toInt ≤ Int64.maxValue.toInt :=
      ⟨Int64.minValue_le_toInt n, Int64.toInt_le n⟩
    rw [int64?, if_pos hrange, Int64.ofInt_toInt]
  have hread : ((Setting.scalar o (.signed n.toInt)).integer?).bind int64? = some (.integer n) :=
    hfits
  simp only [parameter, hread]
  rfl

end Setting

theorem FieldKind.read?_ofToml (k : FieldKind) (o : Origin) (v : Toml) :
    k.read? (Setting.ofToml o v) = k.ofToml? v := by
  cases v with
  | integer n =>
    rw [Setting.ofToml]
    cases k with
    | word => exact Setting.toOption_word o n
    | _ => rfl
  | array items =>
    rw [Setting.ofToml]
    cases k with
    | texts => exact Setting.toOption_textsFrom o 0 items
    | _ => rfl
  | text | float | boolean | date | table =>
    rw [Setting.ofToml]
    cases k <;> rfl

theorem Setting.toOption_parameter_ofToml (o : Origin) (v : Toml) :
    (Setting.ofToml o v).parameter.toOption = v.asParameter? := by
  cases v with
  | integer n =>
    rw [ofToml]
    exact toOption_parameter_integer o n
  | text | float | boolean | date | array | table =>
    rw [ofToml]
    rfl

/-! ### What the schema asks -/

namespace Toml

/-- Whether every section is a table. -/
def Tabular (entries : List (String × Toml)) : Prop :=
  ∀ e ∈ entries, e.1 ∈ Settings.keys → ∃ es, e.2 = .table es

/-- What the schema asks of a tree in which the sections are tables. -/
structure Declared (entries : List (String × Toml)) : Prop where
  names : ∀ e ∈ entries, e.1 ∈ Settings.keys
  fields : ∀ name key v, name ≠ "parameters" → at? entries name key = some v →
    ∃ f : Field, f.place = (name, key) ∧ (f.kind.ofToml? v).isSome = true
  parameters : ∀ n v, at? entries "parameters" n = some v → v.asParameter?.isSome = true

/-- It is enough that whatever stands in a section may stand there. -/
theorem declared_of_forall {entries : List (String × Toml)}
    (hnames : ∀ e ∈ entries, e.1 ∈ Settings.keys)
    (hfits : ∀ name es, (name, .table es) ∈ entries → ∀ e ∈ es,
      (name = "parameters" ∧ e.2.asParameter?.isSome = true) ∨
        ∃ f : Field, f.place = (name, e.1) ∧ (f.kind.ofToml? e.2).isSome = true) :
    Declared entries where
  names := hnames
  fields name key v hname hv := by
    obtain ⟨es, hes, hmem⟩ := exists_table_of_at? hv
    exact (hfits name es hes _ hmem).resolve_left fun h => hname h.1
  parameters n v hv := by
    obtain ⟨es, hes, hmem⟩ := exists_table_of_at? hv
    rcases hfits "parameters" es hes _ hmem with ⟨-, hread⟩ | ⟨f, hplace, -⟩
    · exact hread
    · exact absurd (congrArg Prod.fst hplace) f.place_ne_parameters

end Toml

/-- The settings say what the tree says, and nothing else. -/
structure Settings.Carries (s : Settings) (entries : List (String × Toml)) : Prop where
  given : ∀ (f : Field) (v : Toml), Toml.at? entries f.place.1 f.place.2 = some v →
    f.kind.ofToml? v = some (f.get s)
  default : ∀ f : Field, Toml.at? entries f.place.1 f.place.2 = none → f.get s = f.get {}
  names : ∀ n, n ∈ s.parameters.names ↔ (Toml.at? entries "parameters" n).isSome = true
  parameter : ∀ (n : String) (v : Toml), Toml.at? entries "parameters" n = some v →
    v.asParameter? = s.parameters.get? n

namespace Settings

open Setting (ofEntries ofToml)

variable {entries : List (String × Toml)}

theorem exists_mem_of_mem_ofEntries {o : Origin} {e : String × Setting}
    (he : e ∈ ofEntries o entries) : ∃ v, (e.1, v) ∈ entries ∧ e.2 = ofToml o v := by
  have hget := (Entry.get?_eq_some_iff (Setting.ascending_ofEntries o entries)).2 he
  rw [Setting.get?_ofEntries] at hget
  obtain ⟨v, hv, heq⟩ := Option.map_eq_some_iff.1 hget
  exact ⟨v, Entry.mem_of_get? hv, heq.symm⟩

theorem tabular_ofEntries (o : Origin) (htables : Toml.Tabular entries) :
    Layer.Tabular (ofEntries o entries) := by
  intro e he hkey
  obtain ⟨v, hmem, hv⟩ := exists_mem_of_mem_ofEntries he
  obtain ⟨es, rfl⟩ := htables _ hmem hkey
  exact ⟨o, ofEntries o es, by rw [hv, ofToml]⟩

theorem leaf?_ofEntries (o : Origin) (htables : Toml.Tabular entries) {name : String}
    (hname : name ∈ keys) (key : String) :
    Layer.leaf? (ofEntries o entries) name key = (Toml.at? entries name key).map (ofToml o) := by
  have hget := Setting.get?_ofEntries o entries name
  unfold Layer.leaf? Layer.entriesIn Toml.at?
  cases hv : Toml.lookup? entries name with
  | none =>
    rw [hget, hv]
    rfl
  | some v =>
    obtain ⟨es, rfl⟩ := htables _ (Entry.mem_of_get? hv) hname
    rw [hget, hv, Option.map_some, ofToml]
    exact Setting.get?_ofEntries o es key

/-- The schema asks the same of a tree and of its layer. -/
theorem valid_ofEntries_iff (o : Origin) (htables : Toml.Tabular entries) :
    Layer.Valid (ofEntries o entries) ↔ Toml.Declared entries := by
  constructor
  · intro h
    have hnames : ∀ e ∈ entries, e.1 ∈ keys := by
      intro e he
      obtain ⟨v, hv⟩ := Entry.exists_get?_of_mem he
      have hget := Setting.get?_ofEntries o entries e.1
      rw [Toml.lookup?_eq_get?, hv] at hget
      exact h.names _ (Entry.mem_of_get? hget)
    have hfits {name key : String} {v : Toml} (hv : Toml.at? entries name key = some v) :
        (ofToml o v).Fits name key := by
      refine h.leaves name key _ ?_
      obtain ⟨es, hmem, _⟩ := Toml.exists_table_of_at? hv
      rw [leaf?_ofEntries o htables (hnames _ hmem), hv]
      rfl
    refine ⟨hnames, fun name key v hname hv => ?_, fun n v hv => ?_⟩
    · cases hfits hv with
      | field f hplace hread =>
        rw [FieldKind.read?_ofToml] at hread
        exact ⟨f, hplace, hread⟩
      | parameter hparameters _ => exact absurd hparameters hname
    · have hread := fault?_eq_none_iff.1 (fits_parameters_iff.1 (hfits hv))
      rwa [Setting.toOption_parameter_ofToml] at hread
  · intro h
    have hnames : ∀ e ∈ ofEntries o entries, e.1 ∈ keys := by
      intro e he
      obtain ⟨v, hmem, _⟩ := exists_mem_of_mem_ofEntries he
      exact h.names _ hmem
    refine ⟨hnames, fun name key v hleaf => ?_⟩
    obtain ⟨o', es, hmem, _⟩ := Layer.exists_table_of_leaf? hleaf
    rw [leaf?_ofEntries o htables (hnames _ hmem)] at hleaf
    obtain ⟨v, hv, rfl⟩ := Option.map_eq_some_iff.1 hleaf
    by_cases hname : name = "parameters"
    · subst hname
      have hread := h.parameters key v hv
      exact .parameter rfl (Setting.toOption_parameter_ofToml o v ▸ hread)
    · obtain ⟨f, hplace, hread⟩ := h.fields name key v hname hv
      exact .field f hplace (FieldKind.read?_ofToml f.kind o v ▸ hread)

theorem carries_inSections (o : Origin) (htables : Toml.Tabular entries)
    (h : Toml.Declared entries) : (inSections (ofEntries o entries)).Carries entries := by
  have hordered := Setting.ordered_ofEntries o entries
  have hreadable : Layer.Readable (ofEntries o entries) :=
    ⟨hordered, tabular_ofEntries o htables, (valid_ofEntries_iff o htables).2 h⟩
  have hfield (f : Field) : f.leaf? (ofEntries o entries) =
      (Toml.at? entries f.place.1 f.place.2).map (ofToml o) :=
    leaf?_ofEntries o htables (place_fst_mem_keys f) f.place.2
  have hparameter (n : String) : Layer.leaf? (ofEntries o entries) "parameters" n =
      (Toml.at? entries "parameters" n).map (ofToml o) :=
    leaf?_ofEntries o htables (by decide) n
  constructor
  · intro f v hv
    obtain ⟨f', hplace, hread⟩ := h.fields _ _ v f.place_ne_parameters hv
    rw [Field.kind_eq_of_place_eq hplace] at hread
    obtain ⟨x, hx⟩ := Option.isSome_iff_exists.1 hread
    rw [get_inSections, hfield, hv, Option.map_some, Option.bind_some, FieldKind.read?_ofToml, hx]
    rfl
  · intro f hnone
    rw [get_inSections, hfield, hnone]
    rfl
  · intro n
    rw [mem_names_inSections_iff hreadable, hparameter, Option.isSome_map]
  · intro n v hv
    rw [get?_parameters_inSections hordered, hparameter, hv, Option.map_some, Option.bind_some,
      Setting.toOption_parameter_ofToml]

/-- The text is accepted exactly if the entries are as the schema asks, and what is read is what
they say. -/
structure ReadAs (content : String) (entries : List (String × Toml)) : Prop where
  accepted : (∃ s, ofText content = .ok s) ↔ Toml.Declared entries
  carries : ∀ s, ofText content = .ok s → s.Carries entries

variable {content : String} {tree : List (String × Toml)}

theorem readAs_of_unwrapTop? (htree : Toml.read? content = some tree)
    (hmeant : Toml.unwrapTop? tree = some entries) (htables : Toml.Tabular entries) :
    ReadAs content entries := by
  have hordered := Setting.ordered_ofEntries .inline entries
  have hread (s : Settings) : ofText content = .ok s ↔
      Toml.Declared entries ∧ s = inSections (ofEntries .inline entries) := by
    have hlayer : Layer.ofText .inline content = .ok (ofEntries .inline entries) := by
      simp only [Layer.ofText, htree, Option.bind_some, hmeant]
    rw [ofText, hlayer, ofLayers_singleton_eq_ok_iff hordered,
      ofLayer_eq_ok_iff hordered (tabular_ofEntries .inline htables),
      valid_ofEntries_iff .inline htables]
  constructor
  · constructor
    · rintro ⟨s, hs⟩
      exact ((hread s).1 hs).1
    · exact fun h => ⟨_, (hread _).2 ⟨h, rfl⟩⟩
  · intro s hs
    obtain ⟨h, rfl⟩ := (hread s).1 hs
    exact carries_inSections .inline htables h

/-- A text whose tree has the mark key below the top is refused. -/
theorem ofText_of_hasKey_mark (htree : Toml.read? content = some tree)
    (hmark : ∃ e ∈ tree, e.2.HasKey "___figment_value_id") :
    ofText content = .error [{ cause := .malformed }] := by
  have hnone : Toml.unwrapTop? tree = none := Toml.unwrapTop?_eq_none_iff.2 hmark
  have hlayer : Layer.ofText .inline content = .error { cause := .malformed } := by
    simp only [Layer.ofText, htree, Option.bind_some, hnone]
  rw [ofText, hlayer]
  rfl

/-- The reader of a text accepts exactly its schema, if no table below the top has one of the two
keys with a meaning of their own. With the one of them that marks, nothing is read; with the other,
the schema is asked of what the document means, which is one tree only. -/
theorem ofText_schema (htree : Toml.read? content = some tree) :
    ((∀ e ∈ tree, ¬ e.2.HasKey "___figment_value_value" ∧ ¬ e.2.HasKey "___figment_value_id") →
      Toml.Tabular tree → ReadAs content tree) ∧
    ((∃ e ∈ tree, e.2.HasKey "___figment_value_id") →
      ofText content = .error [{ cause := .malformed }]) ∧
    ((∀ e ∈ tree, ¬ e.2.HasKey "___figment_value_id") →
      ∃ meant, (∀ entries, Toml.EntriesMean tree entries ↔ entries = meant) ∧
        (Toml.Tabular meant → ReadAs content meant)) := by
  refine ⟨fun hplain htables => ?_, ofText_of_hasKey_mark htree, fun hunmarked => ?_⟩
  · obtain ⟨meant, hmeant, hmeans⟩ := Toml.exists_unwrapTop?_eq_some fun e he => (hplain e he).2
    obtain rfl : tree = meant :=
      (hmeans tree).1 (Toml.entriesMean_self fun e he => (hplain e he).1)
    exact readAs_of_unwrapTop? htree hmeant htables
  · obtain ⟨meant, hmeant, hmeans⟩ := Toml.exists_unwrapTop?_eq_some hunmarked
    exact ⟨meant, hmeans, readAs_of_unwrapTop? htree hmeant⟩

theorem read?_wrapped : Toml.read? "[http.___figment_value_value]\ncookie = 'c'\n" =
    some [("http", .table [("___figment_value_value", .table [("cookie", .text "c")])])] := by cbv

theorem read?_marked : Toml.read? "[parameters]\n___figment_value_id = 1\n" =
    some [("parameters", .table [("___figment_value_id", .integer 1)])] := by cbv

/-- A plain text is read as it is written, a wrapped section is read through, and a text with the
mark key is not read. -/
theorem ofText_cookie :
    (∃ s, ofText "http.cookie = 12\nparameters.a = true\n" = .ok s ∧
      s.http.cookie = some "12" ∧ s.http.referer = none ∧
      s.parameters.get? "a" = some (.boolean true)) ∧
    (∃ s, ofText "[http.___figment_value_value]\ncookie = 'c'\n" = .ok s ∧
      s.http.cookie = some "c") ∧
    ofText "[parameters]\n___figment_value_id = 1\n" = .error [{ cause := .malformed }] := by
  have htree : Toml.read? "http.cookie = 12\nparameters.a = true\n" =
      some [("http", .table [("cookie", .integer 12)]),
        ("parameters", .table [("a", .boolean true)])] := by cbv
  have htext (key s : String) : ¬ (Toml.text s).HasKey key := by rintro ⟨⟩
  have hinteger (key : String) (n : Int64) : ¬ (Toml.integer n).HasKey key := by rintro ⟨⟩
  have hboolean (key : String) (b : Bool) : ¬ (Toml.boolean b).HasKey key := by rintro ⟨⟩
  refine ⟨?_, ?_, (ofText_schema read?_marked).2.1
    ⟨_, List.mem_singleton_self _, .here (List.mem_singleton_self _)⟩⟩
  · obtain ⟨hloads, hcarries⟩ := (ofText_schema htree).1
      (by simp [Toml.hasKey_table_iff, hinteger, hboolean]) (by simp [Toml.Tabular])
    obtain ⟨s, hs⟩ := hloads.2 <| Toml.declared_of_forall (by simp [keys]) <| by
      intro name es hes e he
      simp only [List.mem_cons, Prod.mk.injEq, Toml.table.injEq, List.not_mem_nil, or_false] at hes
      rcases hes with ⟨rfl, rfl⟩ | ⟨rfl, rfl⟩ <;> cases List.mem_singleton.1 he
      · exact .inr ⟨.cookie, rfl, rfl⟩
      · exact .inl ⟨rfl, rfl⟩
    have hsays := hcarries s hs
    have hcookie := hsays.given .cookie _ rfl
    have ha := hsays.parameter "a" _ rfl
    exact ⟨s, hs, (Option.some.inj hcookie).symm, hsays.default .referer rfl, ha.symm⟩
  · obtain ⟨meant, hmeans, hread⟩ := (ofText_schema read?_wrapped).2.2
      (by simp [Toml.hasKey_table_iff, htext])
    obtain rfl : [("http", Toml.table [("cookie", .text "c")])] = meant :=
      (hmeans _).1 (.cons (.wrapped rfl (.table rfl (.cons (.text "c") .nil))) .nil)
    obtain ⟨hloads, hcarries⟩ := hread (by simp [Toml.Tabular])
    obtain ⟨s, hs⟩ := hloads.2 <| Toml.declared_of_forall (by simp [keys]) <| by
      intro name es hes e he
      cases List.mem_singleton.1 hes
      cases List.mem_singleton.1 he
      exact .inr ⟨.cookie, rfl, rfl⟩
    exact ⟨s, hs, (Option.some.inj ((hcarries s hs).given .cookie _ rfl)).symm⟩

/-- A key that no section has is read over if it wraps the section. -/
theorem exists_tree_wrapped :
    ∃ tree s, Toml.read? "[http.___figment_value_value]\ncookie = 'c'\n" = some tree ∧
      Toml.Tabular tree ∧ ¬ Toml.Declared tree ∧
      ofText "[http.___figment_value_value]\ncookie = 'c'\n" = .ok s := by
  have hlayer : Layer.ofText .inline "[http.___figment_value_value]\ncookie = 'c'\n" =
      .ok [("http", .table .inline [("cookie", .scalar .inline (.text "c"))])] := by
    simp only [Layer.ofText, read?_wrapped, Option.bind_some]
    cbv
  refine ⟨_, { http := { cookie := some "c" } }, read?_wrapped, by simp [Toml.Tabular],
    fun h => ?_, ?_⟩
  · obtain ⟨f, hplace, _⟩ := h.fields "http" "___figment_value_value" _ (by decide) rfl
    exact absurd hplace (by cases f <;> decide)
  · rw [ofText, hlayer]
    cbv

/-- A parameter that may stand there is refused if its name is the mark key. -/
theorem exists_tree_marked :
    ∃ tree, Toml.read? "[parameters]\n___figment_value_id = 1\n" = some tree ∧
      Toml.Tabular tree ∧ Toml.Declared tree ∧
      ∀ s, ofText "[parameters]\n___figment_value_id = 1\n" ≠ .ok s := by
  refine ⟨_, read?_marked, by simp [Toml.Tabular], Toml.declared_of_forall (by simp [keys]) ?_,
    fun s hs => ?_⟩
  · intro name es hes e he
    cases List.mem_singleton.1 hes
    cases List.mem_singleton.1 he
    exact .inl ⟨rfl, rfl⟩
  · rw [ofText_of_hasKey_mark read?_marked
      ⟨_, List.mem_singleton_self _, .here (List.mem_singleton_self _)⟩] at hs
    cases hs

/-- The trees as they are written do not decide what is read. -/
theorem ofText_wrapped_and_marked :
    (∃ tree s, Toml.read? "[http.___figment_value_value]\ncookie = 'c'\n" = some tree ∧
      Toml.Tabular tree ∧ ¬ Toml.Declared tree ∧
      ofText "[http.___figment_value_value]\ncookie = 'c'\n" = .ok s) ∧
    ∃ tree, Toml.read? "[parameters]\n___figment_value_id = 1\n" = some tree ∧
      Toml.Tabular tree ∧ Toml.Declared tree ∧
      ∀ s, ofText "[parameters]\n___figment_value_id = 1\n" ≠ .ok s :=
  ⟨exists_tree_wrapped, exists_tree_marked⟩

end Settings

end StreamSource
