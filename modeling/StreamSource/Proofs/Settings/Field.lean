import StreamSource.Proofs.NameMap
import StreamSource.Settings.Loading

/-! What a layer says of the settings, leaf by leaf. A leaf stands in a section under a key. A
layer whose sections are tables is read if it has no other section and every leaf in it is one of
the schema; then each field has what its leaf gives, or its default, and the free parameters are
what their leaves give. -/

namespace StreamSource

theorem fault?_eq_none_iff {α : Type} {x : Except LoadFault α} :
    fault? x = none ↔ x.toOption.isSome = true := by
  cases x <;> simp [fault?, Except.toOption]

/-! ### Leaves -/

/-- Whether the keys of a table ascend. -/
def Setting.KeysAscend (v : Setting) : Prop := ∀ o es, v = .table o es → Ascending es

namespace Layer

/-- The entries of a section that is a table. -/
def entriesIn (l : Layer) (name : String) : Layer :=
  match Entry.get? l name with
  | some (.table _ es) => es
  | _ => []

/-- What stands in a section under a key. -/
def leaf? (l : Layer) (name key : String) : Option Setting := Entry.get? (l.entriesIn name) key

/-- Whether every section is a table. -/
def Tabular (l : Layer) : Prop :=
  ∀ e ∈ l, e.1 ∈ Settings.keys → ∃ o es, e.2 = Setting.table o es

/-- Whether what stands under a name, if anything, is a table. -/
def TableAt (l : Layer) (name : String) : Prop :=
  ∀ v, Entry.get? l name = some v → ∃ o es, v = Setting.table o es

/-- The names of the sections ascend, and in each section the keys. -/
structure Ordered (l : Layer) : Prop where
  names : Ascending l
  keys : ∀ e ∈ l, e.2.KeysAscend

variable {l : Layer}

theorem entriesIn_of_get? {name : String} {o : Origin} {es : Layer}
    (h : Entry.get? l name = some (.table o es)) : l.entriesIn name = es := by
  rw [entriesIn, h]

theorem exists_table_of_leaf? {name key : String} {v : Setting} (h : l.leaf? name key = some v) :
    ∃ o es, (name, .table o es) ∈ l ∧ (key, v) ∈ es := by
  have hmem := Entry.mem_of_get? h
  unfold Layer.entriesIn at hmem
  split at hmem
  next o es hsection => exact ⟨o, es, Entry.mem_of_get? hsection, hmem⟩
  next => cases hmem

theorem tableAt_of_leaf? {name key : String} {v : Setting} (h : l.leaf? name key = some v) :
    l.TableAt name := by
  intro w hw
  rw [leaf?, Layer.entriesIn, hw] at h
  cases w with
  | table o es => exact ⟨o, es, rfl⟩
  | scalar | array => cases h

theorem Ordered.entriesIn (hl : l.Ordered) (name : String) : Ascending (l.entriesIn name) := by
  unfold Layer.entriesIn
  split
  next o es h => exact hl.keys _ (Entry.mem_of_get? h) o es rfl
  next => exact List.Pairwise.nil

end Layer

/-! ### Fields -/

/-- The type of the values that the settings of a kind give. -/
abbrev FieldKind.Value : FieldKind → Type
  | .text => String
  | .looseText => Option String
  | .boolean => Bool
  | .word => UInt32
  | .texts => List String

def FieldKind.read? : (k : FieldKind) → Setting → Option k.Value
  | .text, v => v.text.toOption
  | .looseText, v => v.looseText.toOption.map some
  | .boolean, v => v.boolean.toOption
  | .word, v => v.word.toOption
  | .texts, v => v.texts.toOption

theorem FieldKind.fault?_eq_none_iff (k : FieldKind) (v : Setting) :
    k.fault? v = none ↔ (k.read? v).isSome = true := by
  cases k with
  | looseText =>
    rw [read?, Option.isSome_map]
    exact StreamSource.fault?_eq_none_iff
  | text | boolean | word | texts => exact StreamSource.fault?_eq_none_iff

/-- The fields of the typed sections. -/
inductive Field
  | level
  | userAgent
  | referer
  | cookie
  | version
  | ignoreContentLength
  | openConnectionTimeout
  | openConnectionSleepTime
  | totalReopenConnectionTimeout
  | serverUserName
  | serverPassword
  | baseUrl
  | manifest
  | disabled
  deriving DecidableEq

namespace Field

/-- The section of a field and its key there. -/
def place : Field → String × String
  | .level => ("logging", "level")
  | .userAgent => ("http", "user_agent")
  | .referer => ("http", "referer")
  | .cookie => ("http", "cookie")
  | .version => ("http", "version")
  | .ignoreContentLength => ("http", "ignore_content_length")
  | .openConnectionTimeout => ("http", "open_connection_timeout_ms")
  | .openConnectionSleepTime => ("http", "open_connection_sleep_time_ms")
  | .totalReopenConnectionTimeout => ("http", "total_reopen_connection_timeout_ms")
  | .serverUserName => ("http", "server_user_name")
  | .serverPassword => ("http", "server_password")
  | .baseUrl => ("mshs", "base_url")
  | .manifest => ("mshs", "manifest")
  | .disabled => ("plugins", "disabled")

def kind : Field → FieldKind
  | .level => .text
  | .ignoreContentLength => .boolean
  | .openConnectionTimeout | .openConnectionSleepTime | .totalReopenConnectionTimeout => .word
  | .disabled => .texts
  | _ => .looseText

/-- The value that settings have in a field. -/
def get : (f : Field) → Settings → f.kind.Value
  | .level, s => s.logging.level
  | .userAgent, s => s.http.userAgent
  | .referer, s => s.http.referer
  | .cookie, s => s.http.cookie
  | .version, s => s.http.version
  | .ignoreContentLength, s => s.http.ignoreContentLength
  | .openConnectionTimeout, s => s.http.openConnectionTimeout
  | .openConnectionSleepTime, s => s.http.openConnectionSleepTime
  | .totalReopenConnectionTimeout, s => s.http.totalReopenConnectionTimeout
  | .serverUserName, s => s.http.serverUserName
  | .serverPassword, s => s.http.serverPassword
  | .baseUrl, s => s.mshs.baseUrl
  | .manifest, s => s.mshs.manifest
  | .disabled, s => s.plugins.disabled

/-- What a layer says of a field. -/
def leaf? (f : Field) (l : Layer) : Option Setting := l.leaf? f.place.1 f.place.2

theorem schema?_place (f : Field) : ∃ s, Settings.schema? f.place.1 = some s ∧
    s.kind? f.place.2 = some f.kind := by
  cases f <;> exact ⟨_, rfl, rfl⟩

theorem place_ne_parameters (f : Field) : f.place.1 ≠ "parameters" := by
  obtain ⟨s, hs, _⟩ := f.schema?_place
  intro hname
  rw [hname] at hs
  cases hs

/-- The place of a field decides its kind. -/
theorem kind_eq_of_place_eq {f f' : Field} (h : f.place = f'.place) : f.kind = f'.kind := by
  obtain ⟨s, hs, hkind⟩ := f.schema?_place
  obtain ⟨s', hs', hkind'⟩ := f'.schema?_place
  rw [h] at hs hkind
  cases hs.symm.trans hs'
  exact Option.some.inj (hkind.symm.trans hkind')

theorem exists_of_kind? {name key : String} {s : Schema} {k : FieldKind}
    (hs : Settings.schema? name = some s) (hk : s.kind? key = some k) :
    ∃ f : Field, f.place = (name, key) ∧ f.kind = k := by
  have hmem : (key, k) ∈ s.fields := Entry.mem_of_get? hk
  unfold Settings.schema? at hs
  split at hs <;> cases hs
  · rcases List.mem_singleton.1 hmem with ⟨⟩
    exact ⟨.level, rfl, rfl⟩
  · simp only [HttpSettings.schema, List.mem_cons, Prod.mk.injEq, List.not_mem_nil, or_false]
      at hmem
    rcases hmem with h | h | h | h | h | h | h | h | h | h <;> obtain ⟨rfl, rfl⟩ := h
    exacts [⟨.userAgent, rfl, rfl⟩, ⟨.referer, rfl, rfl⟩, ⟨.cookie, rfl, rfl⟩,
      ⟨.version, rfl, rfl⟩, ⟨.ignoreContentLength, rfl, rfl⟩, ⟨.openConnectionTimeout, rfl, rfl⟩,
      ⟨.openConnectionSleepTime, rfl, rfl⟩, ⟨.totalReopenConnectionTimeout, rfl, rfl⟩,
      ⟨.serverUserName, rfl, rfl⟩, ⟨.serverPassword, rfl, rfl⟩]
  · simp only [MshsSettings.schema, List.mem_cons, Prod.mk.injEq, List.not_mem_nil, or_false]
      at hmem
    rcases hmem with h | h <;> obtain ⟨rfl, rfl⟩ := h
    exacts [⟨.baseUrl, rfl, rfl⟩, ⟨.manifest, rfl, rfl⟩]
  · rcases List.mem_singleton.1 hmem with ⟨⟩
    exact ⟨.disabled, rfl, rfl⟩

end Field

/-! ### What the schema accepts -/

/-- What the schema lets stand in a section under a key. -/
inductive Setting.Fits (v : Setting) (name key : String) : Prop
  | field (f : Field) (hplace : f.place = (name, key)) (hread : (f.kind.read? v).isSome = true)
  | parameter (hname : name = "parameters") (hread : v.parameter.toOption.isSome = true)

/-- What the schema asks of a layer whose sections are tables. -/
structure Layer.Valid (l : Layer) : Prop where
  names : ∀ e ∈ l, e.1 ∈ Settings.keys
  leaves : ∀ name key v, l.leaf? name key = some v → v.Fits name key

namespace Settings

theorem mem_keys_iff {name : String} :
    name ∈ keys ↔ (schema? name).isSome = true ∨ name = "parameters" := by
  unfold schema?
  split <;> simp_all [keys]

theorem place_fst_mem_keys (f : Field) : f.place.1 ∈ keys := by
  obtain ⟨s, hs, _⟩ := f.schema?_place
  rw [mem_keys_iff, hs]
  exact .inl rfl

end Settings

namespace Schema

variable {s : Schema} {name : String}

theorem entryFault?_eq_none_iff (hs : Settings.schema? name = some s) (e : String × Setting) :
    s.entryFault? e = none ↔ e.2.Fits name e.1 := by
  -- the kind that the schema has for a field is that of the field
  have hkind {f : Field} (hf : f.place = (name, e.1)) : s.kind? e.1 = some f.kind := by
    obtain ⟨s', hs', hk⟩ := f.schema?_place
    rw [hf] at hs' hk
    rw [hs] at hs'
    cases hs'
    exact hk
  unfold entryFault?
  constructor
  · intro h
    split at h
    next => cases h
    next k hk =>
      obtain ⟨f, hplace, rfl⟩ := Field.exists_of_kind? hs hk
      have hread := (f.kind.fault?_eq_none_iff e.2).1 (Option.map_eq_none_iff.1 h)
      exact .field f hplace hread
  · intro h
    cases h with
    | field f hplace hread =>
      rw [hkind hplace]
      exact Option.map_eq_none_iff.2 ((f.kind.fault?_eq_none_iff e.2).2 hread)
    | parameter hname _ =>
      rw [hname] at hs
      cases hs

theorem findSome?_entryFault?_eq_none_iff (hs : Settings.schema? name = some s) (es : Layer) :
    es.findSome? s.entryFault? = none ↔ ∀ e ∈ es, e.2.Fits name e.1 := by
  rw [List.findSome?_eq_none_iff]
  exact forall₂_congr fun e _ => entryFault?_eq_none_iff hs e

theorem fault?_read_table (o : Origin) (es : Layer) :
    fault? (s.read (.table o es)) = es.findSome? s.entryFault? := by
  rw [read]
  cases es.findSome? s.entryFault? <;> rfl

theorem read_table_of_fits (hs : Settings.schema? name = some s) (o : Origin) {es : Layer}
    (h : ∀ e ∈ es, e.2.Fits name e.1) : s.read (.table o es) = .ok es := by
  rw [read, (findSome?_entryFault?_eq_none_iff hs es).2 h]

end Schema

namespace Settings

theorem fits_parameters_iff {v : Setting} {key : String} :
    v.Fits "parameters" key ↔ fault? v.parameter = none := by
  rw [fault?_eq_none_iff]
  constructor
  · intro h
    cases h with
    | field f hplace _ => exact absurd (congrArg Prod.fst hplace) f.place_ne_parameters
    | parameter _ hread => exact hread
  · exact .parameter rfl

theorem findSome?_parameter_eq_none_iff (es : Layer) :
    es.findSome? (fun e => (fault? e.2.parameter).map (·.beneath e.1)) = none ↔
      ∀ e ∈ es, e.2.Fits "parameters" e.1 := by
  rw [List.findSome?_eq_none_iff]
  refine forall₂_congr fun e _ => ?_
  rw [fits_parameters_iff, Option.map_eq_none_iff]

theorem fault?_parameterEntries_table (o : Origin) (es : Layer) :
    fault? (parameterEntries (.table o es)) =
      es.findSome? fun e => (fault? e.2.parameter).map (·.beneath e.1) := by
  rw [parameterEntries]
  cases es.findSome? fun e => (fault? e.2.parameter).map (·.beneath e.1) <;> rfl

theorem parameterEntries_table_of_fits (o : Origin) {es : Layer}
    (h : ∀ e ∈ es, e.2.Fits "parameters" e.1) : parameterEntries (.table o es) = .ok es := by
  rw [parameterEntries, (findSome?_parameter_eq_none_iff es).2 h]

/-- A table may stand at the top if its name is known and each entry fits there. -/
theorem entryFault?_table_eq_none_iff (name : String) (o : Origin) (es : Layer) :
    entryFault? (name, .table o es) = none ↔ name ∈ keys ∧ ∀ e ∈ es, e.2.Fits name e.1 := by
  rw [entryFault?, mem_keys_iff]
  cases hs : schema? name with
  | some s =>
    rw [Option.map_eq_none_iff, Schema.fault?_read_table,
      Schema.findSome?_entryFault?_eq_none_iff hs]
    simp
  | none =>
    by_cases hname : name = "parameters"
    · rw [hname, if_pos rfl, Option.map_eq_none_iff, fault?_parameterEntries_table,
        findSome?_parameter_eq_none_iff]
      simp
    · simp [hname]

theorem mem_keys_of_entryFault? {e : String × Setting} (h : entryFault? e = none) :
    e.1 ∈ keys := by
  rw [mem_keys_iff]
  unfold entryFault? at h
  cases hs : schema? e.1 with
  | some s => exact .inl rfl
  | none =>
    rw [hs] at h
    by_cases hname : e.1 = "parameters"
    · exact .inr hname
    · rw [if_neg hname] at h
      cases h

/-! ### Reading a layer -/

variable {l l' : Layer} {s : Settings}

/-- The settings that an accepted layer gives. -/
def inSections (l : Layer) : Settings :=
  { logging := .ofLayer (l.entriesIn "logging")
    http := .ofLayer (l.entriesIn "http")
    mshs := .ofLayer (l.entriesIn "mshs")
    plugins := .ofLayer (l.entriesIn "plugins")
    parameters := parametersOf (l.entriesIn "parameters") }

/-- The settings that given entries of the sections make. -/
def ofSections (entries : String → Layer) : Settings :=
  { logging := .ofLayer (entries "logging")
    http := .ofLayer (entries "http")
    mshs := .ofLayer (entries "mshs")
    plugins := .ofLayer (entries "plugins")
    parameters := parametersOf (entries "parameters") }

/-- A field has what its entry gives, or its default. -/
theorem get_ofSections (entries : String → Layer) (f : Field) :
    f.get (ofSections entries) =
      ((Entry.get? (entries f.place.1) f.place.2).bind f.kind.read?).getD (f.get {}) := by
  -- an optional text is absent unless its entry gives one
  have hloose (v : Option Setting) (g : Setting → Option String) :
      v.bind g = (v.bind fun v => (g v).map some).getD none := by
    cases v with
    | none => rfl
    | some v => cases h : g v <;> simp [h]
  cases f with
  | userAgent | referer | cookie | version | serverUserName | serverPassword | baseUrl | manifest =>
    exact hloose _ _
  | _ => rfl

/-- A field has what its leaf gives, or its default. -/
theorem get_inSections (f : Field) (l : Layer) :
    f.get (inSections l) = ((f.leaf? l).bind f.kind.read?).getD (f.get {}) :=
  get_ofSections l.entriesIn f

/-- The free parameters are what their leaves give. -/
theorem get?_parameters_inSections (hordered : l.Ordered) (n : String) :
    (inSections l).parameters.get? n =
      (l.leaf? "parameters" n).bind fun v => v.parameter.toOption := by
  have hnodup := Entry.nodup_of_ascending (hordered.entriesIn "parameters")
  have hgiven := hnodup.sublist (Entry.sublist_map_fst_filterMap
    (fun v : Setting => v.parameter.toOption) (l.entriesIn "parameters"))
  have hfound : (inSections l).parameters.get? n = Entry.get?
      ((l.entriesIn "parameters").filterMap fun e => e.2.parameter.toOption.map fun v => (e.1, v))
      n := NameMap.get?_ofList hgiven n
  rw [hfound, Entry.get?_filterMap (fun v : Setting => v.parameter.toOption) hnodup]
  rfl

/-- The entries that are accepted as those of a section. -/
def accepted (l : Layer) (name : String) : Layer :=
  match schema? name with
  | some s => section? l name s.read
  | none => section? l name parameterEntries

theorem accepted_congr {name : String} (h : Entry.get? l name = Entry.get? l' name) :
    accepted l name = accepted l' name := by
  have hsection (read : Setting → Except LoadFault Layer) :
      Settings.section? l name read = Settings.section? l' name read := by
    rw [section?, Layer.field?, h, section?, Layer.field?]
  unfold accepted
  cases schema? name with
  | some s => exact hsection s.read
  | none => exact hsection parameterEntries

/-- Whatever stands in its sections, a layer is read exactly if no entry has a fault. -/
theorem ofLayer_eq_ok_iff_accepted (s : Settings) :
    ofLayer l = .ok s ↔ (∀ e ∈ l, entryFault? e = none) ∧ s = ofSections (accepted l) := by
  rw [← List.findSome?_eq_none_iff]
  unfold ofLayer
  cases l.findSome? entryFault? with
  | some f => simp
  | none =>
    simp only [Except.ok.injEq, true_and]
    exact eq_comm

section Faultless

variable (h : ∀ e ∈ l, entryFault? e = none)
include h

theorem fits_of_leaf? {name key : String} {v : Setting} (hleaf : l.leaf? name key = some v) :
    v.Fits name key := by
  obtain ⟨o, es, hsection, hmem⟩ := Layer.exists_table_of_leaf? hleaf
  exact ((entryFault?_table_eq_none_iff name o es).1 (h _ hsection)).2 _ hmem

/-- A section that is absent or a table has its entries. -/
theorem accepted_eq_entriesIn {name : String} (htable : l.TableAt name) :
    accepted l name = l.entriesIn name := by
  unfold accepted section? Layer.field? Layer.entriesIn
  cases hsection : Entry.get? l name with
  | none => cases schema? name <;> rfl
  | some v =>
    obtain ⟨o, es, rfl⟩ := htable v hsection
    have hfits := (entryFault?_table_eq_none_iff name o es).1 (h _ (Entry.mem_of_get? hsection))
    cases hs : schema? name with
    | some s =>
      change (s.read (.table o es)).toOption.getD [] = es
      rw [Schema.read_table_of_fits hs o hfits.2]
      rfl
    | none =>
      obtain rfl : name = "parameters" := (mem_keys_iff.1 hfits.1).resolve_left (by simp [hs])
      change (parameterEntries (.table o es)).toOption.getD [] = es
      rw [parameterEntries_table_of_fits o hfits.2]
      rfl

/-- Free parameters are accepted from a table only. -/
theorem tableAt_parameters : l.TableAt "parameters" := by
  intro v hv
  have hentry : (fault? (parameterEntries v)).map (·.beneath "parameters") = none :=
    h _ (Entry.mem_of_get? hv)
  have hnone := Option.map_eq_none_iff.1 hentry
  cases v with
  | table o es => exact ⟨o, es, rfl⟩
  | scalar | array => cases hnone

end Faultless

theorem valid_iff (hordered : l.Ordered) (htables : l.Tabular) :
    l.Valid ↔ ∀ e ∈ l, entryFault? e = none := by
  constructor
  · intro hl e he
    obtain ⟨name, v⟩ := e
    obtain ⟨o, es, hv⟩ := htables _ he (hl.names _ he)
    cases hv
    have hin : l.entriesIn name = es :=
      Layer.entriesIn_of_get? ((Entry.get?_eq_some_iff hordered.names).2 he)
    refine (entryFault?_table_eq_none_iff name o es).2 ⟨hl.names _ he, fun e' he' => ?_⟩
    have hleaf : l.leaf? name e'.1 = some e'.2 := by
      rw [Layer.leaf?, hin]
      exact (Entry.get?_eq_some_iff (hin ▸ hordered.entriesIn name)).2 he'
    exact hl.leaves name e'.1 e'.2 hleaf
  · intro h
    exact ⟨fun e he => mem_keys_of_entryFault? (h e he), fun _ _ _ => fits_of_leaf? h⟩

/-- A layer is read exactly if it is valid. -/
theorem ofLayer_eq_ok_iff (hordered : l.Ordered) (htables : l.Tabular) (s : Settings) :
    ofLayer l = .ok s ↔ l.Valid ∧ s = inSections l := by
  rw [ofLayer_eq_ok_iff_accepted, ← valid_iff hordered htables]
  refine and_congr_right fun hl => ?_
  have hnone := (valid_iff hordered htables).1 hl
  have haccepted (name : String) (hname : name ∈ keys) : accepted l name = l.entriesIn name :=
    accepted_eq_entriesIn hnone fun v hv => htables _ (Entry.mem_of_get? hv) hname
  have hsame : ofSections (accepted l) = inSections l := by
    unfold ofSections inSections
    rw [haccepted "logging" (by decide), haccepted "http" (by decide),
      haccepted "mshs" (by decide), haccepted "plugins" (by decide),
      haccepted "parameters" (by decide)]
  rw [hsame]

end Settings

end StreamSource
