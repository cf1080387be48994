import StreamSource.Manifest.Reader
import StreamSource.Proofs.Toml.Distinct

/-! Which texts are manifests, and what the manifests are then. The table must give four texts and
may give one more and two lists of texts; whatever else stands in it, or beside it, does not
matter. Of the texts the name is looked at first, then the version and then the kind. -/

namespace StreamSource

open Toml (lookup?)

namespace PluginManifest

/-- What a table says of a plugin, before the values are looked at. -/
structure Section where
  name : String
  version : String
  description : String
  kind : String
  author : Option String
  schemes : List String
  requiredParameters : List String

/-- An array of texts under a key, or nothing, which stands for none. -/
def TextsAt (t : List (String × Toml)) (key : String) (xs : List String) : Prop :=
  lookup? t key = some (.array (xs.map .text)) ∨ lookup? t key = none ∧ xs = []

namespace Section

/-- A table says what the section says, each field in its shape. -/
structure StandsIn (s : Section) (t : List (String × Toml)) : Prop where
  name : lookup? t "name" = some (.text s.name)
  version : lookup? t "version" = some (.text s.version)
  description : lookup? t "description" = some (.text s.description)
  kind : lookup? t "kind" = some (.text s.kind)
  author : lookup? t "author" = s.author.map .text
  schemes : TextsAt t "schemes" s.schemes
  requiredParameters : TextsAt t "required_parameters" s.requiredParameters

/-- The manifest that carries all that a section says. -/
def manifest (s : Section) (kind : PluginKind) : PluginManifest :=
  { name := s.name, version := s.version, description := s.description, kind := kind,
    author := s.author, schemes := s.schemes, requiredParameters := s.requiredParameters }

end Section

/-! ### Shapes -/

theorem textFault?_eq_none_iff {v : Toml} : textFault? v = none ↔ ∃ s, v = .text s := by
  cases v <;> simp [textFault?]

theorem exists_map_text {items : List Toml} (h : ∀ v ∈ items, ∃ s, v = .text s) :
    ∃ xs : List String, items = xs.map .text := by
  induction items with
  | nil => exact ⟨[], rfl⟩
  | cons v vs ih =>
    obtain ⟨⟨s, rfl⟩, hvs⟩ := List.forall_mem_cons.1 h
    obtain ⟨xs, rfl⟩ := ih hvs
    exact ⟨s :: xs, rfl⟩

theorem texts_fault?_eq_none_iff {v : Toml} :
    FieldShape.texts.fault? v = none ↔ ∃ xs : List String, v = .array (xs.map .text) := by
  cases v with
  | array items =>
    simp only [FieldShape.fault?, List.findSome?_eq_none_iff, textFault?_eq_none_iff,
      Toml.array.injEq]
    constructor
    · exact exists_map_text
    · rintro ⟨xs, rfl⟩ v hv
      obtain ⟨s, _, rfl⟩ := List.mem_map.1 hv
      exact ⟨s, rfl⟩
  | _ => simp [FieldShape.fault?]

theorem texts_array (xs : List String) : texts (.array (xs.map .text)) = xs := by
  rw [texts, List.filterMap_map]
  exact List.filterMap_some

theorem mem_fields_of_shape? {key : String} {shape : FieldShape} (h : shape? key = some shape) :
    (key, shape) ∈ fields := by
  obtain ⟨f, hf, rfl⟩ := Option.map_eq_some_iff.1 h
  have hkey : f.1 = key := of_decide_eq_true (List.find?_some hf :)
  exact hkey ▸ List.mem_of_find?_eq_some hf

theorem shape?_of_mem_fields : ∀ f ∈ fields, shape? f.1 = some f.2 := by decide

section Tables

variable {t : List (String × Toml)}

/-- A table in which keys occur once is checked by looking up each field. -/
theorem findSome?_entryFault?_eq_none_iff (ht : (t.map (·.1)).Nodup) :
    t.findSome? entryFault? = none ↔
      ∀ f ∈ fields, ∀ v, lookup? t f.1 = some v → f.2.fault? v = none := by
  rw [List.findSome?_eq_none_iff]
  constructor
  · intro h f hf v hv
    have hfault := h (f.1, v) (Entry.mem_of_get? hv)
    rwa [entryFault?, shape?_of_mem_fields f hf] at hfault
  · intro h e he
    rw [entryFault?, Option.bind_eq_none_iff]
    intro shape hshape
    exact h (e.1, shape) (mem_fields_of_shape? hshape) e.2
      ((Entry.get?_eq_some_iff_of_nodup ht).2 he)

theorem checkTable_eq_ok_iff {es : List (String × Toml)} :
    checkTable t = .ok es ↔ es = t ∧ t.findSome? entryFault? = none ∧
      ∀ k ∈ mandatory, ∃ v, lookup? t k = some v := by
  unfold checkTable
  cases hfault : t.findSome? entryFault? with
  | some f => simp
  | none =>
    cases hmissing : mandatory.find? fun k => (lookup? t k).isNone with
    | some k =>
      have hnone : lookup? t k = none := Option.isNone_iff_eq_none.1 (List.find?_some hmissing :)
      simp only [reduceCtorEq, true_and, false_iff, not_and]
      rintro - h
      obtain ⟨v, hv⟩ := h k (List.mem_of_find?_eq_some hmissing)
      rw [hnone] at hv
      cases hv
    | none =>
      simp only [Except.ok.injEq, true_and, eq_comm (a := t), iff_self_and]
      intro _ k hk
      have hsome := List.find?_eq_none.1 hmissing k hk
      exact Option.ne_none_iff_exists'.1 fun hnone => hsome (by rw [hnone]; rfl)

/-- A table with all it must have, and nothing of a wrong shape, says all that a section is made
of. -/
theorem exists_standsIn
    (hfits : ∀ f ∈ fields, ∀ v, lookup? t f.1 = some v → f.2.fault? v = none)
    (hgiven : ∀ k ∈ mandatory, ∃ v, lookup? t k = some v) : ∃ s : Section, s.StandsIn t := by
  have htext {key : String} (hkey : (key, .text) ∈ fields) {v : Toml}
      (hv : lookup? t key = some v) : ∃ s, v = .text s :=
    textFault?_eq_none_iff.1 (hfits (key, .text) hkey v hv)
  have hmandatory (key : String) (hkey : (key, .text) ∈ fields) (hmem : key ∈ mandatory) :
      ∃ s, lookup? t key = some (.text s) := by
    obtain ⟨v, hv⟩ := hgiven key hmem
    obtain ⟨s, rfl⟩ := htext hkey hv
    exact ⟨s, hv⟩
  have htexts (key : String) (hkey : (key, .texts) ∈ fields) : ∃ xs, TextsAt t key xs := by
    cases hv : lookup? t key with
    | none => exact ⟨[], .inr ⟨hv, rfl⟩⟩
    | some v =>
      obtain ⟨xs, rfl⟩ := texts_fault?_eq_none_iff.1 (hfits (key, .texts) hkey v hv)
      exact ⟨xs, .inl hv⟩
  obtain ⟨author, hauthor⟩ : ∃ a : Option String, lookup? t "author" = a.map .text := by
    cases hv : lookup? t "author" with
    | none => exact ⟨none, rfl⟩
    | some v =>
      obtain ⟨a, rfl⟩ := htext (by decide) hv
      exact ⟨some a, rfl⟩
  obtain ⟨name, hname⟩ := hmandatory "name" (by decide) (by decide)
  obtain ⟨version, hversion⟩ := hmandatory "version" (by decide) (by decide)
  obtain ⟨description, hdescription⟩ := hmandatory "description" (by decide) (by decide)
  obtain ⟨kind, hkind⟩ := hmandatory "kind" (by decide) (by decide)
  obtain ⟨schemes, hschemes⟩ := htexts "schemes" (by decide)
  obtain ⟨required, hrequired⟩ := htexts "required_parameters" (by decide)
  exact ⟨⟨name, version, description, kind, author, schemes, required⟩,
    ⟨hname, hversion, hdescription, hkind, hauthor, hschemes, hrequired⟩⟩

theorem Section.StandsIn.fits {s : Section} (hs : s.StandsIn t) :
    ∀ f ∈ fields, ∀ v, lookup? t f.1 = some v → f.2.fault? v = none := by
  have htext {key x : String} (hx : lookup? t key = some (.text x)) (v : Toml)
      (hv : lookup? t key = some v) : FieldShape.text.fault? v = none := by
    cases hx ▸ hv
    rfl
  have hauthor (v : Toml) (hv : lookup? t "author" = some v) :
      FieldShape.text.fault? v = none := by
    obtain ⟨a, _, rfl⟩ := Option.map_eq_some_iff.1 (hs.author ▸ hv)
    rfl
  have htexts {key : String} {xs : List String} (hxs : TextsAt t key xs) (v : Toml)
      (hv : lookup? t key = some v) : FieldShape.texts.fault? v = none := by
    rcases hxs with hx | ⟨hx, -⟩
    · cases hx ▸ hv
      exact texts_fault?_eq_none_iff.2 ⟨xs, rfl⟩
    · cases hx ▸ hv
  simp only [fields, List.forall_mem_cons]
  exact ⟨htext hs.name, htext hs.version, htext hs.description, htext hs.kind, hauthor,
    htexts hs.schemes, htexts hs.requiredParameters, List.forall_mem_nil _⟩

theorem Section.StandsIn.given {s : Section} (hs : s.StandsIn t) :
    ∀ k ∈ mandatory, ∃ v, lookup? t k = some v := by
  simp only [mandatory, List.forall_mem_cons]
  exact ⟨⟨_, hs.name⟩, ⟨_, hs.version⟩, ⟨_, hs.description⟩, ⟨_, hs.kind⟩, List.forall_mem_nil _⟩

/-- A table passes the check exactly if it says all that a section is made of. -/
theorem checkTable_iff_exists_standsIn (ht : (t.map (·.1)).Nodup) :
    checkTable t = .ok t ↔ ∃ s : Section, s.StandsIn t := by
  rw [checkTable_eq_ok_iff, findSome?_entryFault?_eq_none_iff ht]
  constructor
  · rintro ⟨-, hfits, hgiven⟩
    exact exists_standsIn hfits hgiven
  · rintro ⟨s, hs⟩
    exact ⟨rfl, hs.fits, hs.given⟩

theorem TextsAt.textsAt_eq {key : String} {xs : List String} (h : TextsAt t key xs) :
    textsAt t key = xs := by
  unfold textsAt
  rcases h with h | ⟨h, rfl⟩
  · rw [h, Option.map_some, Option.getD_some, texts_array]
  · rw [h]
    rfl

/-- What becomes of a section: its name, its version and its kind are looked at in turn. -/
theorem ofEntries_of_standsIn {s : Section} (hs : s.StandsIn t) :
    ofEntries t =
      if s.name = "" then .error .emptyName
      else match Version.read s.version.toList with
        | .error f => .error (.badVersion s.version f)
        | .ok _ =>
          match (Vocabulary.ofText? s.kind : Option PluginKind) with
          | none => .error (.unknownKind s.kind)
          | some kind => .ok (s.manifest kind) := by
  have htext {key x : String} (hx : lookup? t key = some (.text x)) : textAt? t key = some x := by
    rw [textAt?, hx]
    rfl
  have hauthor : textAt? t "author" = s.author := by
    rw [textAt?, hs.author]
    cases s.author <;> rfl
  have heq := ofEntries.eq_def t
  simp only [htext hs.name, htext hs.version, htext hs.description, htext hs.kind, hauthor,
    hs.schemes.textsAt_eq, hs.requiredParameters.textsAt_eq, Option.getD_some] at heq
  exact heq

end Tables

/-! ### Texts -/

theorem kind_ofText?_eq_some_iff {x : String} {k : PluginKind} :
    (Vocabulary.ofText? x : Option PluginKind) = some k ↔ x = k.name := by
  constructor
  · intro h
    exact (of_decide_eq_true (List.find?_some h :) : Vocabulary.spell k = x).symm
  · rintro rfl
    exact Vocabulary.ofText?_spell_pluginKind k

section Texts

variable {content : String} {tree t : List (String × Toml)}

theorem ofText_eq (htree : Toml.read? content = some tree) :
    ofText content = (ofDocument tree).mapError fun f => .configuration (.manifest f) := by
  rw [ofText, read, htree]

theorem nodup_keys_of_read? (htree : Toml.read? content = some tree)
    (hplugin : lookup? tree "plugin" = some (.table t)) : (t.map (·.1)).Nodup :=
  ((Toml.distinct_of_read? htree).of_lookup? hplugin).nodup_keys

theorem ofDocument_of_standsIn {s : Section}
    (hplugin : lookup? tree "plugin" = some (.table t)) (ht : (t.map (·.1)).Nodup)
    (hs : s.StandsIn t) : ofDocument tree = ofEntries t := by
  have hcheck : check (.table t) = .ok t := (checkTable_iff_exists_standsIn ht).2 ⟨s, hs⟩
  rw [ofDocument, hplugin]
  simp only [hcheck]
  rfl

theorem exists_standsIn_of_ofDocument {m : PluginManifest}
    (hplugin : lookup? tree "plugin" = some (.table t)) (ht : (t.map (·.1)).Nodup)
    (h : ofDocument tree = .ok m) : ∃ s : Section, s.StandsIn t := by
  rw [ofDocument, hplugin] at h
  cases hcheck : checkTable t with
  | error f =>
    simp only [check, hcheck] at h
    cases h
  | ok es =>
    obtain ⟨rfl, _⟩ := checkTable_eq_ok_iff.1 hcheck
    exact (checkTable_iff_exists_standsIn ht).1 hcheck

/-- A section makes a manifest if it has a name, a version that can be read and one of the two
kinds; the manifest carries all that the section says. -/
def Section.Makes (s : Section) (m : PluginManifest) : Prop :=
  s.name ≠ "" ∧ (∃ v, Version.read s.version.toList = .ok v) ∧
    ∃ k : PluginKind, s.kind = k.name ∧ m = s.manifest k

theorem ofEntries_eq_ok_iff {s : Section} (hs : s.StandsIn t) {m : PluginManifest} :
    ofEntries t = .ok m ↔ s.Makes m := by
  rw [ofEntries_of_standsIn hs, Section.Makes]
  by_cases hname : s.name = ""
  · simp [hname]
  · cases hversion : Version.read s.version.toList with
    | error f => simp [hname]
    | ok v =>
      cases hkind : (Vocabulary.ofText? s.kind : Option PluginKind) with
      | none =>
        have hno (k : PluginKind) : s.kind ≠ k.name := fun heq => by
          rw [kind_ofText?_eq_some_iff.2 heq] at hkind
          cases hkind
        simp [hname, hno]
      | some k =>
        have honly (k' : PluginKind) : s.kind = k'.name ↔ k' = k := by
          rw [← kind_ofText?_eq_some_iff, hkind, Option.some.injEq, eq_comm]
        simp [hname, honly, eq_comm]

theorem ofText_eq_ok_iff (htree : Toml.read? content = some tree)
    (htable : ∀ v, lookup? tree "plugin" = some v → ∃ t, v = .table t) {m : PluginManifest} :
    ofText content = .ok m ↔
      ∃ t s, lookup? tree "plugin" = some (.table t) ∧ Section.StandsIn s t ∧ s.Makes m := by
  have hok : ofText content = .ok m ↔ ofDocument tree = .ok m := by
    rw [ofText_eq htree]
    cases ofDocument tree <;> simp [Except.mapError]
  rw [hok]
  constructor
  · intro h
    cases hplugin : lookup? tree "plugin" with
    | none =>
      rw [ofDocument, hplugin] at h
      cases h
    | some v =>
      obtain ⟨t, rfl⟩ := htable v hplugin
      have ht := nodup_keys_of_read? htree hplugin
      obtain ⟨s, hs⟩ := exists_standsIn_of_ofDocument hplugin ht h
      rw [ofDocument_of_standsIn hplugin ht hs] at h
      exact ⟨t, s, rfl, hs, (ofEntries_eq_ok_iff hs).1 h⟩
  · rintro ⟨t, s, hplugin, hs, hmakes⟩
    rw [ofDocument_of_standsIn hplugin (nodup_keys_of_read? htree hplugin) hs]
    exact (ofEntries_eq_ok_iff hs).2 hmakes

/-- As far as the fields go, one tree says of the plugin what the other says: neither has a table
of it, or the tables agree on every field. -/
inductive SamePlugin (tree tree' : List (String × Toml)) : Prop
  | absent (h : lookup? tree "plugin" = none) (h' : lookup? tree' "plugin" = none)
  | given {t t' : List (String × Toml)} (h : lookup? tree "plugin" = some (.table t))
      (h' : lookup? tree' "plugin" = some (.table t'))
      (same : ∀ f ∈ fields, lookup? t f.1 = lookup? t' f.1)

theorem Section.StandsIn.congr {s : Section} {t' : List (String × Toml)} (hs : s.StandsIn t)
    (same : ∀ f ∈ fields, lookup? t f.1 = lookup? t' f.1) : s.StandsIn t' := by
  simp only [fields, List.forall_mem_cons] at same
  obtain ⟨hname, hversion, hdescription, hkind, hauthor, hschemes, hrequired, -⟩ := same
  have htexts {key : String} {xs : List String} (heq : lookup? t key = lookup? t' key)
      (h : TextsAt t key xs) : TextsAt t' key xs := by
    rwa [TextsAt, ← heq]
  exact ⟨hname ▸ hs.name, hversion ▸ hs.version, hdescription ▸ hs.description, hkind ▸ hs.kind,
    hauthor ▸ hs.author, htexts hschemes hs.schemes, htexts hrequired hs.requiredParameters⟩

namespace SamePlugin

variable {tree' : List (String × Toml)}

theorem symm (h : SamePlugin tree tree') : SamePlugin tree' tree := by
  cases h with
  | absent h h' => exact .absent h' h
  | given h h' same => exact .given h' h fun f hf => (same f hf).symm

theorem eq_table (h : SamePlugin tree tree') {v : Toml} (hv : lookup? tree "plugin" = some v) :
    ∃ t, v = .table t := by
  cases h with
  | absent h h' => cases h ▸ hv
  | given h h' same =>
    cases h ▸ hv
    exact ⟨_, rfl⟩

/-- The manifest of one tree is the manifest of the other. -/
theorem ofText_eq_ok {content' : String} {m : PluginManifest} (h : SamePlugin tree tree')
    (htree : Toml.read? content = some tree) (htree' : Toml.read? content' = some tree')
    (hok : ofText content = .ok m) : ofText content' = .ok m := by
  obtain ⟨t, s, hplugin, hs, hmakes⟩ := (ofText_eq_ok_iff htree fun _ => h.eq_table).1 hok
  refine (ofText_eq_ok_iff htree' fun _ => h.symm.eq_table).2 ?_
  cases h with
  | absent h h' => cases h ▸ hplugin
  | @given t₁ t' h h' same =>
    cases h ▸ hplugin
    exact ⟨t', s, h', hs.congr same, hmakes⟩

end SamePlugin

/-- A text makes a manifest exactly if the table of the plugin is there and says all it must, with
values that make one. What it says wrong is reported in the order of name, version and kind, and
what else the text says is of no account. -/
theorem ofText_sections (htree : Toml.read? content = some tree)
    (htable : ∀ v, lookup? tree "plugin" = some v → ∃ t, v = .table t) :
    (∀ m, ofText content = .ok m ↔
      ∃ t s, lookup? tree "plugin" = some (.table t) ∧ Section.StandsIn s t ∧ s.Makes m) ∧
    (∀ t s, lookup? tree "plugin" = some (.table t) → Section.StandsIn s t →
      (s.name = "" → ofText content = .error (.configuration (.manifest .emptyName))) ∧
      (s.name ≠ "" → ∀ f, Version.read s.version.toList = .error f →
        ofText content = .error (.configuration (.manifest (.badVersion s.version f)))) ∧
      (s.name ≠ "" → ∀ v, Version.read s.version.toList = .ok v →
        (∀ k : PluginKind, s.kind ≠ k.name) →
        ofText content = .error (.configuration (.manifest (.unknownKind s.kind))))) ∧
    ∀ content' tree', Toml.read? content' = some tree' → SamePlugin tree tree' →
      ∀ m, ofText content' = .ok m ↔ ofText content = .ok m := by
  refine ⟨fun m => ofText_eq_ok_iff htree htable, fun t s hplugin hs => ?_,
    fun content' tree' htree' hsame m =>
      ⟨hsame.symm.ofText_eq_ok htree' htree, hsame.ofText_eq_ok htree htree'⟩⟩
  have hentries : ofText content =
      (ofEntries t).mapError fun f => .configuration (.manifest f) := by
    rw [ofText_eq htree,
      ofDocument_of_standsIn hplugin (nodup_keys_of_read? htree hplugin) hs]
  rw [ofEntries_of_standsIn hs] at hentries
  refine ⟨fun hname => ?_, fun hname f hf => ?_, fun hname v hv hkind => ?_⟩
  · rw [hentries, if_pos hname]
    rfl
  · simp only [hentries, if_neg hname, hf]
    rfl
  · have hnone : (Vocabulary.ofText? s.kind : Option PluginKind) = none :=
      Option.eq_none_iff_forall_ne_some.2 fun k hk => hkind k (kind_ofText?_eq_some_iff.1 hk)
    simp only [hentries, if_neg hname, hv, hnone]
    rfl

theorem ofText_flv :
    ofText "[plugin]\nname='flv'\nrank=3\nversion='1.2.0'\nkind='Parser'\ndescription=''\n" =
      .ok { name := "flv", version := "1.2.0", description := "", kind := .parser } := by
  have htree : Toml.read?
      "[plugin]\nname='flv'\nrank=3\nversion='1.2.0'\nkind='Parser'\ndescription=''\n" =
      some [("plugin", .table [("name", .text "flv"), ("rank", .integer 3),
        ("version", .text "1.2.0"), ("kind", .text "Parser"), ("description", .text "")])] := by
    cbv
  obtain ⟨hok, -, -⟩ := ofText_sections htree fun v hv => by
    cases hv
    exact ⟨_, rfl⟩
  refine (hok _).2 ⟨_, ⟨"flv", "1.2.0", "", "Parser", none, [], []⟩, rfl, ?_, ?_⟩
  · exact ⟨rfl, rfl, rfl, rfl, rfl, .inr ⟨rfl, rfl⟩, .inr ⟨rfl, rfl⟩⟩
  · exact ⟨by decide, ⟨_, rfl⟩, .parser, rfl, rfl⟩

end Texts

end PluginManifest

end StreamSource
