import StreamSource.Proofs.Settings.Source

/-! Faults about unknown keys. Such a fault arises only where a layer has a key at its top that no
section has for a name, or a key in a section that the section does not declare; it lists the keys
that are declared there. -/

namespace StreamSource

theorem fault?_eq_some_iff {α : Type} {x : Except LoadFault α} {f : LoadFault} :
    fault? x = some f ↔ x = .error f := by
  cases x <;> simp [fault?]

/-- The fault is about something else than an unknown key. -/
def LoadFault.KnowsKeys (f : LoadFault) : Prop := ∀ key valid, f.cause ≠ .unknownField key valid

/-! ### Values -/

namespace Setting

variable {v : Setting} {f : LoadFault}

theorem knowsKeys_refuseType (v : Setting) (expected : String) :
    (v.refuseType expected).KnowsKeys :=
  fun _ _ => LoadCause.noConfusion

theorem knowsKeys_of_text (h : v.text = .error f) : f.KnowsKeys := by
  unfold text at h
  split at h <;> cases h
  exact knowsKeys_refuseType v _

theorem knowsKeys_of_textsFrom {items : List Setting} {i : Nat}
    (h : textsFrom i items = .error f) : f.KnowsKeys := by
  induction items generalizing i f with
  | nil => cases h
  | cons v vs ih =>
    unfold textsFrom at h
    split at h
    next =>
      cases hrest : textsFrom (i + 1) vs with
      | ok texts =>
        rw [hrest] at h
        cases h
      | error g =>
        rw [hrest] at h
        cases h
        exact ih hrest
    next g htext =>
      cases h
      exact fun key valid => knowsKeys_of_text htext key valid

theorem knowsKeys_of_texts (h : v.texts = .error f) : f.KnowsKeys := by
  unfold texts at h
  split at h
  next => exact knowsKeys_of_textsFrom h
  next =>
    cases h
    exact knowsKeys_refuseType v _

theorem knowsKeys_of_word (h : v.word = .error f) : f.KnowsKeys := by
  unfold word at h
  split at h
  next =>
    split at h <;> cases h
    exact fun _ _ => LoadCause.noConfusion
  next =>
    split at h <;> cases h
    exact fun _ _ => LoadCause.noConfusion
  next =>
    cases h
    exact knowsKeys_refuseType v _

theorem knowsKeys_of_parameter (h : v.parameter = .error f) : f.KnowsKeys := by
  unfold parameter at h
  split at h
  next => cases h
  next => cases h
  next =>
    split at h <;> cases h
    exact fun _ _ => LoadCause.noConfusion

end Setting

theorem FieldKind.knowsKeys_of_fault? {k : FieldKind} {v : Setting} {f : LoadFault}
    (h : k.fault? v = some f) : f.KnowsKeys := by
  cases k with
  | text => exact Setting.knowsKeys_of_text (fault?_eq_some_iff.1 h)
  | looseText =>
    have herror : v.looseText = .error f := fault?_eq_some_iff.1 h
    unfold Setting.looseText at herror
    split at herror <;> cases herror
    exact fun _ _ => LoadCause.noConfusion
  | boolean =>
    have herror : v.boolean = .error f := fault?_eq_some_iff.1 h
    unfold Setting.boolean at herror
    split at herror <;> cases herror
    exact Setting.knowsKeys_refuseType v _
  | word => exact Setting.knowsKeys_of_word (fault?_eq_some_iff.1 h)
  | texts => exact Setting.knowsKeys_of_texts (fault?_eq_some_iff.1 h)

/-! ### Sections and layers -/

theorem Schema.notMem_keys {s : Schema} {key : String} (h : s.kind? key = none) : key ∉ s.keys := by
  intro hmem
  obtain ⟨e, he, rfl⟩ := List.mem_map.1 hmem
  obtain ⟨k, hk⟩ := Entry.exists_get?_of_mem he
  rw [Schema.kind?, hk] at h
  cases h

/-- A section is at fault for an unknown key only if it is a table with this key. -/
theorem Schema.exists_of_read {s : Schema} {v : Setting} {f : LoadFault} {key : String}
    {valid : List String} (h : s.read v = .error f) (hcause : f.cause = .unknownField key valid) :
    ∃ o es, v = .table o es ∧ key ∈ es.map (·.1) ∧ key ∉ s.keys ∧ valid = s.keys ∧
      f.path = [key] := by
  unfold Schema.read at h
  split at h
  next o es =>
    split at h <;> cases h
    next hfault =>
      obtain ⟨e, he, hfault⟩ := List.exists_of_findSome?_eq_some hfault
      unfold Schema.entryFault? at hfault
      split at hfault
      next hkind =>
        cases hfault
        cases hcause
        exact ⟨o, es, rfl, List.mem_map_of_mem he, Schema.notMem_keys hkind, rfl, rfl⟩
      next =>
        obtain ⟨g, hg, rfl⟩ := Option.map_eq_some_iff.1 hfault
        exact absurd hcause (FieldKind.knowsKeys_of_fault? hg key valid)
  next =>
    split at h <;> cases h
    next hfault =>
      obtain ⟨p, _, hfault⟩ := List.exists_of_findSome?_eq_some hfault
      obtain ⟨g, hg, rfl⟩ := Option.map_eq_some_iff.1 hfault
      exact absurd hcause (FieldKind.knowsKeys_of_fault? hg key valid)
  next =>
    cases h
    exact absurd hcause (Setting.knowsKeys_refuseType v _ key valid)

theorem Settings.knowsKeys_of_parameterEntries {v : Setting} {f : LoadFault}
    (h : parameterEntries v = .error f) : f.KnowsKeys := by
  unfold parameterEntries at h
  split at h
  next =>
    split at h <;> cases h
    next hfault =>
      obtain ⟨e, _, hfault⟩ := List.exists_of_findSome?_eq_some hfault
      obtain ⟨g, hg, rfl⟩ := Option.map_eq_some_iff.1 hfault
      exact fun key valid => Setting.knowsKeys_of_parameter (fault?_eq_some_iff.1 hg) key valid
  next =>
    cases h
    exact Setting.knowsKeys_refuseType v _

/-- A key that no field has, with the path under which it is looked for and the keys that are
declared in its place: at the top of a layer, or in a section. -/
inductive Layer.Unknown (l : Layer) (key : String) (valid : List String) : List String → Prop
  | top (hmem : key ∈ l.map (·.1)) (hkey : key ∉ Settings.keys) (hvalid : valid = Settings.keys) :
    l.Unknown key valid [key]
  | field (name : String) (s : Schema) (hs : Settings.schema? name = some s)
    (hmem : key ∈ (l.entriesIn name).map (·.1)) (hkey : key ∉ s.keys) (hvalid : valid = s.keys) :
    l.Unknown key valid [name, key]

theorem Layer.Unknown.exists_eq_cons {l : Layer} {key : String} {valid path : List String}
    (h : l.Unknown key valid path) : ∃ head tail, path = head :: tail := by
  cases h with
  | top => exact ⟨_, _, rfl⟩
  | field name => exact ⟨name, _, rfl⟩

theorem Layer.unknown_of_ofLayer {l : Layer} {f : LoadFault} {key : String} {valid : List String}
    (hordered : l.Ordered) (h : Settings.ofLayer l = .error f)
    (hcause : f.cause = .unknownField key valid) : l.Unknown key valid f.path := by
  unfold Settings.ofLayer at h
  split at h <;> cases h
  next hfault =>
    obtain ⟨⟨name, v⟩, he, hfault⟩ := List.exists_of_findSome?_eq_some hfault
    unfold Settings.entryFault? at hfault
    split at hfault
    next s hs =>
      obtain ⟨g, hg, rfl⟩ := Option.map_eq_some_iff.1 hfault
      obtain ⟨o, es, rfl, hmem, hkey, hvalid, hpath⟩ :=
        Schema.exists_of_read (fault?_eq_some_iff.1 hg) hcause
      have hentries : l.entriesIn name = es :=
        Layer.entriesIn_of_get? ((Entry.get?_eq_some_iff hordered.names).2 he)
      rw [LoadFault.beneath, hpath]
      exact .field name s hs (hentries ▸ hmem) hkey hvalid
    next hs =>
      split at hfault
      next =>
        obtain ⟨g, hg, rfl⟩ := Option.map_eq_some_iff.1 hfault
        exact absurd hcause
          (Settings.knowsKeys_of_parameterEntries (fault?_eq_some_iff.1 hg) key valid)
      next hname =>
        cases hfault
        cases hcause
        refine .top (List.mem_map_of_mem he) ?_ rfl
        rw [Settings.mem_keys_iff, not_or]
        exact ⟨by simp [hs], hname⟩

end StreamSource
