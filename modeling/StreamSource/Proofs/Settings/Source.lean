import StreamSource.Proofs.Settings.Overlay

/-! Where layers come from. Whether a layer is made of a TOML text or of the environment, the
names of its sections ascend, and so do the keys in each; what is found in the layer of a text is
what the text has in the same place. -/

namespace StreamSource

namespace Setting

/-! ### Texts -/

theorem ofEntries_cons (o : Origin) (e : String × Toml) (es : List (String × Toml)) :
    ofEntries o (e :: es) = Entry.insert (ofEntries o es) e.1 (ofToml o e.2) := by
  rw [ofEntries]

theorem get?_ofEntries (o : Origin) (es : List (String × Toml)) (name : String) :
    Entry.get? (ofEntries o es) name = (Toml.lookup? es name).map (ofToml o) := by
  change _ = (Entry.get? es name).map (ofToml o)
  induction es with
  | nil =>
    rw [ofEntries]
    rfl
  | cons e es ih =>
    rw [ofEntries_cons, Entry.get?_insert, Entry.get?_cons, ih]
    by_cases hname : e.1 = name
    · rw [if_pos hname, if_pos hname, Option.map_some]
    · rw [if_neg hname, if_neg hname]

theorem ascending_ofEntries (o : Origin) (es : List (String × Toml)) :
    Ascending (ofEntries o es) := by
  induction es with
  | nil =>
    rw [ofEntries]
    exact List.Pairwise.nil
  | cons e es ih =>
    rw [ofEntries_cons]
    exact Entry.ascending_insert ih e.1 _

theorem keysAscend_ofToml (o : Origin) (v : Toml) : (ofToml o v).KeysAscend := by
  intro o' es h
  cases v with
  | table entries =>
    rw [ofToml] at h
    cases h
    exact ascending_ofEntries o entries
  | date w =>
    rw [ofToml] at h
    cases h
    exact List.pairwise_singleton _ _
  | text | integer | float | boolean | array => simp [ofToml] at h

theorem ordered_ofEntries (o : Origin) (es : List (String × Toml)) :
    Layer.Ordered (ofEntries o es) where
  names := ascending_ofEntries o es
  keys := by
    induction es with
    | nil =>
      rw [ofEntries]
      exact fun _ he => nomatch he
    | cons e es ih =>
      rw [ofEntries_cons]
      intro e' he'
      rcases Entry.mem_insert he' with rfl | he'
      · exact keysAscend_ofToml o e.2
      · exact ih e' he'

end Setting

theorem Layer.ordered_of_ofText {o : Origin} {content : String} {l : Layer}
    (h : Layer.ofText o content = .ok l) : l.Ordered := by
  unfold ofText at h
  split at h
  next entries _ =>
    cases h
    exact Setting.ordered_ofEntries o entries
  next => cases h

/-! ### The environment -/

namespace Environment

theorem ascending_foldl_insert {t : Layer} (ht : Ascending t) (es : List (String × Setting)) :
    Ascending (es.foldl (fun t e => Entry.insert t e.1 e.2) t) := by
  induction es generalizing t with
  | nil => exact ht
  | cons e es ih => exact ih (Entry.ascending_insert ht e.1 e.2)

/-- Only braces make a table, and its entries are put in order. -/
theorem keysAscend_of_value? {fuel : Nat} {cs r : List Char} {v : Setting}
    (h : value? fuel cs = some (v, r)) : v.KeysAscend := by
  intro o es hv
  subst hv
  cases fuel with
  | zero => simp [value?] at h
  | succ fuel =>
    rw [value?] at h
    split at h
    next =>
      obtain ⟨p, _, heq⟩ := Option.map_eq_some_iff.1 h
      cases heq
      exact ascending_foldl_insert List.Pairwise.nil p.1
    next => obtain ⟨_, _, ⟨⟩⟩ := Option.map_eq_some_iff.1 h
    next => obtain ⟨_, _, ⟨⟩⟩ := Option.map_eq_some_iff.1 h
    next => cases h
    next => cases h
    next => split_ifs at h <;> cases h

theorem keysAscend_settingOf (value : String) : (settingOf value).KeysAscend := by
  unfold settingOf
  dsimp only
  split
  next v h => exact keysAscend_of_value? h
  next =>
    intro o es h
    cases h

theorem pathOf?_ne_nil {name : String} {path : List String} (h : pathOf? name = some path) :
    path ≠ [] := by
  simp only [pathOf?, Option.ite_none_left_eq_some, Option.ite_none_right_eq_some,
    Option.some.injEq] at h
  obtain ⟨_, _, hpath⟩ := h
  rw [← hpath]
  exact fun hnil => Text.pieces_ne_nil '.' _ (List.map_eq_nil_iff.1 hnil)

theorem keysAscend_under {v : Setting} (hv : v.KeysAscend) (path : List String) :
    (v.under path).KeysAscend := by
  cases path with
  | nil => exact hv
  | cons k ks =>
    intro o es h
    cases h
    exact List.pairwise_singleton _ _

theorem ordered_layerOf (name value : String) : (layerOf name value).Ordered := by
  unfold layerOf
  cases hpath : pathOf? name with
  | none => exact ⟨List.Pairwise.nil, fun _ he => nomatch he⟩
  | some path =>
    cases path with
    | nil => exact absurd rfl (pathOf?_ne_nil hpath)
    | cons k ks =>
      refine ⟨List.pairwise_singleton _ _, fun e he => ?_⟩
      rcases List.mem_singleton.1 he with rfl
      exact keysAscend_under (keysAscend_settingOf value) ks

theorem ordered_layer (vars : List (String × String)) : (layer vars).Ordered := by
  refine Layer.ordered_stack fun l hl => ?_
  obtain ⟨v, _, rfl⟩ := List.mem_map.1 hl
  exact ordered_layerOf v.1 v.2

end Environment

/-! ### The layers of the surroundings -/

namespace Surroundings

variable (s : Surroundings)

theorem ordered_of_fileLayer {path? : Option Path} {l : Layer} (h : s.fileLayer path? = .ok l) :
    l.Ordered := by
  unfold fileLayer at h
  split at h
  next => exact Layer.ordered_of_ofText h
  next =>
    cases h
    exact ⟨List.Pairwise.nil, fun _ he => nomatch he⟩

theorem ordered_of_mem_layers {l : Layer} (h : .ok l ∈ s.layers) : l.Ordered := by
  simp only [layers, List.mem_cons, List.not_mem_nil, or_false] at h
  rcases h with h | h | h | h
  · exact s.ordered_of_fileLayer h.symm
  · exact s.ordered_of_fileLayer h.symm
  · exact s.ordered_of_fileLayer h.symm
  · cases h
    exact Environment.ordered_layer s.environment

/-- A file with a TOML text makes a layer of what the text says. -/
theorem exists_fileLayer_of_read? {s : Surroundings} {path? : Option Path} {p : Path} {c : String}
    {entries : List (String × Toml)} (hp : path? = some p) (hc : s.content? p = some c)
    (hread : (Toml.read? c).bind Toml.unwrapTop? = some entries) :
    ∃ o, s.fileLayer path? = .ok (Setting.ofEntries o entries) := by
  refine ⟨.file p.written (p.shownFrom s.workingDirectory), ?_⟩
  rw [fileLayer, hp, Option.bind_some, hc, Option.map_some]
  simp only [Layer.ofText, hread]

end Surroundings

end StreamSource
