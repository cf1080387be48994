import Mathlib.Data.List.Induction
import StreamSource.Proofs.Settings.Field

/-! Layers laid over each other. A table takes up the entries of the table below it, anything else
hides what is below, so a leaf of the stack is that of the highest layer with this leaf. A stack
of layers that can be read can be read itself. -/

namespace StreamSource

namespace Setting

/-- A setting laid over what is below it, if anything. -/
def overlay? (below? : Option Setting) (v : Setting) : Setting :=
  match below? with
  | some below => overlay below v
  | none => v

theorem overlay?_some (below v : Setting) : overlay? (some below) v = overlay below v := rfl

theorem overlay_table_table (o o' : Origin) (es bs : Layer) :
    overlay (.table o' bs) (.table o es) = .table o (overlayEntries bs es) := by
  rw [overlay]

/-- Over anything but a table, a setting stays as it is. -/
theorem overlay_of_lower_ne_table {lower : Setting} (h : ∀ o es, lower ≠ .table o es)
    (v : Setting) : overlay lower v = v := by
  cases v with
  | scalar o s => rw [overlay]
  | array o items => rw [overlay]
  | table o es =>
    cases lower with
    | table o' bs => exact absurd rfl (h o' bs)
    | scalar | array => simp [overlay]

theorem overlay_of_ne_table {v : Setting} (h : ∀ o es, v ≠ .table o es) (lower : Setting) :
    overlay lower v = v := by
  cases v with
  | scalar o s => rw [overlay]
  | array o items => rw [overlay]
  | table o es => exact absurd rfl (h o es)

theorem overlay?_of_lower_ne_table {below? : Option Setting}
    (h : ∀ o es, below? ≠ some (.table o es)) (v : Setting) : overlay? below? v = v := by
  cases below? with
  | none => rfl
  | some below =>
    exact overlay_of_lower_ne_table (fun o es heq => h o es (congrArg some heq)) v

theorem overlay?_of_ne_table {v : Setting} (h : ∀ o es, v ≠ .table o es) (below? : Option Setting) :
    overlay? below? v = v := by
  cases below? with
  | none => rfl
  | some below => exact overlay_of_ne_table h below

/-- What is no table after it was laid over something is as it was. -/
theorem overlay?_eq_self {below? : Option Setting} {v : Setting}
    (h : ∀ o es, overlay? below? v ≠ .table o es) : overlay? below? v = v := by
  refine overlay?_of_ne_table (fun o es hv => ?_) below?
  subst hv
  by_cases hb : ∃ o' bs, below? = some (.table o' bs)
  · obtain ⟨o', bs, rfl⟩ := hb
    exact h o _ (overlay_table_table o o' es bs)
  · refine h o es (overlay?_of_lower_ne_table (fun o' bs heq => hb ⟨o', bs, heq⟩) _)

theorem overlayEntries_cons (lower : Layer) (e : String × Setting) (es : Layer) :
    overlayEntries lower (e :: es) =
      overlayEntries (Entry.insert lower e.1 (overlay? (Entry.get? lower e.1) e.2)) es := by
  rw [overlayEntries]
  rfl

theorem get?_overlayEntries {es : Layer} (hes : (es.map (·.1)).Nodup) (lower : Layer)
    (name : String) :
    Entry.get? (overlayEntries lower es) name =
      ((Entry.get? es name).map (overlay? (Entry.get? lower name))).or (Entry.get? lower name) := by
  induction es generalizing lower with
  | nil =>
    rw [overlayEntries]
    rfl
  | cons e es ih =>
    obtain ⟨he, hes⟩ := List.nodup_cons.1 hes
    rw [overlayEntries_cons, ih hes, Entry.get?_insert, Entry.get?_cons]
    by_cases hname : e.1 = name
    · have habsent : Entry.get? es name = none := Entry.get?_eq_none_of_notMem (hname ▸ he)
      rw [if_pos hname, if_pos hname, habsent, hname]
      rfl
    · rw [if_neg hname, if_neg hname]

theorem ascending_overlayEntries {lower : Layer} (hlower : Ascending lower) (es : Layer) :
    Ascending (overlayEntries lower es) := by
  induction es generalizing lower with
  | nil =>
    rw [overlayEntries]
    exact hlower
  | cons e es ih =>
    rw [overlayEntries_cons]
    exact ih (Entry.ascending_insert hlower e.1 _)

/-- Over nothing, entries in order stay as they are. -/
theorem overlayEntries_nil_left {es : Layer} (hes : Ascending es) : overlayEntries [] es = es := by
  have hover : Ascending (overlayEntries [] es) := ascending_overlayEntries List.Pairwise.nil es
  have hsame : NameMap.mk (overlayEntries [] es) hover = NameMap.mk es hes := by
    refine NameMap.ext_get? fun name => ?_
    have hget := get?_overlayEntries (Entry.nodup_of_ascending hes) [] name
    change Entry.get? (overlayEntries [] es) name = Entry.get? es name
    rw [hget]
    cases Entry.get? es name <;> rfl
  exact congrArg NameMap.entries hsame

/-- Where the keys of two tables ascend, so do those of one laid over the other. -/
theorem KeysAscend.overlay? {below? : Option Setting} {v : Setting} (hv : v.KeysAscend)
    (hbelow : ∀ below ∈ below?, below.KeysAscend) : (overlay? below? v).KeysAscend := by
  cases below? with
  | none => exact hv
  | some below =>
    rw [overlay?_some]
    cases v with
    | scalar o s => rwa [overlay]
    | array o items => rwa [overlay]
    | table o es =>
      cases below with
      | table o' bs =>
        have hbs : Ascending bs := hbelow _ rfl o' bs rfl
        rw [overlay_table_table]
        intro o'' es' heq
        cases heq
        exact ascending_overlayEntries hbs es
      | scalar | array =>
        rw [overlay_of_lower_ne_table (by simp)]
        exact hv

end Setting

namespace Layer

open Setting (overlayEntries overlay?)

variable {lower upper : Layer}

theorem Ordered.overlay (hlower : lower.Ordered) (hupper : ∀ e ∈ upper, e.2.KeysAscend) :
    (overlayEntries lower upper).Ordered := by
  induction upper generalizing lower with
  | nil =>
    rw [overlayEntries]
    exact hlower
  | cons e es ih =>
    rw [Setting.overlayEntries_cons]
    refine ih ⟨Entry.ascending_insert hlower.names e.1 _, fun e' he' => ?_⟩
      fun e' he' => hupper e' (List.mem_cons_of_mem e he')
    rcases Entry.mem_insert he' with rfl | he'
    · refine (hupper e List.mem_cons_self).overlay? fun below hbelow => ?_
      exact hlower.keys _ (Entry.mem_of_get? hbelow)
    · exact hlower.keys e' he'

/-- An entry of layers laid over each other is one of the lower layer, or one of the upper laid
over it. -/
theorem mem_overlay (hlower : lower.Ordered) (hupper : upper.Ordered) {e : String × Setting}
    (he : e ∈ overlayEntries lower upper) :
    (∃ v, (e.1, v) ∈ upper ∧ e.2 = overlay? (Entry.get? lower e.1) v) ∨ e ∈ lower := by
  have hget := (Entry.get?_eq_some_iff (hlower.overlay hupper.keys).names).2 he
  rw [Setting.get?_overlayEntries (Entry.nodup_of_ascending hupper.names)] at hget
  cases hv : Entry.get? upper e.1 with
  | none =>
    rw [hv] at hget
    exact .inr (Entry.mem_of_get? hget)
  | some v =>
    rw [hv] at hget
    exact .inl ⟨v, Entry.mem_of_get? hv, (Option.some.inj hget).symm⟩

theorem entriesIn_of_get?_eq_none {l : Layer} {name : String} (h : Entry.get? l name = none) :
    l.entriesIn name = [] := by
  rw [entriesIn, h]

theorem entriesIn_of_ne_table {l : Layer} {name : String}
    (h : ∀ o es, Entry.get? l name ≠ some (.table o es)) : l.entriesIn name = [] := by
  unfold entriesIn
  split
  next o es heq => exact absurd heq (h o es)
  next => rfl

/-- Whether every setting at the top is a table. -/
def AllTables (l : Layer) : Prop := ∀ e ∈ l, ∃ o es, e.2 = Setting.table o es

theorem AllTables.tableAt {l : Layer} (hl : l.AllTables) (name : String) : l.TableAt name :=
  fun _ hv => hl _ (Entry.mem_of_get? hv)

theorem AllTables.get?_eq {l : Layer} (hl : l.AllTables) {name : String} {v : Setting}
    (h : Entry.get? l name = some v) : ∃ o, v = .table o (l.entriesIn name) := by
  obtain ⟨o, es, rfl⟩ := hl _ (Entry.mem_of_get? h)
  exact ⟨o, by rw [entriesIn_of_get? h]⟩

/-- A table over what a layer has under a name takes up the entries there. -/
theorem overlay?_table (l : Layer) (name : String) (o : Origin) {es : Layer} (hes : Ascending es) :
    overlay? (Entry.get? l name) (.table o es) = .table o (overlayEntries (l.entriesIn name) es) := by
  by_cases hb : ∃ o' bs, Entry.get? l name = some (.table o' bs)
  · obtain ⟨o', bs, hb⟩ := hb
    rw [hb, Setting.overlay?_some, Setting.overlay_table_table, entriesIn_of_get? hb]
  · have hne : ∀ o' bs, Entry.get? l name ≠ some (.table o' bs) := fun o' bs h => hb ⟨o', bs, h⟩
    rw [Setting.overlay?_of_lower_ne_table hne, entriesIn_of_ne_table hne,
      Setting.overlayEntries_nil_left hes]

/-- A section of layers laid over each other has the entries of the two laid over each other,
unless it is something else than a table in the upper one. -/
theorem entriesIn_overlay (lower : Layer) (hupper : upper.Ordered) {name : String}
    (htable : upper.TableAt name) : (overlayEntries lower upper).entriesIn name =
      overlayEntries (lower.entriesIn name) (upper.entriesIn name) := by
  have hget := Setting.get?_overlayEntries (Entry.nodup_of_ascending hupper.names) lower name
  cases hv : Entry.get? upper name with
  | none =>
    rw [entriesIn_of_get?_eq_none hv, overlayEntries]
    unfold entriesIn
    rw [hget, hv]
    rfl
  | some v =>
    obtain ⟨o, es, rfl⟩ := htable v hv
    have hes : Ascending es := entriesIn_of_get? hv ▸ hupper.entriesIn name
    rw [hv, Option.map_some, Option.some_or, overlay?_table _ _ _ hes] at hget
    rw [entriesIn_of_get? hget, entriesIn_of_get? hv]

theorem leaf?_overlay (lower : Layer) (hupper : upper.Ordered) {name : String}
    (htable : upper.TableAt name) (key : String) : (overlayEntries lower upper).leaf? name key =
      ((upper.leaf? name key).map (overlay? (lower.leaf? name key))).or (lower.leaf? name key) := by
  rw [leaf?, entriesIn_overlay lower hupper htable,
    Setting.get?_overlayEntries (Entry.nodup_of_ascending (hupper.entriesIn name))]
  rfl

end Layer

/-! ### Layers that can be read -/

theorem Setting.Fits.ne_table {v : Setting} {name key : String} (h : v.Fits name key)
    (o : Origin) (es : Layer) : v ≠ .table o es := by
  rintro rfl
  cases h with
  | field f _ hread => cases hkind : f.kind <;> rw [hkind] at hread <;> cases hread
  | parameter _ hread => cases hread

/-- A layer whose sections are tables, and that can be read alone. -/
structure Layer.Readable (l : Layer) : Prop where
  ordered : l.Ordered
  tabular : l.Tabular
  valid : l.Valid

namespace Layer.Readable

open Setting (overlayEntries overlay?)

variable {lower upper : Layer}

theorem nil : Layer.Readable [] where
  ordered := ⟨List.Pairwise.nil, fun _ he => nomatch he⟩
  tabular := fun _ he => nomatch he
  valid := ⟨fun _ he => (nomatch he), fun _ _ _ h => (nomatch h)⟩

theorem allTables {l : Layer} (hl : l.Readable) : l.AllTables :=
  fun e he => hl.tabular e he (hl.valid.names e he)

/-- A leaf of the upper layer hides what the lower one has there. -/
theorem leaf?_overlay (hu : upper.Readable) (lower : Layer) (name key : String) :
    (overlayEntries lower upper).leaf? name key =
      (upper.leaf? name key).or (lower.leaf? name key) := by
  rw [Layer.leaf?_overlay lower hu.ordered (hu.allTables.tableAt name)]
  cases hv : upper.leaf? name key with
  | none => rfl
  | some v =>
    have hfits : v.Fits name key := hu.valid.leaves name key v hv
    rw [Option.map_some, Setting.overlay?_of_ne_table hfits.ne_table, Option.some_or]

theorem tabular_overlay (hl : lower.Readable) (hu : upper.Readable) :
    (overlayEntries lower upper).Tabular := by
  intro e he hkey
  rcases mem_overlay hl.ordered hu.ordered he with ⟨v, hv, heq⟩ | he
  · obtain ⟨o, es, rfl⟩ := hu.tabular _ hv hkey
    rw [heq]
    cases hb : Entry.get? lower e.1 with
    | none => exact ⟨o, es, rfl⟩
    | some b =>
      obtain ⟨o', rfl⟩ := hl.allTables.get?_eq hb
      exact ⟨o, _, Setting.overlay_table_table o o' es _⟩
  · exact hl.tabular e he hkey

theorem valid_overlay (hl : lower.Readable) (hu : upper.Readable) :
    (overlayEntries lower upper).Valid where
  names e he := by
    rcases mem_overlay hl.ordered hu.ordered he with ⟨v, hv, _⟩ | he
    · exact hu.valid.names (e.1, v) hv
    · exact hl.valid.names e he
  leaves name key v hleaf := by
    rw [hu.leaf?_overlay lower, Option.or_eq_some_iff] at hleaf
    rcases hleaf with hleaf | ⟨_, hleaf⟩
    · exact hu.valid.leaves name key v hleaf
    · exact hl.valid.leaves name key v hleaf

theorem overlay (hl : lower.Readable) (hu : upper.Readable) :
    (overlayEntries lower upper).Readable :=
  ⟨hl.ordered.overlay hu.ordered.keys, tabular_overlay hl hu, valid_overlay hl hu⟩

end Layer.Readable

namespace Layer

theorem stack_concat (ls : List Layer) (l : Layer) :
    stack (ls ++ [l]) = Setting.overlayEntries (stack ls) l := by
  rw [stack, List.foldl_append]
  rfl

theorem stack_singleton {l : Layer} (hl : l.Ordered) : stack [l] = l :=
  Setting.overlayEntries_nil_left hl.names

theorem ordered_stack {ls : List Layer} (h : ∀ l ∈ ls, l.Ordered) : (stack ls).Ordered := by
  induction ls using List.reverseRecOn with
  | nil => exact ⟨List.Pairwise.nil, fun _ he => nomatch he⟩
  | append_singleton ls l ih =>
    have hl : l.Ordered := h l (List.mem_append_right ls (List.mem_singleton.2 rfl))
    rw [stack_concat]
    exact (ih fun l' hl' => h l' (List.mem_append_left [l] hl')).overlay hl.keys

/-- A stack of layers that can be read can be read, and has each leaf of the highest layer with
this leaf. -/
theorem readable_stack {ls : List Layer} (h : ∀ l ∈ ls, l.Readable) :
    (stack ls).Readable ∧
      ∀ name key, (stack ls).leaf? name key = ls.reverse.findSome? fun l => l.leaf? name key := by
  induction ls using List.reverseRecOn with
  | nil => exact ⟨Readable.nil, fun _ _ => rfl⟩
  | append_singleton ls l ih =>
    have hl : l.Readable := h l (List.mem_append_right ls (List.mem_singleton.2 rfl))
    obtain ⟨hstack, hleaf⟩ := ih fun l' hl' => h l' (List.mem_append_left [l] hl')
    rw [stack_concat]
    refine ⟨hstack.overlay hl, fun name key => ?_⟩
    rw [hl.leaf?_overlay, hleaf, List.reverse_concat, List.findSome?_cons]
    cases l.leaf? name key <;> rfl

end Layer

namespace Settings

/-- A layer that can be read has a free parameter under each name that it sets. -/
theorem mem_names_inSections_iff {l : Layer} (hl : l.Readable) (n : String) :
    n ∈ (inSections l).parameters.names ↔ (l.leaf? "parameters" n).isSome = true := by
  rw [NameMap.mem_names_iff, get?_parameters_inSections hl.ordered]
  cases hleaf : l.leaf? "parameters" n with
  | none => simp
  | some v =>
    have hfits : v.Fits "parameters" n := hl.valid.leaves "parameters" n v hleaf
    have hread := fault?_eq_none_iff.1 (fits_parameters_iff.1 hfits)
    simp [hread]

/-- Where no layer is malformed, their stack is read. -/
theorem ofLayers_ok (ls : List Layer) :
    ofLayers (ls.map .ok) = (ofLayer (Layer.stack ls)).mapError fun f => [f] := by
  have hfaults : (ls.map .ok).filterMap (fault? : Except LoadFault Layer → _) = [] := by
    rw [List.filterMap_map]
    exact List.filterMap_eq_nil_iff.2 fun _ _ => rfl
  have hlayers : (ls.map .ok).filterMap (Except.toOption : Except LoadFault Layer → _) = ls := by
    rw [List.filterMap_map]
    exact List.filterMap_some
  rw [ofLayers, Layer.stackAll, hfaults, hlayers]

/-- Layers that can be read are read as the sections of their stack. -/
theorem ofLayers_of_readable {ls : List Layer} (h : ∀ l ∈ ls, l.Readable) :
    ofLayers (ls.map .ok) = .ok (inSections (Layer.stack ls)) := by
  have hstack := (Layer.readable_stack h).1
  have hread : ofLayer (Layer.stack ls) = .ok (inSections (Layer.stack ls)) :=
    (ofLayer_eq_ok_iff hstack.ordered hstack.tabular _).2 ⟨hstack.valid, rfl⟩
  rw [ofLayers_ok, hread]
  rfl

/-- A layer alone is read as it is. -/
theorem ofLayers_singleton_eq_ok_iff {l : Layer} (hl : l.Ordered) (s : Settings) :
    ofLayers [.ok l] = .ok s ↔ ofLayer l = .ok s := by
  have hone : ofLayers [.ok l] = (ofLayer l).mapError fun f => [f] := by
    have hstack := ofLayers_ok [l]
    rwa [Layer.stack_singleton hl] at hstack
  rw [hone]
  cases ofLayer l <;> simp [Except.mapError]

end Settings

end StreamSource
