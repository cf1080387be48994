import StreamSource.Proofs.NameMap
import StreamSource.Toml.Wrapped

/-! What a document means. A table with the value key means what the value under that key means,
whatever else it has; any other value means itself, part by part. Without the mark key a document
is taken for its meaning, which is one only; with the mark key below the top it is not read. -/

namespace StreamSource.Toml

theorem lookup?_eq_get? (entries : List (String × Toml)) (key : String) :
    lookup? entries key = Entry.get? entries key := rfl

theorem lookup?_cons (k : String) (v : Toml) (es : List (String × Toml)) (key : String) :
    lookup? ((k, v) :: es) key = if k = key then some v else lookup? es key :=
  Entry.get?_cons (k, v) es key

/-! ### Keys of the tables in a value -/

/-- Some table in a value has the key. -/
inductive HasKey (key : String) : Toml → Prop
  | here {entries : List (String × Toml)} {v : Toml} (hmem : (key, v) ∈ entries) :
      HasKey key (.table entries)
  | under {entries : List (String × Toml)} {k : String} {v : Toml} (hmem : (k, v) ∈ entries)
      (h : HasKey key v) : HasKey key (.table entries)
  | item {items : List Toml} {v : Toml} (hmem : v ∈ items) (h : HasKey key v) :
      HasKey key (.array items)

variable {key : String}

theorem hasKey_table_iff {entries : List (String × Toml)} :
    HasKey key (.table entries) ↔ ∃ e ∈ entries, e.1 = key ∨ HasKey key e.2 := by
  constructor
  · intro h
    cases h with
    | here hmem => exact ⟨_, hmem, .inl rfl⟩
    | under hmem h => exact ⟨_, hmem, .inr h⟩
  · rintro ⟨⟨k, v⟩, hmem, rfl | h⟩
    · exact .here hmem
    · exact .under hmem h

theorem hasKey_array_iff {items : List Toml} :
    HasKey key (.array items) ↔ ∃ v ∈ items, HasKey key v := by
  constructor
  · intro h
    cases h with
    | item hmem h => exact ⟨_, hmem, h⟩
  · rintro ⟨v, hmem, h⟩
    exact .item hmem h

mutual

/-- A value with the mark key is refused, and no other is. -/
theorem unwrap?_eq_none_iff : ∀ {v : Toml}, unwrap? v = none ↔ HasKey markKey v
  | .array items => by
    rw [unwrap?, Option.map_eq_none_iff, unwrapAll?_eq_none_iff, hasKey_array_iff]
  | .table entries => by
    rw [unwrap?, Option.map_eq_none_iff, unwrapEntries?_eq_none_iff, hasKey_table_iff]
  | .text _ | .integer _ | .float _ | .boolean _ | .date _ => by
    rw [unwrap?]
    exact ⟨nofun, nofun⟩

theorem unwrapAll?_eq_none_iff : ∀ {vs : List Toml},
    unwrapAll? vs = none ↔ ∃ v ∈ vs, HasKey markKey v
  | [] => by simp [unwrapAll?]
  | v :: vs => by
    rw [List.exists_mem_cons_iff, ← unwrap?_eq_none_iff, ← unwrapAll?_eq_none_iff, unwrapAll?]
    cases unwrap? v <;> cases unwrapAll? vs <;> simp

theorem unwrapEntries?_eq_none_iff : ∀ {es : List (String × Toml)},
    unwrapEntries? es = none ↔ ∃ e ∈ es, e.1 = markKey ∨ HasKey markKey e.2
  | [] => by simp [unwrapEntries?]
  | (k, v) :: es => by
    rw [List.exists_mem_cons_iff, ← unwrap?_eq_none_iff, ← unwrapEntries?_eq_none_iff, unwrapEntries?]
    by_cases hk : k = markKey
    · simp [hk]
    · rw [if_neg hk]
      cases unwrap? v <;> cases unwrapEntries? es <;> simp [hk]

end

/-! ### Meanings -/

mutual

/-- What a value of a document means. -/
inductive Means : Toml → Toml → Prop
  | text (s : String) : Means (.text s) (.text s)
  | integer (n : Int64) : Means (.integer n) (.integer n)
  | float (x : Binary64) : Means (.float x) (.float x)
  | boolean (b : Bool) : Means (.boolean b) (.boolean b)
  | date (written : String) : Means (.date written) (.date written)
  | array {items meant : List Toml} (h : ItemsMean items meant) :
      Means (.array items) (.array meant)
  | wrapped {entries : List (String × Toml)} {v meant : Toml}
      (hv : lookup? entries "___figment_value_value" = some v) (h : Means v meant) :
      Means (.table entries) meant
  | table {entries meant : List (String × Toml)}
      (hnone : lookup? entries "___figment_value_value" = none) (h : EntriesMean entries meant) :
      Means (.table entries) (.table meant)

inductive ItemsMean : List Toml → List Toml → Prop
  | nil : ItemsMean [] []
  | cons {v w : Toml} {vs ws : List Toml} (h : Means v w) (hs : ItemsMean vs ws) :
      ItemsMean (v :: vs) (w :: ws)

inductive EntriesMean : List (String × Toml) → List (String × Toml) → Prop
  | nil : EntriesMean [] []
  | cons {k : String} {v w : Toml} {es ws : List (String × Toml)} (h : Means v w)
      (hs : EntriesMean es ws) : EntriesMean ((k, v) :: es) ((k, w) :: ws)

end

/-- Under every key, the meaning of a table has the meaning of what the table has. -/
theorem EntriesMean.lookup? : ∀ {es ws : List (String × Toml)}, EntriesMean es ws →
    ∀ key, Option.Rel Means (Toml.lookup? es key) (Toml.lookup? ws key)
  | [], _, .nil, _ => .none
  | (k, v) :: es, _, .cons h hs, key => by
    rw [lookup?_cons, lookup?_cons]
    split
    · exact .some h
    · exact hs.lookup? key

theorem means_ofWrapped {entries meant : List (String × Toml)} (h : EntriesMean entries meant) :
    Means (.table entries) (ofWrapped meant) := by
  have hrel := h.lookup? valueKey
  unfold ofWrapped
  cases hv : lookup? entries valueKey with
  | none =>
    rw [hv] at hrel
    cases hw : lookup? meant valueKey with
    | none => exact .table hv h
    | some w =>
      rw [hw] at hrel
      cases hrel
  | some v =>
    rw [hv] at hrel
    cases hw : lookup? meant valueKey with
    | none =>
      rw [hw] at hrel
      cases hrel
    | some w =>
      rw [hw] at hrel
      cases hrel with
      | some hmeans => exact .wrapped hv hmeans

mutual

/-- A value that is read is taken for its meaning. -/
theorem means_of_unwrap? : ∀ {v w : Toml}, unwrap? v = some w → Means v w
  | .array items, w, h => by
    rw [unwrap?] at h
    obtain ⟨meant, hmeant, rfl⟩ := Option.map_eq_some_iff.1 h
    exact .array (itemsMean_of_unwrapAll? hmeant)
  | .table entries, w, h => by
    rw [unwrap?] at h
    obtain ⟨meant, hmeant, rfl⟩ := Option.map_eq_some_iff.1 h
    exact means_ofWrapped (entriesMean_of_unwrapEntries? hmeant)
  | .text _, w, h | .integer _, w, h | .float _, w, h | .boolean _, w, h | .date _, w, h => by
    rw [unwrap?] at h
    cases h
    constructor

theorem itemsMean_of_unwrapAll? : ∀ {vs ws : List Toml}, unwrapAll? vs = some ws → ItemsMean vs ws
  | [], ws, h => by
    rw [unwrapAll?] at h
    exact Option.some.inj h ▸ .nil
  | v :: vs, ws, h => by
    rw [unwrapAll?] at h
    obtain ⟨w, hw, h⟩ := Option.bind_eq_some_iff.1 h
    obtain ⟨ws', hws, h⟩ := Option.bind_eq_some_iff.1 h
    exact Option.some.inj h ▸ .cons (means_of_unwrap? hw) (itemsMean_of_unwrapAll? hws)

theorem entriesMean_of_unwrapEntries? : ∀ {es ws : List (String × Toml)},
    unwrapEntries? es = some ws → EntriesMean es ws
  | [], ws, h => by
    rw [unwrapEntries?] at h
    exact Option.some.inj h ▸ .nil
  | (k, v) :: es, ws, h => by
    rw [unwrapEntries?] at h
    split at h
    · cases h
    · obtain ⟨w, hw, h⟩ := Option.bind_eq_some_iff.1 h
      obtain ⟨ws', hws, h⟩ := Option.bind_eq_some_iff.1 h
      exact Option.some.inj h ▸ .cons (means_of_unwrap? hw) (entriesMean_of_unwrapEntries? hws)

end

mutual

theorem Means.unique : ∀ {v w w' : Toml}, Means v w → Means v w' → w = w'
  | .array items, _, _, .array h, .array h' => congrArg Toml.array (h.unique h')
  | .table entries, w, w', h, h' => by
    cases h with
    | wrapped hv h =>
      cases h' with
      | wrapped hv' h' =>
        cases hv.symm.trans hv'
        exact unique_of_mem_entries (Entry.mem_of_get? hv) h h'
      | table hnone _ => cases hv.symm.trans hnone
    | table hnone h =>
      cases h' with
      | wrapped hv _ => cases hv.symm.trans hnone
      | table _ h' => exact congrArg Toml.table (h.unique h')
  | .text _, _, _, .text _, .text _ => rfl
  | .integer _, _, _, .integer _, .integer _ => rfl
  | .float _, _, _, .float _, .float _ => rfl
  | .boolean _, _, _, .boolean _, .boolean _ => rfl
  | .date _, _, _, .date _, .date _ => rfl

theorem ItemsMean.unique : ∀ {vs ws ws' : List Toml}, ItemsMean vs ws → ItemsMean vs ws' → ws = ws'
  | [], _, _, .nil, .nil => rfl
  | v :: vs, _, _, .cons h hs, .cons h' hs' => congrArg₂ List.cons (h.unique h') (hs.unique hs')

theorem EntriesMean.unique : ∀ {es ws ws' : List (String × Toml)},
    EntriesMean es ws → EntriesMean es ws' → ws = ws'
  | [], _, _, .nil, .nil => rfl
  | (k, v) :: es, _, _, .cons h hs, .cons h' hs' => by
    rw [h.unique h', hs.unique hs']

/-- A wrapped value is somewhere among the entries. -/
theorem unique_of_mem_entries : ∀ {es : List (String × Toml)} {k : String} {v w w' : Toml},
    (k, v) ∈ es → Means v w → Means v w' → w = w'
  | [], _, _, _, _, hmem, _, _ => nomatch hmem
  | (k', v') :: es, k, v, w, w', hmem, h, h' => by
    rcases List.mem_cons.1 hmem with heq | hmem
    · cases heq
      exact h.unique h'
    · exact unique_of_mem_entries hmem h h'

end

mutual

/-- A value in which no table has the value key means itself. -/
theorem means_self : ∀ {v : Toml}, ¬ HasKey "___figment_value_value" v → Means v v
  | .array items, h => by
    rw [hasKey_array_iff] at h
    exact .array (itemsMean_self fun v hv hkey => h ⟨v, hv, hkey⟩)
  | .table entries, h => by
    rw [hasKey_table_iff] at h
    have hnone : lookup? entries "___figment_value_value" = none :=
      Entry.get?_eq_none_of_notMem fun hmem => by
        obtain ⟨e, he, hkey⟩ := List.mem_map.1 hmem
        exact h ⟨e, he, .inl hkey⟩
    exact .table hnone (entriesMean_self fun e he hkey => h ⟨e, he, .inr hkey⟩)
  | .text s, _ => .text s
  | .integer n, _ => .integer n
  | .float x, _ => .float x
  | .boolean b, _ => .boolean b
  | .date written, _ => .date written

theorem itemsMean_self : ∀ {vs : List Toml}, (∀ v ∈ vs, ¬ HasKey "___figment_value_value" v) →
    ItemsMean vs vs
  | [], _ => .nil
  | v :: _, h => .cons (means_self (h v List.mem_cons_self))
    (itemsMean_self fun w hw => h w (List.mem_cons_of_mem v hw))

theorem entriesMean_self : ∀ {es : List (String × Toml)},
    (∀ e ∈ es, ¬ HasKey "___figment_value_value" e.2) → EntriesMean es es
  | [], _ => .nil
  | (k, v) :: _, h => .cons (means_self (h (k, v) List.mem_cons_self))
    (entriesMean_self fun e he => h e (List.mem_cons_of_mem (k, v) he))

end

/-! ### The top of a document -/

variable {tree : List (String × Toml)}

theorem unwrapTop?_eq_none_iff : unwrapTop? tree = none ↔ ∃ e ∈ tree, HasKey markKey e.2 := by
  unfold unwrapTop?
  induction tree with
  | nil => simp
  | cons e es ih =>
    rw [List.exists_mem_cons_iff, ← ih, ← unwrap?_eq_none_iff, List.mapM_cons]
    cases unwrap? e.2 <;> cases es.mapM fun e => (unwrap? e.2).map fun v => (e.1, v) <;> simp

theorem entriesMean_of_unwrapTop? {meant : List (String × Toml)} (h : unwrapTop? tree = some meant) :
    EntriesMean tree meant := by
  unfold unwrapTop? at h
  induction tree generalizing meant with
  | nil =>
    cases h
    exact .nil
  | cons e es ih =>
    rw [List.mapM_cons] at h
    obtain ⟨e', he, h⟩ := Option.bind_eq_some_iff.1 h
    obtain ⟨ws, hws, h⟩ := Option.bind_eq_some_iff.1 h
    obtain ⟨w, hw, rfl⟩ := Option.map_eq_some_iff.1 he
    cases h
    exact .cons (means_of_unwrap? hw) (ih hws)

/-- A document without the mark key has one meaning, and is taken for it. -/
theorem exists_unwrapTop?_eq_some (h : ∀ e ∈ tree, ¬ HasKey markKey e.2) :
    ∃ meant, unwrapTop? tree = some meant ∧ ∀ other, EntriesMean tree other ↔ other = meant := by
  have hne : unwrapTop? tree ≠ none := by
    rw [Ne, unwrapTop?_eq_none_iff]
    rintro ⟨e, he, hkey⟩
    exact h e he hkey
  obtain ⟨meant, hmeant⟩ := Option.ne_none_iff_exists'.1 hne
  have hmeans := entriesMean_of_unwrapTop? hmeant
  refine ⟨meant, hmeant, fun other => ⟨fun hother => hother.unique hmeans, ?_⟩⟩
  rintro rfl
  exact hmeans

end StreamSource.Toml
