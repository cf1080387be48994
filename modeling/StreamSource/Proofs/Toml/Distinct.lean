import Mathlib.Data.List.Nodup
import StreamSource.Proofs.NameMap
import StreamSource.Proofs.Toml.Placed

/-! Keys occur once. Every addition to a table under construction puts a key in where it is not yet
or in the place of the same key, so in the tree of a document no table, wherever it stands, has two
entries with one key. -/

namespace StreamSource.Toml

/-- In no table of a value do two entries have the same key. -/
inductive Distinct : Toml → Prop
  | text (s : String) : Distinct (.text s)
  | integer (n : Int64) : Distinct (.integer n)
  | float (x : Binary64) : Distinct (.float x)
  | boolean (b : Bool) : Distinct (.boolean b)
  | date (written : String) : Distinct (.date written)
  | array {items : List Toml} (hitems : ∀ v ∈ items, Distinct v) : Distinct (.array items)
  | table {entries : List (String × Toml)} (hkeys : (entries.map (·.1)).Nodup)
      (hvalues : ∀ e ∈ entries, Distinct e.2) : Distinct (.table entries)

/-- In no table of a node do two entries have the same key. -/
inductive Node.Distinct : Node → Prop
  | value {v : Toml} (hv : v.Distinct) : Node.Distinct (.value v)
  | table (kind : TableKind) {entries : Entries} (hkeys : (entries.map (·.1)).Nodup)
      (hnodes : ∀ e ∈ entries, Node.Distinct e.2) : Node.Distinct (.table kind entries)
  | tables {items : List Entries} (hkeys : ∀ t ∈ items, (t.map (·.1)).Nodup)
      (hnodes : ∀ t ∈ items, ∀ e ∈ t, Node.Distinct e.2) : Node.Distinct (.tables items)

namespace Entries

/-- A table under construction in which keys occur once, all through. -/
structure Distinct (t : Entries) : Prop where
  keys : (t.map (·.1)).Nodup
  nodes : ∀ e ∈ t, e.2.Distinct

variable {t s : Entries} {key : String} {n : Node}

theorem Distinct.nil : Distinct [] := ⟨List.nodup_nil, List.forall_mem_nil _⟩

theorem Distinct.of_table {kind : TableKind} (h : (Node.table kind t).Distinct) : t.Distinct := by
  cases h with
  | table _ hkeys hnodes => exact ⟨hkeys, hnodes⟩

theorem Distinct.toNode (h : t.Distinct) (kind : TableKind) : (Node.table kind t).Distinct :=
  .table kind h.keys h.nodes

theorem distinct_tables_iff {items : List Entries} :
    (Node.tables items).Distinct ↔ ∀ t ∈ items, t.Distinct := by
  constructor
  · rintro (_ | _ | ⟨hkeys, hnodes⟩) t ht
    exact ⟨hkeys t ht, hnodes t ht⟩
  · exact fun h => .tables (fun t ht => (h t ht).keys) fun t ht => (h t ht).nodes

theorem Distinct.node (h : t.Distinct) (hn : t.get? key = some n) : n.Distinct :=
  h.nodes (key, n) (Entry.mem_of_get? hn)

theorem notMem_keys (h : (t.get? key).isSome = false) : key ∉ t.map (·.1) := by
  intro hmem
  obtain ⟨e, he, rfl⟩ := List.mem_map.1 hmem
  obtain ⟨n, hn⟩ := Entry.exists_get?_of_mem he
  rw [get?, ← Entry.get?, hn] at h
  cases h

/-- Keys with one more that is new. -/
theorem Distinct.concat (h : t.Distinct) (hkey : key ∉ t.map (·.1)) (hn : n.Distinct) :
    (t ++ [(key, n)]).Distinct := by
  constructor
  · rw [List.map_append, List.nodup_append]
    refine ⟨h.keys, List.nodup_singleton _, ?_⟩
    rintro a ha b hb rfl
    obtain rfl : a = key := List.mem_singleton.1 hb
    exact hkey ha
  · intro e he
    rcases List.mem_append.1 he with he | he
    · exact h.nodes e he
    · exact List.mem_singleton.1 he ▸ hn

theorem Distinct.put (h : t.Distinct) (hn : n.Distinct) : (t.put key n).Distinct := by
  unfold Entries.put
  split
  next =>
    have hkeys : (t.map fun e => if e.1 = key then (key, n) else e).map (·.1) = t.map (·.1) := by
      rw [List.map_map]
      refine List.map_congr_left fun e _ => ?_
      simp only [Function.comp]
      split <;> simp_all
    refine ⟨hkeys ▸ h.keys, fun e he => ?_⟩
    obtain ⟨e', he', rfl⟩ := List.mem_map.1 he
    split
    · exact hn
    · exact h.nodes e' he'
  next hnone => exact h.concat (notMem_keys (Bool.not_eq_true _ ▸ hnone)) hn

theorem Distinct.concat_erase (h : t.Distinct) (hn : n.Distinct) :
    (t.erase key ++ [(key, n)]).Distinct := by
  refine Distinct.concat ⟨?_, fun e he => h.nodes e (List.mem_of_mem_filter he)⟩ ?_ hn
  · exact h.keys.sublist (List.filter_sublist.map _)
  · intro hmem
    obtain ⟨e, he, hkey⟩ := List.mem_map.1 hmem
    exact of_decide_eq_true (List.mem_filter.1 he).2 hkey

/-- Whatever is done at the end of a path, the tables on the way keep their keys apart. -/
theorem Distinct.within {fresh : TableKind} {f : TableKind → Entries → Option Entries}
    (hf : ∀ {kind s s'}, Distinct s → f kind s = some s' → Distinct s') {path : List String}
    {kind : TableKind} {t t' : Entries} (ht : t.Distinct)
    (h : Entries.within fresh kind f path t = some t') : t'.Distinct := by
  induction path generalizing kind t t' with
  | nil => exact hf ht h
  | cons k ks ih =>
    unfold Entries.within at h
    split at h
    next =>
      obtain ⟨s, hs, rfl⟩ := Option.map_eq_some_iff.1 h
      exact ht.put ((ih .nil hs).toNode fresh)
    next => cases h
    next => cases h
    next s ss hget =>
      obtain ⟨s', hs', rfl⟩ := Option.map_eq_some_iff.1 h
      have hitems := distinct_tables_iff.1 (ht.node hget)
      refine ht.put (distinct_tables_iff.2 fun u hu => ?_)
      rcases List.mem_append.1 hu with hu | hu
      · exact hitems u (List.dropLast_subset _ hu)
      · exact List.mem_singleton.1 hu ▸ ih (hitems _ (List.getLast_mem _)) hs'
    next kind' s hget =>
      obtain ⟨_, h⟩ := Option.ite_none_left_eq_some.1 h
      obtain ⟨s', hs', rfl⟩ := Option.map_eq_some_iff.1 h
      exact ht.put ((ih (.of_table (ht.node hget)) hs').toNode kind')

theorem Distinct.addValue {v : Toml} {path : List String} (ht : t.Distinct) (hv : v.Distinct)
    (h : t.addValue v path key = some s) : s.Distinct := by
  refine Distinct.within (fun {kind s s'} hs h => ?_) ht h
  obtain ⟨_, h⟩ := Option.ite_none_left_eq_some.1 h
  obtain ⟨_, h⟩ := Option.ite_none_left_eq_some.1 h
  cases h
  exact hs.put (.value hv)

variable {values : List (List String × String × Toml)}

theorem Distinct.addValues (ht : t.Distinct) (hvalues : ∀ e ∈ values, e.2.2.Distinct)
    (h : t.addValues values = some s) : s.Distinct := by
  induction values generalizing t with
  | nil =>
    cases h
    exact ht
  | cons e values ih =>
    obtain ⟨hv, hvalues⟩ := List.forall_mem_cons.1 hvalues
    obtain ⟨t', ht', h⟩ := Option.bind_eq_some_iff.1 h
    exact ih (ht.addValue hv ht') hvalues h

theorem Distinct.addTable {path : List String} (ht : t.Distinct)
    (hvalues : ∀ e ∈ values, e.2.2.Distinct) (h : t.addTable path key values = some s) :
    s.Distinct := by
  refine Distinct.within (fun {kind s s'} hs h => ?_) ht h
  have hfill {base : Entries} (hbase : base.Distinct)
      (h : ((Entries.addValues base values).bind fun filled =>
        some (s.erase key ++ [(key, .table .explicit filled)])) = some s') : s'.Distinct := by
    obtain ⟨filled, hfilled, h⟩ := Option.bind_eq_some_iff.1 h
    cases h
    exact hs.concat_erase ((hbase.addValues hvalues hfilled).toNode .explicit)
  simp only [Option.bind_eq_bind, Option.pure_def] at h
  split at h
  next => exact hfill .nil h
  next hget => exact hfill (.of_table (hs.node hget)) h
  next => cases h

theorem Distinct.addToArray {path : List String} (ht : t.Distinct)
    (hvalues : ∀ e ∈ values, e.2.2.Distinct) (h : t.addToArray path key values = some s) :
    s.Distinct := by
  refine Distinct.within (fun {kind s s'} hs h => ?_) ht h
  have hfill {earlier : List Entries} (hearlier : ∀ u ∈ earlier, u.Distinct)
      (h : ((Entries.addValues [] values).bind fun filled =>
        some (s.put key (.tables (earlier ++ [filled])))) = some s') : s'.Distinct := by
    obtain ⟨filled, hfilled, h⟩ := Option.bind_eq_some_iff.1 h
    cases h
    refine hs.put (distinct_tables_iff.2 fun u hu => ?_)
    rcases List.mem_append.1 hu with hu | hu
    · exact hearlier u hu
    · exact List.mem_singleton.1 hu ▸ Distinct.addValues .nil hvalues hfilled
  simp only [Option.bind_eq_bind, Option.pure_def] at h
  split at h
  next => exact hfill (List.forall_mem_nil _) h
  next hget => exact hfill (distinct_tables_iff.1 (hs.node hget)) h
  next => cases h

/-! ### Finished tables -/

theorem toToml_eq_map (t : Entries) : Entries.toToml t = t.map fun e => (e.1, e.2.toToml) := by
  induction t with
  | nil => rw [Entries.toToml, List.map_nil]
  | cons e t ih => rw [Entries.toToml, ih, List.map_cons]

theorem allToToml_eq_map (items : List Entries) :
    Entries.allToToml items = items.map fun t => .table (Entries.toToml t) := by
  induction items with
  | nil => rw [Entries.allToToml, List.map_nil]
  | cons t items ih => rw [Entries.allToToml, ih, List.map_cons]

theorem map_fst_toToml (t : Entries) : (Entries.toToml t).map (·.1) = t.map (·.1) := by
  rw [toToml_eq_map, List.map_map]
  rfl

end Entries

theorem Node.Distinct.toToml {n : Node} (h : n.Distinct) : n.toToml.Distinct := by
  have htable {t : Entries} (hkeys : (t.map (·.1)).Nodup)
      (hnodes : ∀ e ∈ t, e.2.toToml.Distinct) : (Toml.table (Entries.toToml t)).Distinct := by
    refine .table (Entries.map_fst_toToml t ▸ hkeys) fun e he => ?_
    rw [Entries.toToml_eq_map] at he
    obtain ⟨e', he', rfl⟩ := List.mem_map.1 he
    exact hnodes e' he'
  induction h with
  | value hv => exact hv
  | table kind hkeys _ ih => exact htable hkeys ih
  | tables hkeys _ ih =>
    rw [Node.toToml, Entries.allToToml_eq_map]
    refine .array fun v hv => ?_
    obtain ⟨t, ht, rfl⟩ := List.mem_map.1 hv
    exact htable (hkeys t ht) (ih t ht)

/-! ### Values -/

theorem distinct_of_word? {cs : List Char} {v : Toml} (h : word? cs = some v) : v.Distinct := by
  unfold word? at h
  split at h
  next =>
    cases h
    exact .boolean true
  next =>
    split at h
    next =>
      cases h
      exact .boolean false
    next =>
      simp only [Option.orElse_eq_orElse, Option.orElse_eq_or, Option.or_eq_some_iff,
        Option.map_eq_some_iff] at h
      rcases h with ⟨_, _, rfl⟩ | ⟨_, ⟨_, _, rfl⟩ | ⟨_, ⟨_, _, rfl⟩ | ⟨_, _, _, rfl⟩⟩⟩
      · exact .date _
      · exact .float _
      · exact .float _
      · exact .integer _

theorem distinct_of_scalar? {cs r : List Char} {v : Toml} (h : scalar? cs = some (v, r)) :
    v.Distinct := by
  simp only [scalar?, Option.orElse_eq_orElse, Option.orElse_eq_or, Option.or_eq_some_iff] at h
  rcases h with h | ⟨_, h⟩
  · split at h
    next =>
      obtain ⟨_, h⟩ := Option.ite_none_right_eq_some.1 h
      obtain ⟨_, _, heq⟩ := Option.map_eq_some_iff.1 h
      cases heq
      exact .date _
    next => cases h
  · obtain ⟨_, hword, heq⟩ := Option.map_eq_some_iff.1 h
    cases heq
    exact distinct_of_word? hword

/-- The readers of values keep keys apart with so much fuel. -/
structure ReadDistinct (fuel : Nat) : Prop where
  value {depth : Nat} {cs r : List Char} {v : Toml} (h : value? fuel depth cs = some (v, r)) :
    v.Distinct
  items {depth : Nat} {cs r : List Char} {vs : List Toml}
    (h : items? fuel depth cs = some (vs, r)) : ∀ v ∈ vs, v.Distinct
  pairs {depth : Nat} {cs r : List Char} {es : List (List String × String × Toml)}
    (h : pairs? fuel depth cs = some (es, r)) : ∀ e ∈ es, e.2.2.Distinct

namespace ReadDistinct

variable {fuel depth : Nat} {cs r : List Char}

theorem value_succ (ih : ReadDistinct fuel) {v : Toml}
    (h : value? (fuel + 1) depth cs = some (v, r)) : v.Distinct := by
  unfold value? at h
  split at h
  next =>
    obtain ⟨_, _, heq⟩ := Option.map_eq_some_iff.1 h
    cases heq
    exact .text _
  next =>
    obtain ⟨_, _, heq⟩ := Option.map_eq_some_iff.1 h
    cases heq
    exact .text _
  next =>
    obtain ⟨_, h⟩ := Option.ite_none_left_eq_some.1 h
    obtain ⟨_, hitems, heq⟩ := Option.map_eq_some_iff.1 h
    cases heq
    exact .array (ih.items hitems)
  next =>
    obtain ⟨_, h⟩ := Option.ite_none_left_eq_some.1 h
    split at h
    next =>
      cases h
      exact .table List.nodup_nil (List.forall_mem_nil _)
    next =>
      simp only [Option.bind_eq_bind, Option.bind_eq_some_iff, Prod.exists, Option.pure_def,
        Option.some.injEq, Prod.mk.injEq] at h
      obtain ⟨_, _, hpairs, t, ht, rfl, _⟩ := h
      have htable := Entries.Distinct.addValues .nil (ih.pairs hpairs) ht
      exact (htable.toNode .explicit).toToml
  next => exact distinct_of_scalar? h

theorem items_succ (ih : ReadDistinct fuel) {vs : List Toml}
    (h : items? (fuel + 1) depth cs = some (vs, r)) : ∀ v ∈ vs, v.Distinct := by
  unfold items? at h
  split at h
  next =>
    cases h
    exact List.forall_mem_nil _
  next =>
    simp only [Option.bind_eq_bind, Option.bind_eq_some_iff, Prod.exists] at h
    obtain ⟨v, r', hvalue, h⟩ := h
    split at h
    next =>
      cases h
      exact List.forall_mem_singleton.2 (ih.value hvalue)
    next =>
      simp only [Option.bind_eq_some_iff, Prod.exists, Option.pure_def, Option.some.injEq,
        Prod.mk.injEq] at h
      obtain ⟨_, _, hitems, rfl, _⟩ := h
      exact List.forall_mem_cons.2 ⟨ih.value hvalue, ih.items hitems⟩
    next => cases h

theorem pairs_succ (ih : ReadDistinct fuel) {es : List (List String × String × Toml)}
    (h : pairs? (fuel + 1) depth cs = some (es, r)) : ∀ e ∈ es, e.2.2.Distinct := by
  simp only [pairs?, Option.bind_eq_bind, Option.bind_eq_some_iff, Prod.exists] at h
  obtain ⟨path, key, r', _, h⟩ := h
  split at h
  next =>
    simp only [Option.bind_eq_some_iff, Prod.exists] at h
    obtain ⟨v, r₂, hvalue, h⟩ := h
    split at h
    next =>
      cases h
      exact List.forall_mem_singleton.2 (ih.value hvalue)
    next =>
      simp only [Option.bind_eq_some_iff, Prod.exists, Option.pure_def, Option.some.injEq,
        Prod.mk.injEq] at h
      obtain ⟨_, _, hpairs, rfl, _⟩ := h
      exact List.forall_mem_cons.2 ⟨ih.value hvalue, ih.pairs hpairs⟩
    next => cases h
  next => cases h

end ReadDistinct

theorem readDistinct (fuel : Nat) : ReadDistinct fuel := by
  induction fuel with
  | zero => constructor <;> intros <;> simp_all [value?, items?, pairs?]
  | succ fuel ih => exact ⟨ih.value_succ, ih.items_succ, ih.pairs_succ⟩

/-! ### Documents -/

/-- In the value that a line gives keys occur once. -/
def Line.Distinct : Line → Prop
  | .entry _ _ v => v.Distinct
  | .header .. => True
  | .arrayHeader .. => True

theorem distinct_of_headerLine? {cs r : List Char} {l : Line}
    (h : headerLine? cs = some (l, r)) : l.Distinct := by
  unfold headerLine? at h
  split at h
  all_goals
    simp only [Option.bind_eq_bind, Option.bind_eq_some_iff, Prod.exists] at h
    obtain ⟨path, key, r', _, h⟩ := h
    split at h
    next =>
      simp only [Option.bind_eq_some_iff, Option.pure_def, Option.some.injEq, Prod.mk.injEq] at h
      obtain ⟨_, _, rfl, _⟩ := h
      trivial
    next => cases h

theorem distinct_of_entryLine? {fuel : Nat} {cs r : List Char} {l : Line}
    (h : entryLine? fuel cs = some (l, r)) : l.Distinct := by
  simp only [entryLine?, Option.bind_eq_bind, Option.bind_eq_some_iff, Prod.exists] at h
  obtain ⟨path, key, r', _, h⟩ := h
  split at h
  next =>
    simp only [Option.bind_eq_some_iff, Prod.exists, Option.pure_def, Option.some.injEq,
      Prod.mk.injEq] at h
    obtain ⟨v, _, hvalue, _, _, rfl, _⟩ := h
    exact (readDistinct fuel).value hvalue
  next => cases h

theorem Placed.Reads.distinct {p : Placed} (h : p.Reads) : p.line.Distinct := by
  cases h with
  | header r htext hread => exact distinct_of_headerLine? hread
  | entry fuel hread => exact distinct_of_entryLine? hread

theorem distinct_leading {ls : List Line} (h : ∀ l ∈ ls, l.Distinct) :
    (∀ e ∈ (leading ls).1, e.2.2.Distinct) ∧ ∀ l ∈ (leading ls).2, l.Distinct := by
  fun_induction leading ls with
  | case1 path key v ls vs rest hleading ih =>
    obtain ⟨hv, hls⟩ := List.forall_mem_cons.1 h
    rw [hleading] at ih
    exact ⟨List.forall_mem_cons.2 ⟨hv, (ih hls).1⟩, (ih hls).2⟩
  | case2 ls => exact ⟨List.forall_mem_nil _, h⟩

theorem distinct_assemble {ls : List Line} {t s : Entries} (ht : t.Distinct)
    (hls : ∀ l ∈ ls, l.Distinct) (h : assemble t ls = some s) : s.Distinct := by
  fun_induction assemble t ls with
  | case1 t =>
    cases h
    exact ht
  | case2 t path key ls ih =>
    obtain ⟨hvalues, hrest⟩ := distinct_leading (List.forall_mem_cons.1 hls).2
    obtain ⟨t', ht', h⟩ := Option.bind_eq_some_iff.1 h
    exact ih t' (ht.addTable hvalues ht') hrest h
  | case3 t path key ls ih =>
    obtain ⟨hvalues, hrest⟩ := distinct_leading (List.forall_mem_cons.1 hls).2
    obtain ⟨t', ht', h⟩ := Option.bind_eq_some_iff.1 h
    exact ih t' (ht.addToArray hvalues ht') hrest h
  | case4 t path key v ls ih =>
    obtain ⟨hv, hrest⟩ := List.forall_mem_cons.1 hls
    obtain ⟨t', ht', h⟩ := Option.bind_eq_some_iff.1 h
    exact ih t' (ht.addValue hv ht') hrest h

/-- In the tree of a document keys occur once. -/
theorem distinct_of_read? {s : String} {tree : List (String × Toml)} (h : read? s = some tree) :
    (Toml.table tree).Distinct := by
  rw [read?_eq_assemble] at h
  obtain ⟨t, ht, rfl⟩ := Option.map_eq_some_iff.1 h
  obtain ⟨ps, hps, hassemble⟩ := Option.bind_eq_some_iff.1 ht
  obtain ⟨cs, _, horder⟩ := inOrder_of_placedLines? hps
  have hlines : ∀ l ∈ ps.map Placed.line, l.Distinct := by
    intro l hl
    obtain ⟨p, hp, rfl⟩ := List.mem_map.1 hl
    exact (horder.reads p hp).distinct
  exact ((distinct_assemble .nil hlines hassemble).toNode .explicit).toToml

theorem Distinct.nodup_keys {entries : List (String × Toml)} (h : (Toml.table entries).Distinct) :
    (entries.map (·.1)).Nodup := by
  cases h with
  | table hkeys _ => exact hkeys

theorem Distinct.of_lookup? {entries : List (String × Toml)} (h : (Toml.table entries).Distinct)
    {key : String} {v : Toml} (hv : lookup? entries key = some v) : v.Distinct := by
  cases h with
  | table _ hvalues => exact hvalues (key, v) (Entry.mem_of_get? hv)

end StreamSource.Toml
