import Mathlib.Data.List.Dedup
import StreamSource.Proofs.Registry.Changes
import StreamSource.Proofs.Text.ByteOrder

/-! What a registry lists after a run. Of each name that was registered there is one entry, from
the last registration; the entries are listed in the order of the bytes of their names, in
whatever order a store would give them out. Registrations of distinct names can be made in
any order, and nothing shows which it was. -/

namespace StreamSource.Registry

variable {σ : Type}

namespace Change

def registration? : Change σ → Option (Registration σ)
  | .register g => some g
  | .setEnabled _ _ => none
  | .refresh _ => none

end Change

/-! ### The order of registrations -/

theorem changed_register_comm (r : Registry σ) {g g' : Registration σ}
    (hne : g.manifest.name ≠ g'.manifest.name) :
    (r.changed (.register g)).changed (.register g') =
      (r.changed (.register g')).changed (.register g) := by
  refine ext_get? fun name => ?_
  simp only [get?_changed_register]
  by_cases hg : g.manifest.name = name
  · rw [if_pos hg, if_pos hg, if_neg fun hg' => hne (hg.trans hg'.symm)]
  · rw [if_neg hg, if_neg hg]

theorem after_register_of_perm (r : Registry σ) {regs regs' : List (Registration σ)}
    (hperm : regs.Perm regs') (hnodup : (regs.map (·.manifest.name)).Nodup) :
    r.after (regs.map .register) = r.after (regs'.map .register) := by
  unfold after
  rw [List.foldl_map, List.foldl_map]
  refine hperm.foldl_eq' (fun g hg g' hg' r => ?_) r
  by_cases hname : g.manifest.name = g'.manifest.name
  · rw [List.inj_on_of_nodup_map hnodup hg hg' hname]
  · exact r.changed_register_comm hname

/-! ### What the entries come from -/

/-- The last registration of a name in a run. -/
def latest? (cs : List (Change σ)) (name : String) : Option (Registration σ) :=
  (cs.filterMap Change.registration?).reverse.find? fun g => g.manifest.name = name

theorem latest?_cons (c : Change σ) (cs : List (Change σ)) (name : String) :
    latest? (c :: cs) name =
      (latest? cs name).or (c.registration?.filter fun g => g.manifest.name = name) := by
  unfold latest?
  rw [List.filterMap_cons]
  cases c.registration? with
  | none => exact (Option.or_none ..).symm
  | some g =>
    rw [List.reverse_cons, List.find?_append, List.find?_singleton, Option.filter_some]

/-- The manifest and the factory of the entry of a name. -/
def built? (r : Registry σ) (name : String) : Option (PluginManifest × Option (PluginFactory σ)) :=
  (r.get? name).map fun e => (e.manifest, e.factory)

theorem built?_changed (r : Registry σ) (c : Change σ) (name : String) :
    (r.changed c).built? name =
      ((c.registration?.filter fun g => g.manifest.name = name).map
        fun g => (g.entry.manifest, g.entry.factory)).or (r.built? name) := by
  unfold built?
  cases c with
  | register g =>
    rw [get?_changed_register, Change.registration?, Option.filter_some]
    by_cases hname : g.manifest.name = name <;> simp [hname]
  | setEnabled k on =>
    rw [get?_changed_setEnabled, Option.map_map]
    refine congrArg (Option.map · _) (funext fun e => ?_)
    by_cases hk : k = name <;> simp [hk]
  | refresh ps =>
    rw [get?_changed_refresh, Option.map_map]
    rfl

/-- Only registrations say what there is to build, and of each name the last one does. -/
theorem built?_after (r : Registry σ) (cs : List (Change σ)) (name : String) :
    (r.after cs).built? name =
      ((latest? cs name).map fun g => (g.entry.manifest, g.entry.factory)).or (r.built? name) := by
  induction cs generalizing r with
  | nil => rfl
  | cons c cs ih =>
    rw [after_cons, ih, built?_changed, ← Option.or_assoc, ← Option.map_or, latest?_cons]

theorem isSome_get?_after (cs : List (Change σ)) (name : String) :
    (((empty : Registry σ).after cs).get? name).isSome = true ↔
      name ∈ (cs.filterMap Change.registration?).map (·.manifest.name) := by
  have hisSome := congrArg Option.isSome ((empty : Registry σ).built?_after cs name)
  rw [built?, Option.isSome_map, built?, get?_empty, Option.map_none, Option.or_none,
    Option.isSome_map] at hisSome
  rw [hisSome, latest?, List.find?_isSome]
  simp only [List.mem_reverse, List.mem_map, decide_eq_true_eq]

/-! ### Lists of entries -/

theorem WellFormed.mem_names_iff {r : Registry σ} (hr : WellFormed r) {name : String} :
    name ∈ r.list.map (·.manifest.name) ↔ (r.get? name).isSome = true := by
  rw [List.mem_map, Option.isSome_iff_exists]
  constructor
  · rintro ⟨e, he, rfl⟩
    exact ⟨e, hr.get?_of_mem he⟩
  · rintro ⟨e, he⟩
    exact ⟨e, mem_list_iff.2 ⟨name, he⟩, hr.name_eq he⟩

theorem WellFormed.nodup_names {r : Registry σ} (hr : WellFormed r) :
    (r.list.map (·.manifest.name)).Nodup :=
  List.pairwise_map.2 (hr.pairwise_list.imp fun hlt => String.ne_of_lt hlt)

/-- Entries in the order of their names. -/
def sortedByName (es : List (PluginEntry σ)) : List (PluginEntry σ) :=
  es.mergeSort fun a b => a.manifest.name ≤ b.manifest.name

theorem pairwise_sortedByName (es : List (PluginEntry σ)) :
    (sortedByName es).Pairwise fun a b => a.manifest.name ≤ b.manifest.name := by
  unfold sortedByName
  refine (List.pairwise_mergeSort (fun a b c hab hbc => ?_) (fun a b => ?_) es).imp
    fun hle => of_decide_eq_true hle
  · simp only [decide_eq_true_eq] at hab hbc ⊢
    exact String.le_trans hab hbc
  · simp only [Bool.or_eq_true, decide_eq_true_eq]
    exact String.le_total a.manifest.name b.manifest.name

/-- Sorting finds the list of the entries in which the names ascend strictly. -/
theorem sortedByName_eq {es fs : List (PluginEntry σ)} (hperm : es.Perm fs)
    (hfs : fs.Pairwise fun a b => a.manifest.name < b.manifest.name) : sortedByName es = fs := by
  have hnodup : (fs.map (·.manifest.name)).Nodup :=
    List.pairwise_map.2 (hfs.imp fun hlt => String.ne_of_lt hlt)
  have hperm' : (sortedByName es).Perm fs := (List.mergeSort_perm es _).trans hperm
  refine hperm'.eq_of_pairwise (fun a b ha hb hab hba => ?_) (pairwise_sortedByName es)
    (hfs.imp fun hlt => String.not_lt.1 (String.lt_asymm hlt))
  exact List.inj_on_of_nodup_map hnodup (hperm'.mem_iff.1 ha) hb (String.le_antisymm hab hba)

theorem WellFormed.names_perm {r : Registry σ} (hr : WellFormed r) {names : List String}
    (hnodup : names.Nodup) (hnames : ∀ n, n ∈ names ↔ (r.get? n).isSome = true) :
    names.Perm (r.list.map (·.manifest.name)) := by
  refine (List.perm_ext_iff_of_nodup hnodup hr.nodup_names).2 fun n => ?_
  rw [hnames, hr.mem_names_iff]

/-- The names of a well-formed registry, gone through in any order, give out its entries. -/
theorem WellFormed.filterMap_get?_perm {r : Registry σ} (hr : WellFormed r) {names : List String}
    (hnodup : names.Nodup) (hnames : ∀ n, n ∈ names ↔ (r.get? n).isSome = true) :
    (names.filterMap r.get?).Perm r.list := by
  have hfilterMap : (r.list.map (·.manifest.name)).filterMap r.get? = r.list := by
    rw [List.filterMap_map]
    refine (List.filterMap_congr fun e he => ?_).trans (List.filterMap_some ..)
    exact hr.get?_of_mem he
  rw [← hfilterMap]
  exact (hr.names_perm hnodup hnames).filterMap r.get?

/-! ### Listings -/

/-- What a registry lists after a run. The last three fields say that the lists are in the
order of the names: there is one entry for each name that was registered, and a store
that gives out its entries in any order has them sorted to just these lists. -/
structure Lists (r : Registry σ) (cs : List (Change σ)) : Prop where
  name_eq : ∀ {name e}, r.get? name = some e → e.manifest.name = name
  kind_eq : ∀ {name e f}, r.get? name = some e → e.factory = some f → f.kind = e.manifest.kind
  replaced : ∀ (g : Registration σ) name, (r.changed (.register g)).get? name =
    if g.manifest.name = name then some g.entry else r.get? name
  latest : ∀ name, r.built? name =
    (latest? cs name).map fun g => (g.entry.manifest, g.entry.factory)
  mem_enabled_iff : ∀ kind e, e ∈ r.enabled kind ↔
    e ∈ r.list ∧ e.status = .enabled ∧ e.manifest.kind = kind
  enabled_sublist : ∀ kind, (r.enabled kind).Sublist r.list
  ascending : r.list.Pairwise fun a b => Text.utf8 a.manifest.name < Text.utf8 b.manifest.name
  names_perm : (r.list.map (·.manifest.name)).Perm
    ((cs.filterMap Change.registration?).map (·.manifest.name)).dedup
  sorted_eq : ∀ names : List String, names.Nodup →
    (∀ n, n ∈ names ↔ (r.get? n).isSome = true) →
      sortedByName (names.filterMap r.get?) = r.list ∧
      (∀ kind, sortedByName ((names.filterMap r.get?).filter fun e =>
        e.status = .enabled ∧ e.manifest.kind = kind) = r.enabled kind) ∧
      names.length = r.size

theorem lists_after (cs : List (Change σ)) : Lists ((empty : Registry σ).after cs) cs := by
  have hr : WellFormed ((empty : Registry σ).after cs) := wellFormed_after cs
  refine ⟨hr.name_eq, hr.kind_eq, fun g => get?_changed_register _ g, fun name => ?_,
    fun kind e => ?_, fun kind => List.filter_sublist, hr.pairwise_list.imp Text.lt_iff_utf8_lt.1,
    ?_, fun names hnodup hnames => ?_⟩
  · rw [built?_after]
    exact Option.or_none ..
  · simp only [enabled, List.mem_filter, decide_eq_true_eq]
  · refine (List.perm_ext_iff_of_nodup hr.nodup_names (List.nodup_dedup _)).2 fun name => ?_
    rw [hr.mem_names_iff, isSome_get?_after, List.mem_dedup]
  · have hperm := hr.filterMap_get?_perm hnodup hnames
    refine ⟨sortedByName_eq hperm hr.pairwise_list, fun kind => ?_, ?_⟩
    · exact sortedByName_eq (hperm.filter _) (hr.pairwise_list.filter _)
    · have hnames := hr.names_perm hnodup hnames
      rw [hnames.length_eq, List.length_map]
      rfl

/-- Registrations of distinct names give the same registry in any order, whatever calls are
made after them: everything that it lists, builds and detects is the same. After any run, a
registry lists the entries of the last registrations in the order of their names. -/
theorem same_after_perm_and_lists_after :
    (∀ (regs regs' : List (Registration σ)) (cs : List (Change σ)), regs.Perm regs' →
      (regs.map (·.manifest.name)).Nodup →
        let r := (empty : Registry σ).after (regs.map .register ++ cs)
        let r' := (empty : Registry σ).after (regs'.map .register ++ cs)
        r.list = r'.list ∧ (∀ kind, r.enabled kind = r'.enabled kind) ∧ r.size = r'.size ∧
          (∀ ps, r.createProtocols ps = r'.createProtocols ps) ∧
          ∀ ps h, r.detect ps h = r'.detect ps h) ∧
    ∀ cs : List (Change σ), Lists ((empty : Registry σ).after cs) cs := by
  refine ⟨fun regs regs' cs hperm hnodup => ?_, lists_after⟩
  simp only [after_append]
  rw [after_register_of_perm empty hperm hnodup]
  exact ⟨rfl, fun _ => rfl, rfl, fun _ => rfl, fun _ _ => rfl⟩

/-- Three plugins, not in the order of their names. -/
def shelf : List (Registration Unit) :=
  [{ manifest := { name := "udp", version := "0.1.0", description := "", kind := .protocol } },
    { manifest := { name := "f4m", version := "0.1.0", description := "", kind := .parser } },
    { manifest := { name := "mshs", version := "0.1.0", description := "", kind := .protocol },
      status := .disabled }]

theorem list_of_shelf_reversed :
    let cs : List (Change Unit) := [.setEnabled "udp" false, .setEnabled "rtmp" true]
    let r := (empty : Registry Unit).after (shelf.reverse.map .register ++ cs)
    let r' := (empty : Registry Unit).after (shelf.map .register ++ cs)
    shelf.reverse.Perm shelf ∧ (shelf.reverse.map (·.manifest.name)).Nodup ∧ r.list = r'.list ∧
      r.list.map (·.manifest.name) = ["f4m", "mshs", "udp"] ∧
      (r'.enabled .parser).map (·.manifest.name) = ["f4m"] := by
  intro cs r r'
  have hperm : shelf.reverse.Perm shelf := shelf.reverse_perm
  have hnodup : (shelf.reverse.map (·.manifest.name)).Nodup := by decide
  exact ⟨hperm, hnodup,
    (same_after_perm_and_lists_after.1 shelf.reverse shelf cs hperm hnodup).1, rfl, rfl⟩

end StreamSource.Registry
