import Mathlib.Data.List.Nodup
import StreamSource.NameMap

/-! Look-ups in a map from names. An insertion changes what is found under its own name
and nothing else, and since the names ascend, the entries are just what look-ups find. The
search for a value with some property finds that of the least name. -/

namespace StreamSource

variable {α β : Type}

/-- A search in a strictly ordered list finds the least element with the property. -/
theorem find?_eq_some_iff_least {R : α → α → Prop} (hasymm : ∀ a b, R a b → ¬ R b a)
    {as : List α} (has : as.Pairwise R) {P : α → Bool} {a : α} :
    as.find? P = some a ↔ a ∈ as ∧ P a = true ∧ ∀ b ∈ as, P b = true → b ≠ a → R a b := by
  induction as with
  | nil => simp
  | cons c as ih =>
    obtain ⟨hc, has⟩ := List.pairwise_cons.1 has
    rw [List.find?_cons]
    by_cases hP : P c = true
    · rw [hP]
      constructor
      · intro h
        cases h
        refine ⟨List.mem_cons_self, hP, fun b hb _ hne => ?_⟩
        exact hc b ((List.mem_cons.1 hb).resolve_left hne)
      · rintro ⟨hmem, -, hleast⟩
        rcases List.mem_cons.1 hmem with rfl | hmem
        · rfl
        · refine congrArg some (Classical.byContradiction fun hne => ?_)
          exact hasymm c a (hc a hmem) (hleast c List.mem_cons_self hP hne)
    · simp only [Bool.not_eq_true] at hP
      rw [hP, ih has]
      constructor
      · rintro ⟨hmem, hPa, hleast⟩
        refine ⟨List.mem_cons_of_mem c hmem, hPa, fun b hb hPb hne => ?_⟩
        rcases List.mem_cons.1 hb with rfl | hb
        · rw [hP] at hPb
          cases hPb
        · exact hleast b hb hPb hne
      · rintro ⟨hmem, hPa, hleast⟩
        rcases List.mem_cons.1 hmem with rfl | hmem
        · rw [hP] at hPa
          cases hPa
        · exact ⟨hmem, hPa, fun b hb => hleast b (List.mem_cons_of_mem c hb)⟩

/-- A strict order leaves only one way to list given elements. -/
theorem eq_of_pairwise_of_mem_iff {R : α → α → Prop} (hasymm : ∀ a b, R a b → ¬ R b a)
    {as bs : List α} (has : as.Pairwise R) (hbs : bs.Pairwise R) (hmem : ∀ a, a ∈ as ↔ a ∈ bs) :
    as = bs := by
  have hnodup {cs : List α} (hcs : cs.Pairwise R) : cs.Nodup := by
    refine hcs.imp fun {a b} hab heq => ?_
    rw [heq] at hab
    exact hasymm b b hab hab
  have hperm : as.Perm bs := (List.perm_ext_iff_of_nodup (hnodup has) (hnodup hbs)).2 hmem
  exact hperm.eq_of_pairwise (fun a b _ _ hab hba => absurd hba (hasymm a b hab)) has hbs

namespace Entry

theorem get?_cons (e : String × α) (es : List (String × α)) (name : String) :
    get? (e :: es) name = if e.1 = name then some e.2 else get? es name := by
  unfold get?
  by_cases h : e.1 = name <;> simp [h]

theorem get?_insert (es : List (String × α)) (name : String) (v : α) (k : String) :
    get? (insert es name v) k = if name = k then some v else get? es k := by
  induction es with
  | nil => rw [insert, get?_cons]
  | cons e es ih =>
    rw [insert]
    split
    · rw [get?_cons]
    · split
      · rename_i heq
        rw [get?_cons, get?_cons, ← heq]
        by_cases hk : name = k <;> simp [hk]
      · rename_i hne
        rw [get?_cons, get?_cons, ih]
        by_cases hk : name = k
        · simp [← hk, Ne.symm hne]
        · simp [hk]

theorem insert_insert_self (es : List (String × α)) (name : String) (v w : α) :
    insert (insert es name v) name w = insert es name w := by
  induction es with
  | nil => simp [insert]
  | cons e es ih =>
    by_cases hlt : name < e.1
    · simp [insert, hlt]
    · by_cases heq : name = e.1
      · simp [insert, heq]
      · simp [insert, hlt, heq, ih]

/-- It does not show which of two names was put in first. -/
theorem insert_comm {a b : String} (hne : a ≠ b) (es : List (String × α)) (v w : α) :
    insert (insert es a v) b w = insert (insert es b w) a v := by
  induction es with
  | nil => grind [insert]
  | cons e es ih => grind [insert]

theorem mem_of_get? {es : List (String × α)} {name : String} {v : α}
    (h : get? es name = some v) : (name, v) ∈ es := by
  obtain ⟨e, he, rfl⟩ := Option.map_eq_some_iff.1 h
  have hname : e.1 = name := by simpa using List.find?_some he
  exact hname ▸ List.mem_of_find?_eq_some he

theorem exists_get?_of_mem {es : List (String × α)} {e : String × α} (he : e ∈ es) :
    ∃ v, get? es e.1 = some v := by
  refine Option.isSome_iff_exists.1 ?_
  unfold get?
  rw [Option.isSome_map, List.find?_isSome]
  exact ⟨e, he, decide_eq_true rfl⟩

theorem get?_eq_none_of_notMem {es : List (String × α)} {name : String}
    (h : name ∉ es.map (·.1)) : get? es name = none := by
  unfold get?
  rw [Option.map_eq_none_iff, List.find?_eq_none]
  intro e he heq
  exact h (List.mem_map.2 ⟨e, he, of_decide_eq_true heq⟩)

/-- Where no name stands twice, an entry is found with what becomes of its value, if anything. -/
theorem get?_filterMap (f : α → Option β) {es : List (String × α)} (h : (es.map (·.1)).Nodup)
    (name : String) :
    get? (es.filterMap fun e => (f e.2).map fun v => (e.1, v)) name = (get? es name).bind f := by
  induction es with
  | nil => rfl
  | cons e es ih =>
    obtain ⟨he, hes⟩ := List.nodup_cons.1 h
    rw [get?_cons, List.filterMap_cons]
    by_cases hname : e.1 = name
    · rw [if_pos hname, Option.bind_some]
      cases hf : f e.2 with
      | none =>
        rw [Option.map_none, ih hes, get?_eq_none_of_notMem (hname ▸ he), Option.bind_none]
      | some v => rw [Option.map_some, get?_cons, if_pos hname]
    · rw [if_neg hname]
      cases hf : f e.2 with
      | none => rw [Option.map_none, ih hes]
      | some v => rw [Option.map_some, get?_cons, if_neg hname, ih hes]

/-- What becomes of some values stands under names among theirs, in their order. -/
theorem sublist_map_fst_filterMap (f : α → Option β) (es : List (String × α)) :
    ((es.filterMap fun e => (f e.2).map fun v => (e.1, v)).map (·.1)).Sublist (es.map (·.1)) := by
  induction es with
  | nil => exact .slnil
  | cons e es ih =>
    rw [List.filterMap_cons, List.map_cons]
    cases f e.2 with
    | none => exact ih.cons e.1
    | some v => exact ih.cons_cons e.1

theorem nodup_of_ascending {es : List (String × α)} (hes : Ascending es) :
    (es.map (·.1)).Nodup := by
  have hnames : (es.map (·.1)).Pairwise (· < ·) := List.pairwise_map.2 hes
  refine hnames.imp fun {a b} hlt heq => ?_
  exact String.lt_irrefl b (heq ▸ hlt)

theorem get?_eq_some_iff_of_nodup {es : List (String × α)} (hes : (es.map (·.1)).Nodup)
    {name : String} {v : α} : get? es name = some v ↔ (name, v) ∈ es := by
  refine ⟨mem_of_get?, fun hmem => ?_⟩
  induction es with
  | nil => cases hmem
  | cons e es ih =>
    obtain ⟨he, hes⟩ := List.nodup_cons.1 hes
    rw [get?_cons]
    rcases List.mem_cons.1 hmem with rfl | hmem
    · exact if_pos rfl
    · have hne : e.1 ≠ name := fun heq => he (List.mem_map.2 ⟨(name, v), hmem, heq.symm⟩)
      rw [if_neg hne]
      exact ih hes hmem

theorem get?_eq_some_iff {es : List (String × α)} (hes : Ascending es) {name : String} {v : α} :
    get? es name = some v ↔ (name, v) ∈ es :=
  get?_eq_some_iff_of_nodup (nodup_of_ascending hes)

end Entry

namespace NameMap

@[simp] theorem get?_empty (name : String) : (empty : NameMap α).get? name = none := rfl

theorem get?_insert (m : NameMap α) (name : String) (v : α) (k : String) :
    (m.insert name v).get? k = if name = k then some v else m.get? k :=
  Entry.get?_insert m.entries name v k

theorem get?_map (m : NameMap α) (f : α → β) (name : String) :
    (m.map f).get? name = (m.get? name).map f := by
  unfold get? map Entry.get?
  rw [List.find?_map, Option.map_map, Option.map_map]
  rfl

theorem get?_eq_some_iff {m : NameMap α} {name : String} {v : α} :
    m.get? name = some v ↔ (name, v) ∈ m.entries :=
  Entry.get?_eq_some_iff m.ascending

theorem get?_foldl_insert {es : List (String × α)} (hes : (es.map (·.1)).Nodup) (m : NameMap α)
    (name : String) :
    (es.foldl (fun m e => m.insert e.1 e.2) m).get? name =
      (Entry.get? es name).or (m.get? name) := by
  induction es generalizing m with
  | nil => rfl
  | cons e es ih =>
    obtain ⟨he, hes⟩ := List.nodup_cons.1 hes
    rw [List.foldl_cons, ih hes, get?_insert, Entry.get?_cons]
    by_cases hname : e.1 = name
    · rw [if_pos hname, if_pos hname, Entry.get?_eq_none_of_notMem (hname ▸ he)]
      rfl
    · rw [if_neg hname, if_neg hname]

theorem get?_ofList {es : List (String × α)} (hes : (es.map (·.1)).Nodup) (name : String) :
    (ofList es).get? name = Entry.get? es name := by
  rw [ofList, get?_foldl_insert hes, get?_empty, Option.or_none]

theorem pairwise_names (m : NameMap α) : m.names.Pairwise (· < ·) :=
  List.pairwise_map.2 m.ascending

theorem nodup_names (m : NameMap α) : m.names.Nodup := Entry.nodup_of_ascending m.ascending

/-- Maps in which the same is found under every name are equal. -/
theorem ext_get? {m m' : NameMap α} (h : ∀ name, m.get? name = m'.get? name) : m = m' := by
  have hmem : ∀ e, e ∈ m.entries ↔ e ∈ m'.entries := fun (name, v) => by
    rw [← get?_eq_some_iff, ← get?_eq_some_iff, h]
  have hentries : m.entries = m'.entries :=
    eq_of_pairwise_of_mem_iff (fun _ _ => String.lt_asymm) m.ascending m'.ascending hmem
  cases m
  cases m'
  cases hentries
  rfl

theorem mem_names_iff {m : NameMap α} {name : String} :
    name ∈ m.names ↔ (m.get? name).isSome = true := by
  rw [names, List.mem_map, Option.isSome_iff_exists]
  constructor
  · rintro ⟨⟨name, v⟩, hmem, rfl⟩
    exact ⟨v, get?_eq_some_iff.2 hmem⟩
  · rintro ⟨v, h⟩
    exact ⟨(name, v), get?_eq_some_iff.1 h, rfl⟩

theorem mem_values_iff {m : NameMap α} {v : α} : v ∈ m.values ↔ ∃ name, m.get? name = some v := by
  rw [values, List.mem_map]
  constructor
  · rintro ⟨⟨name, v⟩, hmem, rfl⟩
    exact ⟨name, get?_eq_some_iff.2 hmem⟩
  · rintro ⟨name, h⟩
    exact ⟨(name, v), get?_eq_some_iff.1 h, rfl⟩

end NameMap

end StreamSource
