import Mathlib.Data.List.Nodup
import StreamSource.Parameters.Basic

/-! Look-ups in parameters. A name is present if it has a value, and what is required is there
unless a name of it is missing, of which the first is reported. Setting a name changes the value in
its place, and erasing one, which stands but once, leaves the others. -/

namespace StreamSource

variable {α : Type}

/-- The first of some elements that does not have the property. -/
def FirstWithout (P : α → Prop) (as : List α) (a : α) : Prop :=
  ∃ before after, as = before ++ a :: after ∧ (∀ b ∈ before, P b) ∧ ¬ P a

theorem firstWithout_cons_iff {P : α → Prop} {as : List α} {a b : α} :
    FirstWithout P (b :: as) a ↔ (¬ P b ∧ a = b) ∨ (P b ∧ FirstWithout P as a) := by
  constructor
  · rintro ⟨before, after, heq, hbefore, ha⟩
    cases before with
    | nil =>
      cases heq
      exact .inl ⟨ha, rfl⟩
    | cons c before =>
      cases heq
      exact .inr ⟨hbefore b List.mem_cons_self, before, after, rfl,
        fun d hd => hbefore d (List.mem_cons_of_mem b hd), ha⟩
  · rintro (⟨hb, rfl⟩ | ⟨hb, before, after, rfl, hbefore, ha⟩)
    · exact ⟨[], as, rfl, by simp, hb⟩
    · exact ⟨b :: before, after, rfl, by simpa [hb] using hbefore, ha⟩

theorem exists_firstWithout_iff {P : α → Prop} {as : List α} :
    (∃ a, FirstWithout P as a) ↔ ∃ a ∈ as, ¬ P a := by
  induction as with
  | nil => simp [FirstWithout]
  | cons b as ih =>
    by_cases hb : P b
    · simp [firstWithout_cons_iff, hb, ih]
    · simp [firstWithout_cons_iff, hb]

theorem find?_not_eq_some_iff {P : α → Bool} {as : List α} {a : α} :
    (as.find? fun b => !P b) = some a ↔ FirstWithout (P · = true) as a := by
  rw [List.find?_eq_some_iff_append]
  constructor
  · rintro ⟨ha, before, after, heq, hbefore⟩
    exact ⟨before, after, heq, fun b hb => by simpa using hbefore b hb, by simpa using ha⟩
  · rintro ⟨before, after, heq, hbefore, ha⟩
    exact ⟨by simpa using ha, before, after, heq, fun b hb => by simpa using hbefore b hb⟩

namespace Parameter

/-! ### Lists of parameters -/

/-- The value of the first parameter of a name. -/
def valueIn? (ps : List Parameter) (name : String) : Option ParameterValue :=
  (ps.find? fun p => p.name = name).map (·.value)

theorem valueIn?_cons (p : Parameter) (ps : List Parameter) (name : String) :
    valueIn? (p :: ps) name = if p.name = name then some p.value else valueIn? ps name := by
  unfold valueIn?
  by_cases h : p.name = name <;> simp [h]

theorem valueIn?_append (ps qs : List Parameter) (name : String) :
    valueIn? (ps ++ qs) name = (valueIn? ps name).or (valueIn? qs name) := by
  unfold valueIn?
  rw [List.find?_append, Option.map_or]

theorem valueIn?_eq_none_iff {ps : List Parameter} {name : String} :
    valueIn? ps name = none ↔ name ∉ ps.map (·.name) := by
  unfold valueIn?
  rw [Option.map_eq_none_iff, List.find?_eq_none, List.mem_map]
  simp

theorem nodup_cons {p : Parameter} {ps : List Parameter} :
    ((p :: ps).map (·.name)).Nodup ↔ p.name ∉ ps.map (·.name) ∧ (ps.map (·.name)).Nodup := by
  rw [List.map_cons, List.nodup_cons]

theorem valueIn?_of_mem {ps : List Parameter} (hps : (ps.map (·.name)).Nodup) {p : Parameter}
    (hp : p ∈ ps) : valueIn? ps p.name = some p.value := by
  induction ps with
  | nil => cases hp
  | cons q ps ih =>
    obtain ⟨hq, hps⟩ := nodup_cons.1 hps
    rw [valueIn?_cons]
    rcases List.mem_cons.1 hp with rfl | hp
    · exact if_pos rfl
    · have hne : q.name ≠ p.name := fun heq => hq (heq ▸ List.mem_map_of_mem hp)
      rw [if_neg hne, ih hps hp]

theorem valueIn?_put (k : String) (v : ParameterValue) (ps : List Parameter) (n : String) :
    valueIn? (put k v ps) n = if k = n then some v else valueIn? ps n := by
  induction ps with
  | nil => exact valueIn?_cons ⟨k, v⟩ [] n
  | cons p ps ih =>
    rw [put]
    by_cases hp : p.name = k
    · subst hp
      rw [if_pos rfl, valueIn?_cons, valueIn?_cons]
      by_cases hn : p.name = n <;> simp [hn]
    · rw [if_neg hp, valueIn?_cons, valueIn?_cons, ih]
      by_cases hn : k = n
      · subst hn
        simp [hp]
      · simp [hn]

/-- A name that is present gets its value at its index, and nothing else is touched. -/
theorem put_of_mem {k : String} {ps : List Parameter} (hk : k ∈ ps.map (·.name))
    (v : ParameterValue) : put k v ps = ps.set ((ps.map (·.name)).idxOf k) ⟨k, v⟩ := by
  induction ps with
  | nil => cases hk
  | cons p ps ih =>
    rw [put, List.map_cons, List.idxOf_cons]
    by_cases hp : p.name = k
    · simp [hp]
    · have hmem : k ∈ ps.map (·.name) := (List.mem_cons.1 hk).resolve_left (Ne.symm hp)
      rw [if_neg hp, ih hmem]
      rw [beq_false_of_ne hp, cond_false, List.set_cons_succ]

theorem put_of_notMem {k : String} {ps : List Parameter} (hk : k ∉ ps.map (·.name))
    (v : ParameterValue) : put k v ps = ps ++ [⟨k, v⟩] := by
  induction ps with
  | nil => rfl
  | cons p ps ih =>
    obtain ⟨hp, hps⟩ := not_or.1 (mt List.mem_cons.2 hk)
    rw [put, if_neg (Ne.symm hp), ih hps, List.cons_append]

theorem valueIn?_eraseP {ps : List Parameter} (hps : (ps.map (·.name)).Nodup) (k n : String) :
    valueIn? (ps.eraseP fun p => p.name = k) n = if k = n then none else valueIn? ps n := by
  induction ps with
  | nil => simp [valueIn?]
  | cons p ps ih =>
    obtain ⟨hp, hps⟩ := nodup_cons.1 hps
    rw [List.eraseP_cons, valueIn?_cons]
    by_cases hk : p.name = k
    · subst hk
      by_cases hn : p.name = n
      · subst hn
        simp [valueIn?_eq_none_iff.2 hp]
      · simp [hn]
    · simp only [hk, decide_false, cond_false, valueIn?_cons]
      rw [ih hps]
      by_cases hn : k = n
      · subst hn
        simp [hk]
      · simp [hn]

end Parameter

namespace Parameters

theorem contains_eq_isSome (ps : Parameters) (name : String) :
    ps.contains name = (ps.value? name).isSome := by
  rw [contains, value?, get?, Option.isSome_map, List.isSome_find?]

theorem mem_names_iff_isSome {ps : Parameters} {name : String} :
    name ∈ ps.names ↔ (ps.value? name).isSome = true := by
  rw [← contains_iff, contains_eq_isSome]

theorem value?_of_mem {ps : Parameters} {p : Parameter} (hp : p ∈ ps.items) :
    ps.value? p.name = some p.value :=
  Parameter.valueIn?_of_mem ps.nodup hp

theorem require_eq_ok_iff {ps : Parameters} {names : List String} {u : Unit} :
    ps.require names = .ok u ↔ ∀ n ∈ names, ps.contains n = true := by
  unfold require missing?
  cases hmissing : names.find? fun n => !ps.contains n with
  | none =>
    have hnone := List.find?_eq_none.1 hmissing
    simp only [true_iff]
    exact fun n hn => by simpa using hnone n hn
  | some n =>
    have hn : ps.contains n = false := by simpa using List.find?_some hmissing
    simp only [reduceCtorEq, false_iff]
    intro hall
    rw [hall n (List.mem_of_find?_eq_some hmissing)] at hn
    cases hn

theorem require_eq_error_iff {ps : Parameters} {names : List String} {e : Error} :
    ps.require names = .error e ↔
      ∃ n, FirstWithout (ps.contains · = true) names n ∧ e = .missingParameter n := by
  simp only [← find?_not_eq_some_iff]
  show ps.require names = .error e ↔ ∃ n, ps.missing? names = some n ∧ _
  unfold require
  cases ps.missing? names with
  | none => simp
  | some n => simp [eq_comm]

theorem require_eq_error {ps : Parameters} {names : List String} {e : Error}
    (h : ps.require names = .error e) : ∃ n, e = .missingParameter n :=
  (require_eq_error_iff.1 h).imp fun _ hn => hn.2

theorem exists_require_eq_error {ps : Parameters} {names : List String}
    (h : ∃ n ∈ names, ¬ ps.contains n = true) :
    ∃ n, ps.require names = .error (.missingParameter n) :=
  (exists_firstWithout_iff.2 h).imp fun n hn => require_eq_error_iff.2 ⟨n, hn, rfl⟩

/-! ### Setting and erasing -/

theorem value?_set (ps : Parameters) (k : String) (v : ParameterValue) (n : String) :
    (ps.set k v).value? n = if k = n then some v else ps.value? n :=
  Parameter.valueIn?_put k v ps.items n

theorem contains_set (ps : Parameters) (k : String) (v : ParameterValue) (n : String) :
    (ps.set k v).contains n = (decide (k = n) || ps.contains n) := by
  rw [contains_eq_isSome, contains_eq_isSome, value?_set]
  by_cases hk : k = n <;> simp [hk]

theorem names_erase (ps : Parameters) (k : String) : (ps.erase k).names = ps.names.erase k := by
  unfold names erase
  rw [List.erase_eq_eraseP', List.eraseP_map]
  rfl

theorem value?_erase (ps : Parameters) (k n : String) :
    (ps.erase k).value? n = if k = n then none else ps.value? n :=
  Parameter.valueIn?_eraseP ps.nodup k n

end Parameters

end StreamSource
