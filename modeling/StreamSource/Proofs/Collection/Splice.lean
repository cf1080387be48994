import Mathlib.Algebra.Order.Group.Multiset
import Mathlib.Tactic.Abel
import StreamSource.Collection.Basic

/-! Splices. One segment of the items gives way to other items, one of the two often being empty.
What stands before the segment keeps its index, what stands behind it moves by the difference of the
lengths, and items are neither lost nor made twice. -/

namespace StreamSource.Collection

variable {α : Type}

/-- Of the items of `c` those in `out`, which stand behind `before`, give way to those in `into`. -/
def Splice (c d : Collection α) (before out into : List α) : Prop :=
  ∃ rest, c.items = before ++ out ++ rest ∧ d.items = before ++ into ++ rest

theorem splice_end (c : Collection α) (xs : List α) : Splice c ⟨c.items ++ xs⟩ c.items [] xs :=
  ⟨[], by simp, by simp⟩

theorem splice_same (c : Collection α) : Splice c c c.items [] [] :=
  ⟨[], by simp, by simp⟩

theorem splice_all (c : Collection α) : Splice c empty [] c.items [] :=
  ⟨[], by simp, rfl⟩

theorem splice_insert (c : Collection α) (i : Nat) (x : α) :
    Splice c ⟨c.items.take i ++ x :: c.items.drop i⟩ (c.items.take i) [] [x] :=
  ⟨c.items.drop i, by simp, by simp⟩

theorem splice_erase {c : Collection α} {i : Nat} {x : α} (h : c.items[i]? = some x) :
    Splice c ⟨c.items.eraseIdx i⟩ (c.items.take i) [x] [] := by
  obtain ⟨hi, rfl⟩ := List.getElem?_eq_some_iff.1 h
  refine ⟨c.items.drop (i + 1), ?_, ?_⟩
  · rw [List.append_assoc, List.singleton_append, ← List.drop_eq_getElem_cons hi,
      List.take_append_drop]
  · rw [List.eraseIdx_eq_take_drop_succ, List.append_nil]

/-- The index of what stood at index `j`, after the `out` items from index `i` on gave way to
`into` others. -/
def spliced (i out into j : Nat) : Option Nat :=
  if j < i then some j else if j < i + out then none else some (j - out + into)

theorem spliced_of_lt {i j : Nat} (h : j < i) (out into : Nat) : spliced i out into j = some j :=
  if_pos h

theorem spliced_eq_none_iff {i out into j : Nat} :
    spliced i out into j = none ↔ i ≤ j ∧ j < i + out := by
  unfold spliced
  split
  · simp
    omega
  · split <;> simp <;> omega

theorem spliced_one_into (i j : Nat) :
    spliced i 0 1 j = if i ≤ j then some (j + 1) else some j := by
  unfold spliced
  by_cases h : i ≤ j
  · have hlt : ¬ j < i := by omega
    simp [h, hlt]
  · have hlt : j < i := by omega
    simp [h, hlt]

theorem spliced_one_out (i j : Nat) :
    spliced i 1 0 j = if j < i then some j else if j = i then none else some (j - 1) := by
  unfold spliced
  by_cases hlt : j < i
  · simp [hlt]
  · have heq : j < i + 1 ↔ j = i := by omega
    simp [hlt, heq]

/-- The items that have a new index stand there, in the order in which they stood. -/
structure Keeps (c d : Collection α) (newIndex : Nat → Option Nat) : Prop where
  item : ∀ j < c.size, ∀ k, newIndex j = some k → d.items[k]? = c.items[j]?
  order : ∀ i j k l, i < j → j < c.size → newIndex i = some k → newIndex j = some l → k < l

/-- The items without a new index, in their order. -/
def lost (c : Collection α) (newIndex : Nat → Option Nat) : List α :=
  (c.items.zipIdx.filter fun p => newIndex p.2 = none).map (·.1)

namespace Keeps

variable {c d e : Collection α} {f g : Nat → Option Nat}

theorem refl (c : Collection α) : Keeps c c some where
  item j _ k hk := by cases hk; rfl
  order i j k l hij _ hk hl := by cases hk; cases hl; exact hij

theorem lt_size (h : Keeps c d f) {j k : Nat} (hj : j < c.size) (hk : f j = some k) :
    k < d.size := by
  have hitem := h.item j hj k hk
  rw [List.getElem?_eq_getElem hj] at hitem
  exact (List.getElem?_eq_some_iff.1 hitem).1

theorem trans (h : Keeps c d f) (h' : Keeps d e g) : Keeps c e fun j => (f j).bind g where
  item j hj k hk := by
    obtain ⟨m, hm, hk⟩ := Option.bind_eq_some_iff.1 hk
    rw [h'.item m (h.lt_size hj hm) k hk, h.item j hj m hm]
  order i j k l hij hj hk hl := by
    obtain ⟨m, hm, hk⟩ := Option.bind_eq_some_iff.1 hk
    obtain ⟨n, hn, hl⟩ := Option.bind_eq_some_iff.1 hl
    exact h'.order m n k l (h.order i j m n hij hj hm hn) (h.lt_size hj hn) hk hl

theorem congr (h : Keeps c d f) (hfg : ∀ j < c.size, g j = f j) : Keeps c d g where
  item j hj k hk := h.item j hj k (hfg j hj ▸ hk)
  order i j k l hij hj hk hl :=
    h.order i j k l hij hj (hfg i (hij.trans hj) ▸ hk) (hfg j hj ▸ hl)

end Keeps

theorem lost_congr {c : Collection α} {f g : Nat → Option Nat} (h : ∀ j < c.size, g j = f j) :
    lost c g = lost c f := by
  unfold lost
  congr 1
  refine List.filter_congr fun p hp => ?_
  have hlt : p.2 < c.size := List.snd_lt_of_mem_zipIdx hp
  rw [h p.2 hlt]

namespace Splice

variable {c d : Collection α} {before out into : List α}

theorem balance (h : Splice c d before out into) :
    (d.items : Multiset α) + out = c.items + into := by
  obtain ⟨rest, hc, hd⟩ := h
  rw [hc, hd]
  simp only [← Multiset.coe_add]
  abel

theorem keeps (h : Splice c d before out into) :
    Keeps c d (spliced before.length out.length into.length) := by
  obtain ⟨rest, hc, hd⟩ := h
  refine ⟨fun j _ k hk => ?_, fun i j k l hij _ hk hl => ?_⟩
  · rw [hc, hd]
    unfold spliced at hk
    split at hk
    · rename_i hbefore
      cases hk
      rw [List.append_assoc, List.append_assoc, List.getElem?_append_left hbefore,
        List.getElem?_append_left hbefore]
    · split at hk
      · cases hk
      · cases hk
        rw [List.getElem?_append_right (by simp; omega), List.getElem?_append_right (by simp; omega)]
        congr 1
        simp only [List.length_append]
        omega
  · unfold spliced at hk hl
    split at hk <;> split at hl
    all_goals simp only [Option.ite_none_left_eq_some, Option.some.injEq] at hk hl
    all_goals omega

theorem lost_eq (h : Splice c d before out into) :
    lost c (spliced before.length out.length into.length) = out := by
  obtain ⟨rest, hc, -⟩ := h
  have hbefore : before.zipIdx.filter (fun p =>
      spliced before.length out.length into.length p.2 = none) = [] := by
    refine List.filter_eq_nil_iff.2 fun p hp => ?_
    have hlt := List.snd_lt_of_mem_zipIdx hp
    simp only [decide_eq_true_eq, spliced_eq_none_iff]
    omega
  have hout : (out.zipIdx before.length).filter (fun p =>
      spliced before.length out.length into.length p.2 = none) = out.zipIdx before.length := by
    refine List.filter_eq_self.2 fun p hp => ?_
    have hlt := List.snd_lt_of_mem_zipIdx hp
    have hle := List.le_snd_of_mem_zipIdx hp
    simp only [decide_eq_true_eq, spliced_eq_none_iff]
    omega
  have hrest : (rest.zipIdx (before.length + out.length)).filter (fun p =>
      spliced before.length out.length into.length p.2 = none) = [] := by
    refine List.filter_eq_nil_iff.2 fun p hp => ?_
    have hle := List.le_snd_of_mem_zipIdx hp
    simp only [decide_eq_true_eq, spliced_eq_none_iff]
    omega
  unfold lost
  rw [hc, List.zipIdx_append, List.zipIdx_append, List.filter_append, List.filter_append, hbefore,
    Nat.zero_add, hout, List.length_append, Nat.zero_add, hrest, List.nil_append, List.append_nil,
    List.zipIdx_map_fst]

end Splice

end StreamSource.Collection
