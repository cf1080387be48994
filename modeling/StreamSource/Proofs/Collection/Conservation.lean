import StreamSource.Proofs.Collection.Copying
import StreamSource.Proofs.Collection.Splice

/-! Conservation of items. In a run whose steps only move items, whatever a collection took in is in
it, was handed back or was dropped, and only once. Each step is a splice: it takes at most one
segment out or puts one in, and the other items move by one place where the segment is one item
that stands before them. -/

namespace StreamSource.Collection

variable {α : Type}

/-! ### What a step moves -/

namespace Step

/-- The step takes items in or out or looks at them, and does not change them in their places. -/
def Moves : Step α → Prop
  | .set _ _ | .update _ | .replace _ | .copy _ => False
  | _ => True

/-- The items that a step takes in if it answers so. -/
def accepted (held : String → Collection α) : Step α → Answer α → List α
  | .add x, _ => [x]
  | .insert _ x, .accepted true => [x]
  | .extend xs, _ => xs
  | .append source, .succeeded => (held source).items
  | _, _ => []

/-- The items that a step gives to its caller if it answers so. -/
def handedBack : Step α → Answer α → List α
  | .take _, .item? x => x.toList
  | .drain, .items xs => xs
  | _, _ => []

/-- The items of `c` that a step destroys if it answers so. -/
def dropped (c : Collection α) : Step α → Answer α → List α
  | .remove i, .accepted true => c.items[i]?.toList
  | .clear, _ => c.items
  | _, _ => []

/-- The index of the item at index `j` after a step that answers so: one more if an item was put in
at or before it, one less if one before it was taken out, and none if it was itself taken out. -/
def newIndex (j : Nat) : Step α → Answer α → Option Nat
  | .insert i _, .accepted true => if i ≤ j then some (j + 1) else some j
  | .remove i, .accepted true | .take i, .item? (some _) =>
    if j < i then some j else if j = i then none else some (j - 1)
  | .clear, _ | .drain, _ => none
  | _, _ => some j

/-- What the step does is a splice, and the lists above say which. -/
def Splices (held : String → Collection α) (s : Step α) (a : Answer α) (c d : Collection α) : Prop :=
  ∃ before, Splice c d before (s.handedBack a ++ s.dropped c a) (s.accepted held a) ∧
    ∀ j < c.size, s.newIndex j a =
      spliced before.length (s.handedBack a ++ s.dropped c a).length (s.accepted held a).length j

end Step

/-! ### Steps as splices -/

namespace Step

theorem splices_same (held : String → Collection α) {s : Step α} {a : Answer α} {c : Collection α}
    (haccepted : s.accepted held a = []) (hback : s.handedBack a = []) (hdropped : s.dropped c a = [])
    (hindex : ∀ j, s.newIndex j a = some j) : s.Splices held a c c := by
  refine ⟨c.items, ?_, fun j hj => ?_⟩
  · rw [haccepted, hback, hdropped]
    exact splice_same c
  · rw [hindex]
    exact (spliced_of_lt hj ..).symm

theorem splices_erase (held : String → Collection α) {s : Step α} {a : Answer α} {c : Collection α}
    {i : Nat} {x : α} (hx : c.items[i]? = some x) (haccepted : s.accepted held a = [])
    (hout : s.handedBack a ++ s.dropped c a = [x])
    (hindex : ∀ j, s.newIndex j a =
      if j < i then some j else if j = i then none else some (j - 1)) :
    s.Splices held a c ⟨c.items.eraseIdx i⟩ := by
  have hi : i < c.items.length := (List.getElem?_eq_some_iff.1 hx).1
  refine ⟨c.items.take i, ?_, fun j _ => ?_⟩
  · rw [haccepted, hout]
    exact splice_erase hx
  · rw [haccepted, hout, List.length_take_of_le hi.le, hindex]
    exact (spliced_one_out i j).symm

theorem splices_empty (held : String → Collection α) {s : Step α} {a : Answer α} {c : Collection α}
    (haccepted : s.accepted held a = []) (hout : s.handedBack a ++ s.dropped c a = c.items)
    (hindex : ∀ j, s.newIndex j a = none) : s.Splices held a c empty := by
  refine ⟨[], ?_, fun j hj => ?_⟩
  · rw [haccepted, hout]
    exact splice_all c
  · have hj : j < c.items.length := hj
    rw [haccepted, hout, hindex, eq_comm, spliced_eq_none_iff, List.length_nil]
    omega

theorem splices_insert (held : String → Collection α) (c : Collection α) (i : Nat) (x : α) :
    (insert i x).Splices held (.accepted (c.insert? i x).isSome) c ((c.insert? i x).getD c) := by
  by_cases hi : i ≤ c.size
  · have hinsert : c.insert? i x = some ⟨c.items.take i ++ x :: c.items.drop i⟩ := if_pos hi
    have hlength : (c.items.take i).length = i := List.length_take_of_le hi
    rw [hinsert]
    refine ⟨c.items.take i, splice_insert c i x, fun j _ => ?_⟩
    rw [hlength]
    exact (spliced_one_into i j).symm
  · have hinsert : c.insert? i x = none := if_neg hi
    rw [hinsert]
    exact splices_same held rfl rfl rfl fun _ => rfl

theorem splices_remove (held : String → Collection α) (c : Collection α) (i : Nat) :
    (remove i).Splices held (.accepted (c.take? i).isSome) c
      (((c.take? i).map (·.2)).getD c) := by
  unfold take?
  cases hx : c.items[i]? with
  | none => exact splices_same held rfl rfl rfl fun _ => rfl
  | some x =>
    have hdropped : (remove i).dropped c (.accepted true) = [x] := by
      show c.items[i]?.toList = [x]
      rw [hx, Option.toList_some]
    exact splices_erase held hx rfl hdropped fun _ => rfl

theorem splices_take (held : String → Collection α) (c : Collection α) (i : Nat) :
    (take i).Splices held (.item? ((c.take? i).map (·.1))) c
      (((c.take? i).map (·.2)).getD c) := by
  unfold take?
  cases hx : c.items[i]? with
  | none => exact splices_same held rfl rfl rfl fun _ => rfl
  | some x => exact splices_erase held hx rfl rfl fun _ => rfl

variable [Copyable α]

/-- A step that moves items of its own register only is a splice. -/
theorem Moves.splices_of_local {c d : Collection α} {s : Step α} {a : Answer α} (hs : s.Moves)
    (h : s.local? c = some (a, d)) (held : String → Collection α) : s.Splices held a c d := by
  cases s with
  | add x =>
    cases h
    exact ⟨c.items, splice_end c [x], fun j hj => (spliced_of_lt hj ..).symm⟩
  | extend xs =>
    cases h
    exact ⟨c.items, splice_end c xs, fun j hj => (spliced_of_lt hj ..).symm⟩
  | insert i x => cases h; exact splices_insert held c i x
  | remove i => cases h; exact splices_remove held c i
  | take i => cases h; exact splices_take held c i
  | clear => cases h; exact splices_empty held rfl rfl fun _ => rfl
  | drain => cases h; exact splices_empty held rfl (List.append_nil _) fun _ => rfl
  | set _ _ | update _ | replace _ | copy _ => exact hs.elim
  | append _ | equals _ => cases h
  | get _ | find _ | position _ | size | list =>
    cases h
    exact splices_same held rfl rfl rfl fun _ => rfl

variable [DecidableEq α]

/-- A step that moves items is a splice of its register and leaves the others alone. -/
theorem Moves.splices {s : Step α} (hs : s.Moves) (r : Registers (Collection α)) (on : String) :
    s.Splices (Collection.held r) (s.run on r).1 (Collection.held r on)
        (Collection.held (s.run on r).2 on) ∧
      ∀ name, name ≠ on → Collection.held (s.run on r).2 name = Collection.held r name := by
  obtain ⟨a, place, d, houtcome, ha, hheld⟩ := s.exists_outcome r on
  have hplace : place = on ∧
      s.Splices (Collection.held r) a (Collection.held r on) d := by
    cases houtcome with
    | alone h => exact ⟨rfl, hs.splices_of_local h _⟩
    | copied _ | notCopied _ => exact hs.elim
    | appended h =>
      obtain ⟨items⟩ := d
      cases items_of_append_ok h
      exact ⟨rfl, _, splice_end _ _, fun j hj => (spliced_of_lt hj ..).symm⟩
    | notAppended _ | compared => exact ⟨rfl, splices_same _ rfl rfl rfl fun _ => rfl⟩
  obtain ⟨rfl, hsplices⟩ := hplace
  refine ⟨?_, fun name hname => by rw [hheld, if_neg hname]⟩
  rw [ha, hheld, if_pos rfl]
  exact hsplices

end Step

variable [Copyable α] [DecidableEq α]

/-! ### One step -/

/-- The steps take in and out what the size of their collection allows. -/
structure AnswersBySize (r : Registers (Collection α)) (on : String) : Prop where
  add : ∀ x, ((Step.add x).run on r).1 = .index (held r on).size
  insert : ∀ i x, ((Step.insert i x).run on r).1 = .accepted (i ≤ (held r on).size)
  remove : ∀ i, ((Step.remove i).run on r).1 = .accepted (i < (held r on).size)
  take : ∀ i, ∃ x, ((Step.take i).run on r).1 = .item? x ∧
    (x.isSome = true ↔ i < (held r on).size)

theorem answersBySize (r : Registers (Collection α)) (on : String) : AnswersBySize r on where
  add _ := rfl
  insert i x := by
    show Answer.accepted ((held r on).insert? i x).isSome = _
    rw [Bool.eq_iff_iff.2 ((insert?_isSome_iff _ i x).trans decide_eq_true_iff.symm)]
  remove i := by
    show Answer.accepted ((held r on).take? i).isSome = _
    rw [Bool.eq_iff_iff.2 ((take?_isSome_iff _ i).trans decide_eq_true_iff.symm)]
  take i := by
    refine ⟨((held r on).take? i).map (·.1), rfl, ?_⟩
    rw [Option.isSome_map]
    exact take?_isSome_iff _ i

/-- The items that a step does not hand back or drop keep their order and come to their new
indexes, and those in other registers stay. -/
structure KeepsOthers (r : Registers (Collection α)) (on : String) (s : Step α) : Prop where
  keeps : Keeps (held r on) (held (s.run on r).2 on) fun j => s.newIndex j (s.run on r).1
  lost_eq : lost (held r on) (fun j => s.newIndex j (s.run on r).1) =
    s.handedBack (s.run on r).1 ++ s.dropped (held r on) (s.run on r).1
  others : ∀ name, name ≠ on → held (s.run on r).2 name = held r name

theorem Step.Moves.keepsOthers {s : Step α} (hs : s.Moves) (r : Registers (Collection α))
    (on : String) : KeepsOthers r on s := by
  obtain ⟨⟨before, hsplice, hindex⟩, hothers⟩ := hs.splices r on
  exact ⟨hsplice.keeps.congr hindex, (lost_congr hindex).trans hsplice.lost_eq, hothers⟩

/-! ### Ledgers -/

/-- All that a collection took in, handed back and dropped. -/
structure Ledger (α : Type) where
  accepted : Multiset α
  handedBack : Multiset α
  dropped : Multiset α

namespace Ledger

/-- What was taken in is in the collection, was handed back or was dropped. -/
def Balances (l : Ledger α) (c : Collection α) : Prop :=
  c.items + l.handedBack + l.dropped = l.accepted

def enter (l : Ledger α) (r : Registers (Collection α)) (on : String) (s : Step α) : Ledger α :=
  let a := (s.run on r).1
  ⟨l.accepted + s.accepted (held r) a, l.handedBack + s.handedBack a,
    l.dropped + s.dropped (held r on) a⟩

omit [Copyable α] [DecidableEq α] in
theorem balances_zero : Balances ⟨0, 0, 0⟩ (empty : Collection α) := rfl

theorem Balances.enter {l : Ledger α} {r : Registers (Collection α)} {on : String}
    (h : l.Balances (held r on)) {s : Step α} (hs : s.Moves) :
    (l.enter r on s).Balances (held (s.run on r).2 on) := by
  obtain ⟨⟨before, hsplice, -⟩, -⟩ := hs.splices r on
  have hbalance := hsplice.balance
  rw [← Multiset.coe_add] at hbalance
  have hsum {c d back dropped into : Multiset α} (hc : c + l.handedBack + l.dropped = l.accepted)
      (hd : d + (back + dropped) = c + into) :
      d + (l.handedBack + back) + (l.dropped + dropped) = l.accepted + into := by
    calc d + (l.handedBack + back) + (l.dropped + dropped)
        = d + (back + dropped) + (l.handedBack + l.dropped) := by abel
      _ = c + l.handedBack + l.dropped + into := by rw [hd]; abel
      _ = l.accepted + into := by rw [hc]
  exact hsum h hbalance

end Ledger

/-- The ledger of one register after a run. -/
def ledger (name : String) (l : Ledger α) (r : Registers (Collection α)) :
    List (String × Step α) → Ledger α
  | [] => l
  | (on, s) :: steps => ledger name (if on = name then l.enter r on s else l) (s.run on r).2 steps

theorem Ledger.Balances.after {name : String} {l : Ledger α} {r : Registers (Collection α)}
    (h : l.Balances (held r name)) {steps : List (String × Step α)}
    (hsteps : ∀ step ∈ steps, step.2.Moves) :
    (ledger name l r steps).Balances (held (Collection.after r steps) name) := by
  induction steps generalizing l r with
  | nil => exact h
  | cons step steps ih =>
    obtain ⟨on, s⟩ := step
    obtain ⟨hs, hsteps⟩ := List.forall_mem_cons.1 hsteps
    refine ih ?_ hsteps
    by_cases hon : on = name
    · subst hon
      rw [if_pos rfl]
      exact h.enter hs
    · rw [if_neg hon, (hs.keepsOthers r on).others name (Ne.symm hon)]
      exact h

/-! ### Items over a run -/

/-- The index after a run of the item that stands at index `j` in the register `name`. -/
def followed (name : String) (r : Registers (Collection α)) :
    List (String × Step α) → Nat → Option Nat
  | [], j => some j
  | (on, s) :: steps, j =>
    (if on = name then s.newIndex j (s.run on r).1 else some j).bind
      (followed name (s.run on r).2 steps)

theorem keeps_after (name : String) (r : Registers (Collection α))
    {steps : List (String × Step α)} (hsteps : ∀ step ∈ steps, step.2.Moves) :
    Keeps (held r name) (held (after r steps) name) (followed name r steps) := by
  induction steps generalizing r with
  | nil => exact .refl _
  | cons step steps ih =>
    obtain ⟨on, s⟩ := step
    obtain ⟨hs, hsteps⟩ := List.forall_mem_cons.1 hsteps
    refine Keeps.trans ?_ (ih (s.run on r).2 hsteps)
    by_cases hon : on = name
    · subst hon
      simp only [if_true]
      exact (hs.keepsOthers r on).keeps
    · rw [(hs.keepsOthers r on).others name (Ne.symm hon)]
      simp only [hon, if_false]
      exact .refl _

/-- An item goes to the end of a collection and has the old size as its index; it is put in at an
index up to the size, and taken out at one below it. A step that moves items keeps all that it does
not hand back or drop, in their order, and it moves by one place what stands behind an item that is
put in or taken out. After a run of such steps from empty collections, what a collection took in is
in it, was handed back or was dropped, each item once. -/
theorem conserved_and_kept_in_order :
    (∀ (r : Registers (Collection α)) (on : String), AnswersBySize r on) ∧
    (∀ (r : Registers (Collection α)) (on : String) (s : Step α), s.Moves → KeepsOthers r on s) ∧
    ∀ steps : List (String × Step α), (∀ step ∈ steps, step.2.Moves) → ∀ name,
      (ledger name ⟨0, 0, 0⟩ .empty steps).Balances (held (after .empty steps) name) ∧
      ∀ r, Keeps (held r name) (held (after r steps) name) (followed name r steps) :=
  ⟨answersBySize, fun r on _ hs => hs.keepsOthers r on, fun _ hsteps name =>
    ⟨Ledger.Balances.after Ledger.balances_zero hsteps, fun r => keeps_after name r hsteps⟩⟩

/-- A failed append takes nothing in, and a live item that was behind two others when it was taken
out is the only one that the run hands back. -/
theorem conserved_of_failed_append :
    let steps : List (String × Step Resource) :=
      [("a", .extend [.plain 1, .plain 2, .live]), ("b", .append "a"), ("a", .insert 1 (.plain 3)),
        ("a", .remove 4), ("a", .take 3), ("b", .append "a"), ("a", .remove 0)]
    (∀ step ∈ steps, step.2.Moves) ∧
      (ledger "a" ⟨0, 0, 0⟩ .empty steps).Balances (held (after .empty steps) "a") ∧
      Keeps (held .empty "a") (held (after .empty steps) "a") (followed "a" .empty steps) ∧
      (ledger "a" ⟨0, 0, 0⟩ .empty steps).handedBack = {.live} ∧
      (held (after .empty steps) "a").items = [.plain 3, .plain 2] ∧
      (Step.take 3 : Step Resource).Moves ∧
      KeepsOthers (after .empty (steps.take 4)) "a" (.take 3) := by
  intro steps
  have hsteps : ∀ step ∈ steps, step.2.Moves := by simp [steps, Step.Moves]
  have hrun := conserved_and_kept_in_order.2.2 steps hsteps "a"
  exact ⟨hsteps, hrun.1, hrun.2 .empty, rfl, rfl, trivial,
    conserved_and_kept_in_order.2.1 _ "a" (.take 3) trivial⟩

end StreamSource.Collection
