import Mathlib.Data.List.Induction
import Mathlib.Data.Set.Card
import StreamSource.Parameters.Step
import StreamSource.Proofs.Parameters.Lookup

/-! Histories of collections. Every step comes down to writes, removals and clearances of the
collection that it works on, and a copy takes the history over. What a collection holds
can be told from its history alone: a name has the value that was written last since it was last
absent, and the names stand in the order of the first writes since then. -/

namespace StreamSource.Parameters

inductive Event
  | write (name : String) (v : ParameterValue)
  | remove (name : String)
  | clear

namespace Event

def apply (ps : Parameters) : Event → Parameters
  | .write name v => ps.set name v
  | .remove name => ps.erase name
  | .clear => empty

/-- Whether the name is absent after the event, whatever was before. -/
def drops (n : String) : Event → Bool
  | .write _ _ => false
  | .remove name => name = n
  | .clear => true

def written? (n : String) : Event → Option ParameterValue
  | .write name v => if name = n then some v else none
  | .remove _ => none
  | .clear => none

end Event

/-- The value that was written last since the name was last absent. Histories have the latest
event in front. -/
def lastWrite? (n : String) : List Event → Option ParameterValue
  | [] => none
  | e :: h => if e.drops n then none else (e.written? n).or (lastWrite? n h)

/-- The time of the first write since the name was last absent, counted from the start of the
history. -/
def firstWrite? (n : String) : List Event → Option Nat
  | [] => none
  | e :: h =>
    if e.drops n then none
    else (firstWrite? n h).or (if (e.written? n).isSome then some h.length else none)

/-- Both names are present, and `a` has been so for longer. -/
def WrittenBefore (h : List Event) (a b : String) : Prop :=
  ∃ i j, firstWrite? a h = some i ∧ firstWrite? b h = some j ∧ i < j

theorem isSome_firstWrite? (n : String) (h : List Event) :
    (firstWrite? n h).isSome = (lastWrite? n h).isSome := by
  induction h with
  | nil => rfl
  | cons e h ih =>
    unfold firstWrite? lastWrite?
    split
    · rfl
    · rw [Option.isSome_or, Option.isSome_or, ih, Bool.or_comm]
      cases e.written? n <;> rfl

theorem firstWrite?_lt {n : String} {h : List Event} {i : Nat} (hi : firstWrite? n h = some i) :
    i < h.length := by
  induction h generalizing i with
  | nil => cases hi
  | cons e h ih =>
    unfold firstWrite? at hi
    split at hi
    · cases hi
    · rw [List.length_cons]
      rcases Option.or_eq_some_iff.1 hi with hi | ⟨-, hi⟩
      · exact Nat.lt_succ_of_lt (ih hi)
      · obtain ⟨-, hi⟩ := Option.ite_none_right_eq_some.1 hi
        exact Option.some.inj hi ▸ Nat.lt_succ_self _

/-! ### One event -/

/-- What a history tells of its collection. -/
structure Follows (h : List Event) (ps : Parameters) : Prop where
  value? : ∀ n, ps.value? n = lastWrite? n h
  ordered : ps.names.Pairwise (WrittenBefore h)

variable {h : List Event} {ps : Parameters}

theorem follows_nil : Follows [] empty where
  value? _ := rfl
  ordered := .nil

theorem Follows.mem_names_iff (hf : Follows h ps) {n : String} :
    n ∈ ps.names ↔ (lastWrite? n h).isSome = true := by
  rw [mem_names_iff_isSome, hf.value?]

theorem Follows.exists_firstWrite? (hf : Follows h ps) {n : String} (hn : n ∈ ps.names) :
    ∃ i, firstWrite? n h = some i := by
  rw [← Option.isSome_iff_exists, isSome_firstWrite?]
  exact hf.mem_names_iff.1 hn

theorem Follows.write (hf : Follows h ps) (k : String) (v : ParameterValue) :
    Follows (.write k v :: h) (ps.set k v) where
  value? n := by
    rw [value?_set, hf.value?, lastWrite?]
    by_cases hk : k = n <;> simp [hk, Event.drops, Event.written?]
  ordered := by
    -- the write is the first one of a name only if the name is absent
    have hkeeps {n i} (hi : firstWrite? n h = some i) :
        firstWrite? n (.write k v :: h) = some i := by
      simp [firstWrite?, Event.drops, hi]
    have hold : ps.names.Pairwise (WrittenBefore (.write k v :: h)) := by
      refine hf.ordered.imp ?_
      rintro a b ⟨i, j, hi, hj, hlt⟩
      exact ⟨i, j, hkeeps hi, hkeeps hj, hlt⟩
    rw [names_set]
    split
    · exact hold
    · rename_i hk
      have hnew : firstWrite? k h = none := by
        rw [← Option.not_isSome_iff_eq_none, isSome_firstWrite?, ← hf.mem_names_iff,
          ← contains_iff]
        exact hk
      refine List.pairwise_append.2 ⟨hold, List.pairwise_singleton _ _, fun a ha b hb => ?_⟩
      obtain rfl := List.mem_singleton.1 hb
      obtain ⟨i, hi⟩ := hf.exists_firstWrite? ha
      refine ⟨i, h.length, hkeeps hi, ?_, firstWrite?_lt hi⟩
      simp [firstWrite?, Event.drops, Event.written?, hnew]

theorem Follows.remove (hf : Follows h ps) (k : String) :
    Follows (.remove k :: h) (ps.erase k) where
  value? n := by
    rw [value?_erase, hf.value?, lastWrite?]
    by_cases hk : k = n <;> simp [hk, Event.drops, Event.written?]
  ordered := by
    rw [names_erase]
    refine (hf.ordered.sublist List.erase_sublist).imp_of_mem ?_
    rintro a b ha hb ⟨i, j, hi, hj, hlt⟩
    have hkeeps {n i} (hn : n ∈ ps.names.erase k) (hi : firstWrite? n h = some i) :
        firstWrite? n (.remove k :: h) = some i := by
      have hne : k ≠ n := (ps.nodup_names.mem_erase_iff.1 hn).1.symm
      simp [firstWrite?, Event.drops, Event.written?, hne, hi]
    exact ⟨i, j, hkeeps ha hi, hkeeps hb hj, hlt⟩

theorem Follows.clear (h : List Event) : Follows (.clear :: h) empty where
  value? _ := rfl
  ordered := .nil

theorem Follows.apply (hf : Follows h ps) (e : Event) : Follows (e :: h) (e.apply ps) := by
  cases e with
  | write k v => exact hf.write k v
  | remove k => exact hf.remove k
  | clear => exact .clear h

theorem Follows.foldl (hf : Follows h ps) (es : List Event) :
    Follows (es.reverse ++ h) (es.foldl Event.apply ps) := by
  induction es generalizing h ps with
  | nil => exact hf
  | cons e es ih =>
    rw [List.reverse_cons, List.append_assoc, List.foldl_cons]
    exact ih (hf.apply e)

/-! ### One step -/

/-- Of the parameters that are offered one after the other, those are set that are absent at the
start, or all of them: none of them stands in the way of another. -/
theorem foldl_offer_eq {items : List Parameter} (hitems : (items.map (·.name)).Nodup)
    (ps : Parameters) (overwrite : Bool) :
    items.foldl (offer overwrite) ps =
      (items.filter fun p => overwrite || !ps.contains p.name).foldl
        (fun acc p => acc.set p.name p.value) ps := by
  -- what was set so far makes no difference to the names that are still to come
  suffices hoffer : ∀ acc : Parameters,
      (∀ p ∈ items, acc.contains p.name = ps.contains p.name) →
      items.foldl (offer overwrite) acc =
      (items.filter fun p => overwrite || !ps.contains p.name).foldl
        (fun acc p => acc.set p.name p.value) acc from
    hoffer ps fun p _ => rfl
  induction items with
  | nil => exact fun acc _ => rfl
  | cons p items ih =>
    obtain ⟨hp, hitems⟩ := Parameter.nodup_cons.1 hitems
    intro acc hacc
    have hrest : ∀ q ∈ items, acc.contains q.name = ps.contains q.name :=
      fun q hq => hacc q (List.mem_cons_of_mem p hq)
    rw [List.foldl_cons, List.filter_cons, offer, hacc p List.mem_cons_self]
    split
    · rw [List.foldl_cons]
      refine ih hitems _ fun q hq => ?_
      have hne : p.name ≠ q.name := fun heq => hp (heq ▸ List.mem_map_of_mem hq)
      rw [contains_set, hrest q hq, decide_eq_false hne, Bool.false_or]
    · exact ih hitems acc hrest

/-- The collection in a register. -/
def held (r : Registers Parameters) (name : String) : Parameters := r.getD name empty

theorem held_put (r : Registers Parameters) (name : String) (ps : Parameters) (n : String) :
    held (r.put name ps) n = if n = name then ps else held r n :=
  r.getD_put name ps n empty

theorem held_put_held (r : Registers Parameters) (name : String) :
    held (r.put name (held r name)) = held r :=
  funext fun n => r.getD_put_getD name n empty

namespace Step

/-- What a step does to the collection `ps` that it works on, one event after the other. -/
def events (held : String → Parameters) (ps : Parameters) : Step → List Event
  | .set name v => [.write name v]
  | .remove name => [.remove name]
  | .clear => [.clear]
  | .replace pairs => .clear :: pairs.map fun p => .write p.1 p.2
  | .merge source overwrite =>
    ((held source).items.filter fun p => overwrite || !ps.contains p.name).map
      fun p => .write p.name p.value
  | _ => []

/-- The registers that hold the outcome of a step on the register `on`. -/
def targets (on : String) : Step → List String
  | .copy target => [on, target]
  | _ => [on]

theorem apply_snd (r : Registers Parameters) (ps : Parameters) (s : Step) :
    (s.apply r ps).2 = (s.events (held r) ps).foldl Event.apply ps := by
  cases s with
  | replace pairs =>
    rw [events, List.foldl_cons, List.foldl_map]
    rfl
  | merge source overwrite =>
    rw [events, List.foldl_map]
    exact foldl_offer_eq (held r source).nodup ps overwrite
  | require names =>
    rw [apply]
    cases ps.require names <;> rfl
  | _ => rfl

theorem held_run (on : String) (r : Registers Parameters) (s : Step) (name : String) :
    held (s.run on r).2 name =
      if name ∈ s.targets on then (s.apply (r.put on (held r on)) (held r on)).2
      else held r name := by
  have hput (ps : Parameters) :
      held ((r.put on (held r on)).put on ps) name = if name = on then ps else held r name := by
    rw [held_put, held_put_held]
  cases s with
  | copy target =>
    have hcopy : held ((copy target).run on r).2 name =
        if name = target then held r on else if name = on then held r on else held r name := by
      rw [← hput]
      exact held_put _ target _ name
    simp only [hcopy, targets, List.mem_cons, List.not_mem_nil, or_false]
    by_cases htarget : name = target
    · rw [if_pos htarget, if_pos (.inr htarget)]
      rfl
    · simp only [htarget, if_false, or_false]
      rfl
  | _ =>
    refine (hput _).trans ?_
    simp only [targets, List.mem_singleton]
    rfl

/-- The histories after a step, from those before it. -/
def recorded (on : String) (r : Registers Parameters) (hs : String → List Event) (s : Step) :
    String → List Event := fun name =>
  if name ∈ s.targets on then (s.events (held r) (held r on)).reverse ++ hs on else hs name

end Step

/-- Every register holds what its history tells. -/
def Recorded (hs : String → List Event) (r : Registers Parameters) : Prop :=
  ∀ name, Follows (hs name) (held r name)

theorem Recorded.step {hs : String → List Event} {r : Registers Parameters} (hr : Recorded hs r)
    (on : String) (s : Step) : Recorded (s.recorded on r hs) (s.run on r).2 := by
  intro name
  rw [Step.held_run, Step.recorded, Step.apply_snd, held_put_held]
  split
  · exact (hr on).foldl _
  · exact hr name

/-! ### Runs -/

/-- The registers after a run. -/
def after (r : Registers Parameters) : List (String × Step) → Registers Parameters
  | [] => r
  | (on, s) :: steps => after (s.run on r).2 steps

/-- The histories after a run. -/
def histories (r : Registers Parameters) (hs : String → List Event) :
    List (String × Step) → String → List Event
  | [] => hs
  | (on, s) :: steps => histories (s.run on r).2 (s.recorded on r hs) steps

theorem Recorded.after {hs : String → List Event} {r : Registers Parameters} (hr : Recorded hs r)
    (steps : List (String × Step)) : Recorded (histories r hs steps) (Parameters.after r steps) := by
  induction steps generalizing hs r with
  | nil => exact hr
  | cons step steps ih => exact ih (hr.step step.1 step.2)

/-- What a run shows of a register after a step is what the steps so far have made of it. -/
theorem getElem?_run (r : Registers Parameters) (steps : List (String × Step)) (i : Nat) :
    (run r steps)[i]?.map (·.2) =
      steps[i]?.map fun step => held (after r (steps.take (i + 1))) step.1 := by
  induction steps generalizing r i with
  | nil => rfl
  | cons step steps ih =>
    cases i with
    | zero => rfl
    | succ i => exact ih (step.2.run step.1 r).2 i

/-! ### Ordered maps -/

/-- The collection is the map that its history tells, in the order of the insertions. To
overwrite a name does not move it, to remove it and set it again moves it to the end. -/
structure OrderedMap (h : List Event) (ps : Parameters) : Prop where
  nodup : ps.names.Nodup
  value? : ∀ n, ps.value? n = lastWrite? n h
  contains : ∀ n, ps.contains n = (lastWrite? n h).isSome
  size : ps.size = {n | (lastWrite? n h).isSome = true}.ncard
  require : ∀ ns, ps.require ns =
    match ns.find? fun n => (lastWrite? n h).isNone with
    | some n => .error (.missingParameter n)
    | none => .ok ()
  ordered : ps.names.Pairwise (WrittenBefore h)
  overwrite : ∀ n ∈ ps.names, ∀ v,
    (ps.set n v).items = ps.items.set (ps.names.idxOf n) ⟨n, v⟩ ∧ (ps.set n v).names = ps.names
  restore : ∀ n v, ((ps.erase n).set n v).names = ps.names.erase n ++ [n]

theorem Follows.size (hf : Follows h ps) :
    ps.size = {n | (lastWrite? n h).isSome = true}.ncard := by
  have hset : {n | (lastWrite? n h).isSome = true} = (ps.names.toFinset : Set String) := by
    ext n
    rw [List.coe_toFinset]
    exact hf.mem_names_iff.symm
  rw [hset, Set.ncard_coe_finset, List.toFinset_card_of_nodup ps.nodup_names, names,
    List.length_map]
  rfl

theorem Follows.orderedMap (hf : Follows h ps) : OrderedMap h ps where
  nodup := ps.nodup_names
  value? := hf.value?
  contains n := by rw [contains_eq_isSome, hf.value?]
  size := hf.size
  require ns := by
    have hmissing : ps.missing? ns = ns.find? fun n => (lastWrite? n h).isNone := by
      simp only [missing?, contains_eq_isSome, hf.value?, Option.not_isSome]
    rw [← hmissing]
    rfl
  ordered := hf.ordered
  overwrite n hn v := by
    have hcontains := contains_iff.2 hn
    exact ⟨Parameter.put_of_mem hn v, (names_set ps n v).trans (if_pos hcontains)⟩
  restore n v := by
    have hn : ¬ (ps.erase n).contains n = true := by
      rw [contains_iff, names_erase]
      exact ps.nodup_names.not_mem_erase
    rw [names_set, if_neg hn, names_erase]

theorem setAll_concat (ps : Parameters) (pairs : List (String × ParameterValue))
    (p : String × ParameterValue) :
    ps.setAll (pairs ++ [p]) = (ps.setAll pairs).set p.1 p.2 := by
  unfold setAll
  rw [List.foldl_append]
  rfl

theorem ofPairs_concat (pairs : List (String × ParameterValue)) (p : String × ParameterValue) :
    ofPairs (pairs ++ [p]) = (ofPairs pairs).set p.1 p.2 :=
  setAll_concat empty pairs p

/-- Every name stands where it occurs first among the pairs. -/
theorem names_ofPairs (pairs : List (String × ParameterValue)) :
    (ofPairs pairs).names = (pairs.map (·.1)).eraseDups := by
  induction pairs using List.reverseRecOn with
  | nil => rfl
  | append_singleton pairs p ih =>
    have hmem : (ofPairs pairs).contains p.1 = true ↔ p.1 ∈ pairs.map (·.1) := by
      rw [contains_iff, ih, List.mem_eraseDups]
    rw [ofPairs_concat, names_set, List.map_append, List.eraseDups_append, ← ih, List.map_singleton,
      List.removeAll, List.filter_singleton]
    by_cases hp : p.1 ∈ pairs.map (·.1)
    · rw [if_pos (hmem.2 hp)]
      simp [hp]
    · rw [if_neg (hp ∘ hmem.1)]
      simp [hp, List.eraseDups_cons]

/-- A name that is set has the value with which it occurs last among the pairs. -/
theorem value?_setAll (ps : Parameters) (pairs : List (String × ParameterValue)) (n : String) :
    (ps.setAll pairs).value? n =
      ((pairs.reverse.find? fun p => p.1 = n).map (·.2)).or (ps.value? n) := by
  induction pairs using List.reverseRecOn with
  | nil => rfl
  | append_singleton pairs p ih =>
    rw [setAll_concat, value?_set, ih, List.reverse_append, List.reverse_singleton,
      List.singleton_append, List.find?_cons]
    by_cases hp : p.1 = n <;> simp [hp]

theorem value?_ofPairs (pairs : List (String × ParameterValue)) (n : String) :
    (ofPairs pairs).value? n = (pairs.reverse.find? fun p => p.1 = n).map (·.2) :=
  (value?_setAll empty pairs n).trans (Option.or_none ..)

/-- Whatever is done with any number of collections, each of them stays an ordered map, and pairs
make one with each name at its first place and with its last value. -/
theorem orderedMap_after_and_ofPairs :
    (∀ (steps : List (String × Step)) (name : String),
      OrderedMap (histories .empty (fun _ => []) steps name) (held (after .empty steps) name)) ∧
    (∀ (steps : List (String × Step)) (i : Nat), (run .empty steps)[i]?.map (·.2) =
      steps[i]?.map fun step => held (after .empty (steps.take (i + 1))) step.1) ∧
    ∀ pairs : List (String × ParameterValue),
      (ofPairs pairs).names = (pairs.map (·.1)).eraseDups ∧
      ∀ n, (ofPairs pairs).value? n = (pairs.reverse.find? fun p => p.1 = n).map (·.2) := by
  refine ⟨fun steps name => ?_, getElem?_run .empty,
    fun pairs => ⟨names_ofPairs pairs, value?_ofPairs pairs⟩⟩
  have hempty : Recorded (fun _ => []) .empty := fun _ => follows_nil
  exact (hempty.after steps name).orderedMap

/-- A name that was removed comes back at the end, one that is overwritten stays, and case
counts. -/
example :
    let steps : List (String × Step) :=
      [("a", .replace [("Url", .integer 1), ("url", .integer 2)]), ("b", .set "x" (.integer 3)),
        ("a", .merge "b" false), ("a", .remove "Url"), ("a", .set "url" (.integer 4)),
        ("a", .set "Url" (.integer 5)), ("b", .merge "a" true)]
    (held (after .empty steps) "a").names = ["url", "x", "Url"] ∧
      (held (after .empty steps) "b").toPairs =
        [("x", .integer 3), ("url", .integer 4), ("Url", .integer 5)] := by
  decide

end StreamSource.Parameters
