import StreamSource.Proofs.Parameters.History

/-! Merging parameters. The parameters that were there stay in their places, and where the
collection that is merged in overwrites, its values win; those of its names that are new come after
them, in its order. Nothing else is touched by a merge. -/

namespace StreamSource

namespace Parameter

/-! ### Parameters that are updated -/

/-- What becomes of a parameter when `items` are merged in: if they overwrite, it gets the value
that stands there under its name. -/
def updatedBy (items : List Parameter) (overwrite : Bool) (p : Parameter) : Parameter :=
  if overwrite then ⟨p.name, (valueIn? items p.name).getD p.value⟩ else p

@[simp] theorem name_updatedBy (items : List Parameter) (overwrite : Bool) (p : Parameter) :
    (updatedBy items overwrite p).name = p.name := by
  unfold updatedBy
  split <;> rfl

theorem map_name_updatedBy (items : List Parameter) (overwrite : Bool) (ps : List Parameter) :
    (ps.map (updatedBy items overwrite)).map (·.name) = ps.map (·.name) := by
  rw [List.map_map]
  exact List.map_congr_left fun p _ => name_updatedBy items overwrite p

theorem updatedBy_of_notMem {items : List Parameter} {p : Parameter}
    (h : p.name ∉ items.map (·.name)) (overwrite : Bool) : updatedBy items overwrite p = p := by
  unfold updatedBy
  rw [valueIn?_eq_none_iff.2 h]
  split <;> rfl

/-- Parameters of other names stay as they are. -/
theorem map_updatedBy_of_notMem {ps : List Parameter} {p : Parameter}
    (h : p.name ∉ ps.map (·.name)) (overwrite : Bool) : ps.map (updatedBy [p] overwrite) = ps := by
  refine (List.map_congr_left fun q hq => updatedBy_of_notMem (fun hmem => h ?_) _).trans
    (List.map_id' ps)
  have hname : q.name = p.name := List.mem_singleton.1 hmem
  exact hname ▸ List.mem_map_of_mem hq

theorem updatedBy_updatedBy {p : Parameter} {items : List Parameter}
    (hp : p.name ∉ items.map (·.name)) (overwrite : Bool) (q : Parameter) :
    updatedBy items overwrite (updatedBy [p] overwrite q) = updatedBy (p :: items) overwrite q := by
  by_cases hq : p.name = q.name
  · have hnotMem : (updatedBy [p] overwrite q).name ∉ items.map (·.name) := by
      rwa [name_updatedBy, ← hq]
    rw [updatedBy_of_notMem hnotMem]
    simp [updatedBy, valueIn?_cons, hq]
  · have hnotMem : q.name ∉ [p].map (·.name) := by simpa using Ne.symm hq
    rw [updatedBy_of_notMem hnotMem]
    simp [updatedBy, valueIn?_cons, hq]

theorem put_eq_map {ps : List Parameter} (hps : (ps.map (·.name)).Nodup) {p : Parameter}
    (hp : p.name ∈ ps.map (·.name)) : put p.name p.value ps = ps.map (updatedBy [p] true) := by
  induction ps with
  | nil => cases hp
  | cons q ps ih =>
    obtain ⟨hq, hps⟩ := nodup_cons.1 hps
    rw [put, List.map_cons]
    by_cases hname : q.name = p.name
    · rw [if_pos hname, map_updatedBy_of_notMem (hname ▸ hq)]
      simp [updatedBy, valueIn?_cons, hname]
    · have hmem : p.name ∈ ps.map (·.name) := (List.mem_cons.1 hp).resolve_left (Ne.symm hname)
      have hnotMem : q.name ∉ [p].map (·.name) := by simpa using hname
      rw [if_neg hname, ih hps hmem, updatedBy_of_notMem hnotMem]

end Parameter

namespace Parameters

open Parameter (updatedBy valueIn?)

/-! ### One parameter that is offered -/

/-- One parameter that is offered changes the value under its name or comes to the end. -/
theorem items_offer (ps : Parameters) (p : Parameter) (overwrite : Bool) :
    (offer overwrite ps p).items =
      ps.items.map (updatedBy [p] overwrite) ++ if p.name ∈ ps.names then [] else [p] := by
  unfold offer
  by_cases hp : p.name ∈ ps.names
  · rw [if_pos hp, List.append_nil, contains_iff.2 hp]
    cases overwrite with
    | true => exact Parameter.put_eq_map ps.nodup hp
    | false => exact (List.map_id' ps.items).symm
  · have hcontains : ps.contains p.name = false := by simpa [← contains_iff] using hp
    rw [if_neg hp, Parameter.map_updatedBy_of_notMem hp, hcontains, Bool.not_false, Bool.or_true,
      if_pos rfl]
    exact Parameter.put_of_notMem hp p.value

theorem names_offer (ps : Parameters) (p : Parameter) (overwrite : Bool) :
    (offer overwrite ps p).names = ps.names ++ if p.name ∈ ps.names then [] else [p.name] := by
  show (offer overwrite ps p).items.map (·.name) = ps.items.map (·.name) ++ _
  rw [items_offer, List.map_append, Parameter.map_name_updatedBy]
  by_cases hp : p.name ∈ ps.names <;> simp [hp]

/-- Where a parameter that is offered and the collection have a value for a name, the one of the
winner counts. -/
theorem value?_offer (ps : Parameters) (p : Parameter) (overwrite : Bool) (n : String) :
    (offer overwrite ps p).value? n =
      if overwrite then (valueIn? [p] n).or (ps.value? n)
      else (ps.value? n).or (valueIn? [p] n) := by
  have hone : valueIn? [p] n = if p.name = n then some p.value else none :=
    Parameter.valueIn?_cons p [] n
  have hset : (ps.set p.name p.value).value? n = (valueIn? [p] n).or (ps.value? n) := by
    rw [value?_set, hone]
    by_cases hn : p.name = n <;> simp [hn]
  unfold offer
  cases overwrite with
  | true => exact hset
  | false =>
    rw [Bool.false_or, contains_eq_isSome, if_neg Bool.false_ne_true]
    cases hp : ps.value? p.name with
    | none =>
      -- only the new name has no value yet, so that the order makes no difference
      rw [Option.isSome_none, Bool.not_false, if_pos rfl, hset, hone]
      by_cases hn : p.name = n
      · rw [if_pos hn, ← hn, hp, Option.or_none, Option.none_or]
      · rw [if_neg hn, Option.or_none, Option.none_or]
    | some v =>
      rw [Option.isSome_some, Bool.not_true, if_neg Bool.false_ne_true, hone]
      by_cases hn : p.name = n
      · rw [← hn, hp, Option.some_or]
      · rw [if_neg hn, Option.or_none]

/-! ### What a merge makes -/

theorem items_foldl_offer {items : List Parameter} (hitems : (items.map (·.name)).Nodup)
    (ps : Parameters) (overwrite : Bool) :
    (items.foldl (offer overwrite) ps).items =
      ps.items.map (updatedBy items overwrite) ++ items.filter (·.name ∉ ps.names) := by
  induction items generalizing ps with
  | nil =>
    have hupdated : updatedBy [] overwrite = id :=
      funext fun p => Parameter.updatedBy_of_notMem List.not_mem_nil overwrite
    simp [hupdated]
  | cons p items ih =>
    obtain ⟨hp, hitems⟩ := Parameter.nodup_cons.1 hitems
    have hold : ps.items.map (updatedBy items overwrite ∘ updatedBy [p] overwrite) =
        ps.items.map (updatedBy (p :: items) overwrite) :=
      List.map_congr_left fun q _ => Parameter.updatedBy_updatedBy hp overwrite q
    -- what was just put at the end has no name of the rest
    have hnew : updatedBy items overwrite p = p := Parameter.updatedBy_of_notMem hp overwrite
    have hrest : items.filter (·.name ∉ (offer overwrite ps p).names) =
        items.filter (·.name ∉ ps.names) := by
      refine List.filter_congr fun q hq => ?_
      have hne : q.name ≠ p.name := fun heq => hp (heq ▸ List.mem_map_of_mem hq)
      rw [names_offer]
      split <;> simp [hne]
    rw [List.foldl_cons, ih hitems, items_offer, List.map_append, List.map_map, hold, hrest,
      List.append_assoc]
    congr 1
    by_cases hpresent : p.name ∈ ps.names <;> simp [hpresent, hnew]

theorem value?_foldl_offer {items : List Parameter} (hitems : (items.map (·.name)).Nodup)
    (ps : Parameters) (overwrite : Bool) (n : String) :
    (items.foldl (offer overwrite) ps).value? n =
      if overwrite then (valueIn? items n).or (ps.value? n)
      else (ps.value? n).or (valueIn? items n) := by
  induction items generalizing ps with
  | nil => cases overwrite <;> simp [valueIn?]
  | cons p items ih =>
    obtain ⟨hp, hitems⟩ := Parameter.nodup_cons.1 hitems
    have hcons : valueIn? (p :: items) n = (valueIn? [p] n).or (valueIn? items n) :=
      Parameter.valueIn?_append [p] items n
    have hswap : (valueIn? [p] n).or (valueIn? items n) =
        (valueIn? items n).or (valueIn? [p] n) := by
      rw [Parameter.valueIn?_cons]
      by_cases hn : p.name = n
      · rw [if_pos hn, Parameter.valueIn?_eq_none_iff.2 (hn ▸ hp), Option.or_none, Option.none_or]
      · rw [if_neg hn]
        exact (Option.none_or ..).trans (Option.or_none ..).symm
    rw [List.foldl_cons, ih hitems, value?_offer, hcons]
    cases overwrite with
    | true => rw [if_pos rfl, if_pos rfl, if_pos rfl, hswap, Option.or_assoc]
    | false => exact Option.or_assoc ..

/-- What becomes of a parameter when `other` is merged in: if that overwrites, it gets the value
that stands there under its name. -/
def updated (other : Parameters) (overwrite : Bool) (p : Parameter) : Parameter :=
  if overwrite then ⟨p.name, (other.value? p.name).getD p.value⟩ else p

theorem items_merge (ps other : Parameters) (overwrite : Bool) :
    (ps.merge other overwrite).items =
      ps.items.map (updated other overwrite) ++ other.items.filter (·.name ∉ ps.names) :=
  items_foldl_offer other.nodup ps overwrite

/-- Of the names that are merged in, those that are absent come to the end, in their order. -/
theorem names_merge (ps other : Parameters) (overwrite : Bool) :
    (ps.merge other overwrite).names = ps.names ++ other.names.filter (· ∉ ps.names) := by
  have hold : (ps.items.map (updated other overwrite)).map (·.name) = ps.names :=
    Parameter.map_name_updatedBy other.items overwrite ps.items
  have hnew : (other.items.filter (·.name ∉ ps.names)).map (·.name) =
      (other.items.map (·.name)).filter (· ∉ ps.names) := by
    rw [List.filter_map]
    rfl
  show (ps.merge other overwrite).items.map (·.name) = _
  rw [items_merge, List.map_append, hold, hnew]
  rfl

/-- Where two collections have a value for a name, the one of the winner counts. -/
theorem value?_merge (ps other : Parameters) (overwrite : Bool) (n : String) :
    (ps.merge other overwrite).value? n =
      if overwrite then (other.value? n).or (ps.value? n) else (ps.value? n).or (other.value? n) :=
  value?_foldl_offer other.nodup ps overwrite n

/-- Pairs with distinct names make a collection that holds just them. -/
theorem toPairs_ofPairs {pairs : List (String × ParameterValue)}
    (h : (pairs.map (·.1)).Nodup) : (ofPairs pairs).toPairs = pairs := by
  induction pairs using List.reverseRecOn with
  | nil => rfl
  | append_singleton pairs p ih =>
    rw [List.map_append, List.nodup_append] at h
    have habsent : p.1 ∉ (ofPairs pairs).names := by
      rw [names_ofPairs, List.mem_eraseDups]
      exact fun hmem => h.2.2 p.1 hmem p.1 (List.mem_singleton_self _) rfl
    have hitems : (ofPairs (pairs ++ [p])).items = (ofPairs pairs).items ++ [⟨p.1, p.2⟩] := by
      rw [ofPairs_concat]
      exact Parameter.put_of_notMem habsent p.2
    have hold := ih h.1
    unfold toPairs at hold ⊢
    rw [hitems, List.map_append, hold]
    rfl

theorem merge_overwrite (ps other : Parameters) :
    ps.merge other true = ps.setAll other.toPairs := by
  unfold merge setAll toPairs
  rw [List.foldl_map]
  rfl

theorem setAll_ofPairs (pairs pairs' : List (String × ParameterValue)) :
    (ofPairs pairs).setAll pairs' = ofPairs (pairs ++ pairs') :=
  (List.foldl_append ..).symm

theorem value?_eq_find?_toPairs (ps : Parameters) (n : String) :
    ps.value? n = (ps.toPairs.find? fun p => p.1 = n).map (·.2) := by
  unfold value? get? toPairs
  rw [List.find?_map, Option.map_map]
  rfl

theorem names_eq_map_toPairs (ps : Parameters) : ps.names = ps.toPairs.map (·.1) := by
  unfold names toPairs
  rw [List.map_map]
  rfl

/-! ### Merges of any collections -/

theorem merge_self (ps : Parameters) (overwrite : Bool) : ps.merge ps overwrite = ps := by
  have hold : ps.items.map (updated ps overwrite) = ps.items := by
    refine (List.map_congr_left fun p hp => ?_).trans (List.map_id' _)
    simp [updated, value?_of_mem hp]
  have hnew : ps.items.filter (·.name ∉ ps.names) = [] := by
    refine List.filter_eq_nil_iff.2 fun p hp => ?_
    simpa [names] using ⟨p, hp, rfl⟩
  refine eq_of_items_eq ?_
  rw [items_merge, hold, hnew, List.append_nil]

theorem held_run_merge (r : Registers Parameters) (on source : String) (overwrite : Bool)
    (name : String) :
    held ((Step.merge source overwrite).run on r).2 name =
      if name = on then (held r on).merge (held r source) overwrite else held r name := by
  have hsource : held (r.put on (held r on)) source = held r source := by rw [held_put_held]
  rw [Step.held_run, ← hsource]
  simp only [Step.targets, List.mem_singleton]
  rfl

/-- However two collections came about, merging one into the other keeps the parameters that are
there in their order, each with the other's value if that overwrites, and puts those with new names
after them, in the order in which the other has them. The other collection stays as it is, and so
do all the others. -/
theorem merge_exact_after :
    (∀ (steps steps' : List (String × Step)) (name name' : String) (overwrite : Bool),
      let ps := held (after .empty steps) name
      let other := held (after .empty steps') name'
      (ps.merge other overwrite).items =
        ps.items.map (updated other overwrite) ++ other.items.filter (·.name ∉ ps.names)) ∧
    ∀ (steps : List (String × Step)) (on source : String) (overwrite : Bool),
      let r := after .empty steps
      let r' := ((Step.merge source overwrite).run on r).2
      held r' on = (held r on).merge (held r source) overwrite ∧ held r' source = held r source ∧
        ∀ name, name ≠ on → held r' name = held r name := by
  refine ⟨fun steps steps' name name' => ?_, fun steps on source overwrite => ?_⟩
  · exact items_merge _ _
  · intro r r'
    have hheld := held_run_merge r on source overwrite
    refine ⟨(hheld on).trans (if_pos rfl), (hheld source).trans ?_,
      fun name hname => (hheld name).trans (if_neg hname)⟩
    split
    · rename_i hsource
      rw [hsource]
      exact merge_self _ overwrite
    · rfl

end Parameters

end StreamSource
