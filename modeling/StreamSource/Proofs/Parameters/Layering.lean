import StreamSource.Proofs.Parameters.Merge

/-! Merges of merges. Layers of parameters may be merged in any grouping, and a layer that was
merged in before changes nothing when it comes again. Which of two values wins does not matter to
the names, and to let the other layer win is to change the two roles, but for the order. -/

namespace StreamSource.Parameters

/-! ### Collections with equal names and values -/

theorem map_some_items (ps : Parameters) :
    ps.items.map some = ps.names.map fun n => (ps.value? n).map (Parameter.mk n) := by
  rw [names, List.map_map]
  refine List.map_congr_left fun p hp => ?_
  simp [value?_of_mem hp]

/-- The names in their order and the value of each tell the whole collection. -/
theorem eq_of_names_eq {ps qs : Parameters} (hnames : ps.names = qs.names)
    (hvalue : ∀ n, ps.value? n = qs.value? n) : ps = qs := by
  have hitems : ps.items.map some = qs.items.map some := by
    rw [map_some_items, map_some_items, hnames]
    simp only [hvalue]
  exact eq_of_items_eq (List.map_injective_iff.2 (Option.some_injective _) hitems)

/-! ### Laws of merging -/

theorem names_merge_assoc (ps other third : Parameters) (overwrite : Bool) :
    ((ps.merge other overwrite).merge third overwrite).names =
      (ps.merge (other.merge third overwrite) overwrite).names := by
  -- a name that the third adds to the first two is in neither of them
  have hnew : third.names.filter (· ∉ ps.names ++ other.names.filter (· ∉ ps.names)) =
      (third.names.filter (· ∉ other.names)).filter (· ∉ ps.names) := by
    rw [List.filter_filter]
    refine List.filter_congr fun n _ => ?_
    by_cases hn : n ∈ ps.names <;> simp [hn]
  rw [names_merge, names_merge, hnew, names_merge, names_merge, List.filter_append,
    List.append_assoc]

theorem merge_assoc (ps other third : Parameters) (overwrite : Bool) :
    (ps.merge other overwrite).merge third overwrite =
      ps.merge (other.merge third overwrite) overwrite := by
  refine eq_of_names_eq (names_merge_assoc ps other third overwrite) fun n => ?_
  rw [value?_merge, value?_merge, value?_merge, value?_merge]
  cases overwrite with
  | true => exact (Option.or_assoc ..).symm
  | false => exact Option.or_assoc ..

theorem merge_merge_self (ps other : Parameters) (overwrite : Bool) :
    (ps.merge other overwrite).merge other overwrite = ps.merge other overwrite := by
  rw [merge_assoc, merge_self]

/-- However three collections came about and whether the later one wins or the earlier one, a merge
of all three is the same in both groupings. To merge a collection into itself changes nothing, and
neither does it to merge another one in twice. Who wins makes no difference to the names, and the
values where the first wins are those of the other way round where the second does. -/
theorem merge_grouped_after (steps steps' steps'' : List (String × Step))
    (name name' name'' : String) :
    let a := held (after .empty steps) name
    let b := held (after .empty steps') name'
    let c := held (after .empty steps'') name''
    (∀ overwrite, (a.merge b overwrite).merge c overwrite = a.merge (b.merge c overwrite) overwrite ∧
      a.merge a overwrite = a ∧
      (a.merge b overwrite).merge b overwrite = a.merge b overwrite) ∧
    (a.merge b true).names = (a.merge b false).names ∧
    ∀ n, (a.merge b false).value? n = (b.merge a true).value? n := by
  intro a b c
  refine ⟨fun overwrite => ⟨merge_assoc a b c overwrite, merge_self a overwrite,
    merge_merge_self a b overwrite⟩, ?_, fun n => ?_⟩
  · rw [names_merge, names_merge]
  · rw [value?_merge, value?_merge]
    rfl

/-- The other way round, the values are the same and the order is not. -/
example :
    let a := ofPairs [("Url", .integer 1), ("Cookie", .integer 2)]
    let b := ofPairs [("Cookie", .integer 3), ("Referer", .integer 4)]
    (a.merge b false).toPairs =
        [("Url", .integer 1), ("Cookie", .integer 2), ("Referer", .integer 4)] ∧
      (b.merge a true).toPairs =
        [("Cookie", .integer 2), ("Referer", .integer 4), ("Url", .integer 1)] := by
  decide

end StreamSource.Parameters
