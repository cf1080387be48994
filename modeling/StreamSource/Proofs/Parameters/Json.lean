import StreamSource.Proofs.Json.RoundTrip
import StreamSource.Proofs.Parameters.History

/-! Parameters in JSON. A collection is written as one object with a member for each parameter,
and the compact text of this object gives the same names in the same order, each with the value
that was written and not with another one that has the same text. -/

namespace StreamSource

namespace Parameters

/-- The names and values in the members of an object, if all of them hold parameter values. -/
def ofMembers? (members : List (String × Json)) : Option (List (String × ParameterValue)) :=
  members.mapM fun m => (ParameterValue.ofJson? m.2).map fun v => (m.1, v)

/-- The members that a collection is written as. -/
def toMembers (ps : Parameters) : List (String × Json) :=
  ps.items.map fun p => (p.name, p.value.toJson)

theorem map_fst_toMembers (ps : Parameters) : ps.toMembers.map (·.1) = ps.names := by
  rw [toMembers, List.map_map]
  rfl

theorem haveWhole_toMembers (ps : Parameters) : Json.HaveWhole ps.toMembers := by
  unfold toMembers
  induction ps.items with
  | nil => trivial
  | cons p items ih =>
    refine ⟨?_, ih⟩
    cases p.value <;> trivial

theorem ofMembers?_toMembers (ps : Parameters) : ofMembers? ps.toMembers = some ps.toPairs := by
  unfold ofMembers? toMembers toPairs
  induction ps.items with
  | nil => rfl
  | cons p items ih =>
    rw [List.map_cons, List.mapM_cons, ih, ParameterValue.ofJson?_toJson]
    rfl

theorem read?_compact_toJson (ps : Parameters) :
    Json.read? ps.toJson.compact = some (.object ps.toMembers) :=
  Json.read?_compact (haveWhole_toMembers ps)

/-- Whatever was done with any number of collections, the compact text of each of them reads as an
object with its names, none of them twice, and with its values, in its order. -/
theorem read?_compact_after (steps : List (String × Step)) (name : String) :
    ∃ members, Json.read? (held (after .empty steps) name).toJson.compact = some (.object members) ∧
      members.map (·.1) = (held (after .empty steps) name).names ∧
      (members.map (·.1)).Nodup ∧
      ofMembers? members = some (held (after .empty steps) name).toPairs := by
  refine ⟨_, read?_compact_toJson _, map_fst_toMembers _, ?_, ofMembers?_toMembers _⟩
  rw [map_fst_toMembers]
  exact (held (after .empty steps) name).nodup_names

/-- Quotes, backslashes and controls are escaped, and a text of digits stays a text. -/
example :
    (ofPairs [("a\"b", .text "\\\n\x01é"), ("n", .text "42"), ("m", .integer 42)]).toJson.compact =
      "\x7b\"a\\\"b\":\"\\\\\\n\\u0001é\",\"n\":\"42\",\"m\":42\x7d" := by
  decide

end Parameters

end StreamSource
