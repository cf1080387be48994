import StreamSource.Error
import StreamSource.Json.Printer
import StreamSource.Value

/-! Parameters: named values in the order in which the names were first set, no name
twice. Setting a name that is present changes its value where it stands; a merge goes
through the other collection in its order. -/

namespace StreamSource

structure Parameter where
  name : String
  value : ParameterValue
  deriving DecidableEq

namespace Parameter

/-- Give `name` the value `v`: where its first parameter stands, or at the end if it has none. -/
def put (name : String) (v : ParameterValue) : List Parameter → List Parameter
  | [] => [⟨name, v⟩]
  | p :: ps => if p.name = name then ⟨name, v⟩ :: ps else p :: put name v ps

theorem map_name_put (name : String) (v : ParameterValue) (ps : List Parameter) :
    (put name v ps).map (·.name) =
      if name ∈ ps.map (·.name) then ps.map (·.name) else ps.map (·.name) ++ [name] := by
  induction ps with
  | nil => rfl
  | cons p ps ih =>
    rw [put]
    by_cases hp : p.name = name
    · simp [hp]
    · rw [if_neg hp, List.map_cons, List.map_cons, ih]
      by_cases hmem : name ∈ ps.map (·.name)
      · rw [if_pos hmem, if_pos (List.mem_cons_of_mem _ hmem)]
      · have hnot : name ∉ p.name :: ps.map (·.name) := by simp [Ne.symm hp, hmem]
        rw [if_neg hmem, if_neg hnot, List.cons_append]

theorem nodup_put {ps : List Parameter} (h : (ps.map (·.name)).Nodup) (name : String)
    (v : ParameterValue) : ((put name v ps).map (·.name)).Nodup := by
  rw [map_name_put]
  split
  · exact h
  · rename_i hnot
    refine List.nodup_append.2 ⟨h, List.pairwise_singleton _ _, fun n hn m hm => ?_⟩
    rintro rfl
    exact hnot (List.mem_singleton.1 hm ▸ hn)

end Parameter

structure Parameters where
  items : List Parameter
  nodup : (items.map (·.name)).Nodup
  deriving DecidableEq

namespace Parameters

theorem eq_of_items_eq {ps qs : Parameters} (h : ps.items = qs.items) : ps = qs := by
  cases ps
  cases h
  rfl

def empty : Parameters := ⟨[], .nil⟩

def size (ps : Parameters) : Nat := ps.items.length

def names (ps : Parameters) : List String := ps.items.map (·.name)

def get? (ps : Parameters) (name : String) : Option Parameter :=
  ps.items.find? fun p => p.name = name

def value? (ps : Parameters) (name : String) : Option ParameterValue :=
  (ps.get? name).map (·.value)

def contains (ps : Parameters) (name : String) : Bool := ps.items.any fun p => p.name = name

/-- Give `name` the value `v`, in its place if it is present and at the end if not. -/
def set (ps : Parameters) (name : String) (v : ParameterValue) : Parameters :=
  ⟨Parameter.put name v ps.items, Parameter.nodup_put ps.nodup name v⟩

def erase (ps : Parameters) (name : String) : Parameters :=
  ⟨ps.items.eraseP fun p => p.name = name, ps.nodup.sublist (List.eraseP_sublist.map _)⟩

/-- Set a parameter that is absent, and if `overwrite` a present one too. -/
def offer (overwrite : Bool) (ps : Parameters) (p : Parameter) : Parameters :=
  if overwrite || !ps.contains p.name then ps.set p.name p.value else ps

/-- Offer every parameter of `other`, in its order. -/
def merge (ps other : Parameters) (overwrite : Bool) : Parameters :=
  other.items.foldl (offer overwrite) ps

/-- Set one name after the other. -/
def setAll (ps : Parameters) (pairs : List (String × ParameterValue)) : Parameters :=
  pairs.foldl (fun acc p => acc.set p.1 p.2) ps

def ofPairs (pairs : List (String × ParameterValue)) : Parameters := empty.setAll pairs

def toPairs (ps : Parameters) : List (String × ParameterValue) :=
  ps.items.map fun p => (p.name, p.value)

def textD (ps : Parameters) (name default : String) : String :=
  ((ps.value? name).map ParameterValue.display).getD default

def integerD (ps : Parameters) (name : String) (default : Int64) : Int64 :=
  ((ps.value? name).bind ParameterValue.asInteger?).getD default

def booleanD (ps : Parameters) (name : String) (default : Bool) : Bool :=
  ((ps.value? name).bind ParameterValue.asBoolean?).getD default

/-- The first of `names` that is absent. -/
def missing? (ps : Parameters) (names : List String) : Option String :=
  names.find? fun n => !ps.contains n

def require (ps : Parameters) (names : List String) : Except Error Unit :=
  match ps.missing? names with
  | some n => .error (.missingParameter n)
  | none => .ok ()

/-- The first parameter with exactly this value, after its index. -/
def findValue? (ps : Parameters) (v : ParameterValue) : Option (Nat × Parameter) :=
  (ps.items.findIdx? fun p => p.value = v).bind fun i => ps.items[i]?.map fun p => (i, p)

def line (p : Parameter) : String := p.name ++ " = " ++ p.value.display

def lines (ps : Parameters) : List String := ps.items.map line

def toJson (ps : Parameters) : Json := .object (ps.items.map fun p => (p.name, p.value.toJson))

theorem nodup_names (ps : Parameters) : ps.names.Nodup := ps.nodup

theorem contains_iff {ps : Parameters} {name : String} :
    ps.contains name = true ↔ name ∈ ps.names := by
  simp [contains, names]

theorem names_set (ps : Parameters) (name : String) (v : ParameterValue) :
    (ps.set name v).names = if ps.contains name then ps.names else ps.names ++ [name] := by
  simp only [contains_iff]
  exact Parameter.map_name_put name v ps.items

end Parameters

end StreamSource
