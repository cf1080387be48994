/-! Values under names, in ascending order of the names. The order is that of the code
points, which is also that of the bytes of the texts. A name occurs at most once. -/

namespace StreamSource

/-- Entries whose names ascend strictly. -/
def Ascending {α : Type} (es : List (String × α)) : Prop := es.Pairwise fun a b => a.1 < b.1

namespace Entry

variable {α : Type}

def get? (es : List (String × α)) (name : String) : Option α :=
  (es.find? fun e => e.1 = name).map (·.2)

/-- Put a value under a name, in the place where it belongs. -/
def insert (es : List (String × α)) (name : String) (v : α) : List (String × α) :=
  match es with
  | [] => [(name, v)]
  | e :: r =>
    if name < e.1 then (name, v) :: e :: r
    else if name = e.1 then (name, v) :: r
    else e :: insert r name v

theorem mem_insert {es : List (String × α)} {name : String} {v : α} {e : String × α}
    (h : e ∈ insert es name v) : e = (name, v) ∨ e ∈ es := by
  induction es with
  | nil => simpa [insert] using h
  | cons a r ih =>
    rw [insert] at h
    split at h
    · simpa using h
    · split at h
      · rcases List.mem_cons.1 h with h | h
        · exact .inl h
        · exact .inr (List.mem_cons_of_mem _ h)
      · rcases List.mem_cons.1 h with h | h
        · exact .inr (h ▸ List.mem_cons_self)
        · exact (ih h).imp_right (List.mem_cons_of_mem _)

theorem ascending_insert {es : List (String × α)} (h : Ascending es) (name : String) (v : α) :
    Ascending (insert es name v) := by
  induction es with
  | nil => simp [insert, Ascending]
  | cons a r ih =>
    have ha := List.pairwise_cons.1 h
    rw [insert]
    split
    next hlt =>
      refine List.pairwise_cons.2 ⟨fun b hb => ?_, h⟩
      rcases List.mem_cons.1 hb with rfl | hb
      · exact hlt
      · exact String.lt_trans hlt (ha.1 b hb)
    next hlt =>
      split
      next heq => exact List.pairwise_cons.2 ⟨fun b hb => heq ▸ ha.1 b hb, ha.2⟩
      next hne =>
        refine List.pairwise_cons.2 ⟨fun b hb => ?_, ih ha.2⟩
        rcases mem_insert hb with rfl | hb
        · refine String.not_le.1 fun hle => hne ?_
          exact String.le_antisymm hle (String.not_lt.1 hlt)
        · exact ha.1 b hb

end Entry

structure NameMap (α : Type) where
  entries : List (String × α)
  ascending : Ascending entries

namespace NameMap

variable {α β : Type}

def empty : NameMap α := ⟨[], List.Pairwise.nil⟩

def get? (m : NameMap α) (name : String) : Option α := Entry.get? m.entries name

def names (m : NameMap α) : List String := m.entries.map (·.1)

def values (m : NameMap α) : List α := m.entries.map (·.2)

def insert (m : NameMap α) (name : String) (v : α) : NameMap α :=
  ⟨Entry.insert m.entries name v, Entry.ascending_insert m.ascending name v⟩

def ofList (es : List (String × α)) : NameMap α := es.foldl (fun m e => m.insert e.1 e.2) empty

/-- Change every value. -/
def map (f : α → β) (m : NameMap α) : NameMap β :=
  ⟨m.entries.map fun e => (e.1, f e.2), by
    simpa [Ascending, List.pairwise_map] using m.ascending⟩

end NameMap

end StreamSource
