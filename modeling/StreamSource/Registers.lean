/-! Named registers. A run of steps works on values kept under names; a name that was
never written holds nothing. -/

namespace StreamSource

structure Registers (α : Type) where
  get? : String → Option α

namespace Registers

variable {α : Type}

def empty : Registers α := ⟨fun _ => none⟩

def getD (r : Registers α) (name : String) (default : α) : α := (r.get? name).getD default

def put (r : Registers α) (name : String) (a : α) : Registers α :=
  ⟨fun n => if n = name then some a else r.get? n⟩

@[simp] theorem get?_put_self (r : Registers α) (name : String) (a : α) :
    (r.put name a).get? name = some a := by
  simp [put]

theorem get?_put_of_ne (r : Registers α) {name n : String} (a : α) (h : n ≠ name) :
    (r.put name a).get? n = r.get? n := by
  simp [put, h]

theorem getD_put (r : Registers α) (name : String) (a : α) (n : String) (default : α) :
    (r.put name a).getD n default = if n = name then a else r.getD n default := by
  unfold getD
  by_cases h : n = name
  · rw [if_pos h, h, get?_put_self, Option.getD_some]
  · rw [if_neg h, get?_put_of_ne r a h]

/-- To write back what a register holds, if only by default, changes nothing that is held. -/
theorem getD_put_getD (r : Registers α) (name n : String) (default : α) :
    (r.put name (r.getD name default)).getD n default = r.getD n default := by
  rw [getD_put]
  split
  · rename_i h
    rw [h]
  · rfl

end Registers

end StreamSource
