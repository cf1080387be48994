import StreamSource.Error

/-! Collections: items in an order that operations by index read and change. An item
may refuse to be copied; a copy of a collection is whole or fails at the first
item that refuses, and appending copies before it changes anything. -/

namespace StreamSource

structure Collection (α : Type) where
  items : List α
  deriving DecidableEq

/-- Items of which some may refuse to be copied. -/
class Copyable (α : Type) where
  typeName : String
  refuses : α → Bool

namespace Collection

variable {α : Type}

def empty : Collection α := ⟨[]⟩

def size (c : Collection α) : Nat := c.items.length

def isEmpty (c : Collection α) : Bool := c.items.isEmpty

/-- The item goes to the end; its index is the old size. -/
def add (c : Collection α) (x : α) : Collection α := ⟨c.items ++ [x]⟩

/-- An index beyond the end is refused. -/
def insert? (c : Collection α) (i : Nat) (x : α) : Option (Collection α) :=
  if i ≤ c.size then some ⟨c.items.take i ++ x :: c.items.drop i⟩ else none

/-- The item at an index and the collection without it. -/
def take? (c : Collection α) (i : Nat) : Option (α × Collection α) :=
  c.items[i]?.map fun x => (x, ⟨c.items.eraseIdx i⟩)

def get? (c : Collection α) (i : Nat) : Option α := c.items[i]?

def set? (c : Collection α) (i : Nat) (x : α) : Option (Collection α) :=
  if i < c.size then some ⟨c.items.set i x⟩ else none

def position? (c : Collection α) (p : α → Bool) : Option Nat := c.items.findIdx? p

/-- The first item that satisfies `p`, after its index. -/
def find? (c : Collection α) (p : α → Bool) : Option (Nat × α) :=
  (c.position? p).bind fun i => c.items[i]?.map fun x => (i, x)

def map (f : α → α) (c : Collection α) : Collection α := ⟨c.items.map f⟩

def extend (c : Collection α) (xs : List α) : Collection α := ⟨c.items ++ xs⟩

/-- Copies of items, one after the other; the first of them has the index `i`. -/
def copies [Copyable α] (i : Nat) : List α → Except Error (List α)
  | [] => .ok []
  | x :: xs =>
    if Copyable.refuses x then .error (.cloneUnsupported i (Copyable.typeName α))
    else (copies (i + 1) xs).map (x :: ·)

/-- A copy of the whole collection. -/
def copy [Copyable α] (c : Collection α) : Except Error (Collection α) :=
  (copies 0 c.items).map Collection.mk

/-- Copies of the items of `other` go to the end. -/
def append [Copyable α] (c other : Collection α) : Except Error (Collection α) :=
  other.copy.map fun o => c.extend o.items

@[simp] theorem size_add (c : Collection α) (x : α) : (c.add x).size = c.size + 1 := by
  simp [add, size]

theorem insert?_isSome_iff (c : Collection α) (i : Nat) (x : α) :
    (c.insert? i x).isSome ↔ i ≤ c.size := by
  simp [insert?]

theorem take?_isSome_iff (c : Collection α) (i : Nat) : (c.take? i).isSome ↔ i < c.size := by
  simp [take?, size]

end Collection

end StreamSource
