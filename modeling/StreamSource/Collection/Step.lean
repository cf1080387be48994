import StreamSource.Collection.Basic
import StreamSource.Registers

/-! Runs over registers of collections. A step works on one register, which springs up
empty when it is named so; some steps name a second register, which acts as empty
while nothing was written to it. Each step gives an answer, and a refused step
changes no contents. -/

namespace StreamSource.Collection

variable {α : Type}

inductive Step (α : Type)
  | add (x : α)
  | insert (i : Nat) (x : α)
  | remove (i : Nat)
  | take (i : Nat)
  | get (i : Nat)
  | set (i : Nat) (x : α)
  | find (p : α → Bool)
  | position (p : α → Bool)
  | size
  | clear
  | update (f : α → α)
  | list
  | extend (xs : List α)
  | replace (xs : List α)
  | drain
  | copy (target : String)
  | append (source : String)
  | equals (other : String)

inductive Answer (α : Type)
  | done
  | succeeded
  | accepted (b : Bool)
  | index (i : Nat)
  | index? (i : Option Nat)
  | item? (x : Option α)
  | found? (x : Option (Nat × α))
  | size (n : Nat) (isEmpty : Bool)
  | items (xs : List α)
  | failed (e : Error)

/-- What a step does to the collection of its register alone. -/
def Step.local? [Copyable α] (c : Collection α) : Step α → Option (Answer α × Collection α)
  | .add x => some (.index c.size, c.add x)
  | .insert i x => some (.accepted (c.insert? i x).isSome, (c.insert? i x).getD c)
  | .remove i => some (.accepted (c.take? i).isSome, ((c.take? i).map (·.2)).getD c)
  | .take i => some (.item? ((c.take? i).map (·.1)), ((c.take? i).map (·.2)).getD c)
  | .get i => some (.item? (c.get? i), c)
  | .set i x => some (.accepted (c.set? i x).isSome, (c.set? i x).getD c)
  | .find p => some (.found? (c.find? p), c)
  | .position p => some (.index? (c.position? p), c)
  | .size => some (.size c.size c.isEmpty, c)
  | .clear => some (.done, empty)
  | .update f => some (.done, c.map f)
  | .list => some (.items c.items, c)
  | .extend xs => some (.done, c.extend xs)
  | .replace xs => some (.done, ⟨xs⟩)
  | .drain => some (.items c.items, empty)
  | .copy _ | .append _ | .equals _ => none

/-- One step on the register `on`. -/
def Step.run [DecidableEq α] [Copyable α] (on : String) (r : Registers (Collection α)) (s : Step α) :
    Answer α × Registers (Collection α) :=
  let c := r.getD on empty
  let r := r.put on c
  match s with
  | .copy target =>
    match c.copy with
    | .ok d => (.items d.items, r.put target d)
    | .error e => (.failed e, r)
  | .append source =>
    let o := r.getD source empty
    let r := r.put source o
    match c.append o with
    | .ok d => (.succeeded, r.put on d)
    | .error e => (.failed e, r)
  | .equals other => (.accepted (r.get? other == some c), r)
  | s =>
    match s.local? c with
    | some (a, d) => (a, r.put on d)
    | none => (.done, r)

/-- The answers of a run, each with what its register holds after the step. -/
def run [DecidableEq α] [Copyable α] (r : Registers (Collection α)) :
    List (String × Step α) → List (Answer α × Collection α)
  | [] => []
  | (on, s) :: steps =>
    let (a, r) := s.run on r
    (a, r.getD on empty) :: run r steps

end StreamSource.Collection
