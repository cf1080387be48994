import StreamSource.Toml.Basic

/-! The table under construction. A table is explicit when a header of its own
opened it, implicit when a longer header led through it, and dotted when dotted keys
made it; the three differ in who may still add to them. Arrays of tables grow by
headers and stand for their last table everywhere else. An addition that would
define something twice is refused. -/

namespace StreamSource.Toml

inductive TableKind
  | explicit
  | implicit
  | dotted
  deriving DecidableEq

inductive Node
  | value (v : Toml)
  | table (kind : TableKind) (entries : List (String × Node))
  | tables (items : List (List (String × Node)))

abbrev Entries := List (String × Node)

namespace Entries

def get? (t : Entries) (key : String) : Option Node := (t.find? fun e => e.1 = key).map (·.2)

/-- Put a node under a key, in the place of the one there or at the end. -/
def put (t : Entries) (key : String) (n : Node) : Entries :=
  if (t.get? key).isSome then t.map fun e => if e.1 = key then (key, n) else e
  else t ++ [(key, n)]

def erase (t : Entries) (key : String) : Entries := t.filter fun e => e.1 ≠ key

/-- Change the table at the end of a path, of which `f` learns the kind. Missing tables on
the way spring up with the kind `fresh`; dotted keys lead through no explicit table. -/
def within (fresh kind : TableKind) (f : TableKind → Entries → Option Entries) :
    List String → Entries → Option Entries
  | [], t => f kind t
  | k :: ks, t =>
    match t.get? k with
    | none => (within fresh fresh f ks []).map fun s => t.put k (.table fresh s)
    | some (.value _) => none
    | some (.tables []) => none
    | some (.tables (s :: ss)) =>
      (within fresh .explicit f ks ((s :: ss).getLast (by simp))).map fun s' =>
        t.put k (.tables ((s :: ss).dropLast ++ [s']))
    | some (.table kind s) =>
      if fresh = .dotted ∧ kind = .explicit then none
      else (within fresh kind f ks s).map fun s' => t.put k (.table kind s')

/-- Add one value. A dotted key may not add to a table that a header made. -/
def addValue (v : Toml) (path : List String) (key : String) (t : Entries) : Option Entries :=
  within .dotted .explicit (fun kind s =>
    if (kind = .dotted) = (path = []) then none
    else if (s.get? key).isSome then none
    else some (s.put key (.value v))) path t

def addValues (t : Entries) : List (List String × String × Toml) → Option Entries
  | [] => some t
  | (path, key, v) :: rest => (addValue v path key t).bind fun t => addValues t rest

/-- Open a table by its header and fill it. An implicit table keeps what it holds. -/
def addTable (path : List String) (key : String) (values : List (List String × String × Toml)) :
    Entries → Option Entries :=
  within .implicit .explicit (fun _ s => do
    let base ← match s.get? key with
      | none => some []
      | some (.table .implicit b) => some b
      | some _ => none
    let filled ← addValues base values
    return s.erase key ++ [(key, .table .explicit filled)]) path

/-- Open one more table of an array by its header and fill it. -/
def addToArray (path : List String) (key : String) (values : List (List String × String × Toml)) :
    Entries → Option Entries :=
  within .implicit .explicit (fun _ s => do
    let earlier ← match s.get? key with
      | none => some []
      | some (.tables ts) => some ts
      | some _ => none
    let filled ← addValues [] values
    return s.put key (.tables (earlier ++ [filled]))) path

end Entries

mutual

def Node.toToml : Node → Toml
  | .value v => v
  | .table _ entries => .table (Entries.toToml entries)
  | .tables items => .array (Entries.allToToml items)

def Entries.toToml : List (String × Node) → List (String × Toml)
  | [] => []
  | (k, n) :: r => (k, n.toToml) :: Entries.toToml r

def Entries.allToToml : List (List (String × Node)) → List Toml
  | [] => []
  | t :: r => .table (Entries.toToml t) :: Entries.allToToml r

end

end StreamSource.Toml
