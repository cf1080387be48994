/-! Absolute paths, as the names on the way from the root. -/

namespace StreamSource

structure Path where
  names : List String
  deriving DecidableEq

namespace Path

/-- The names between the slashes of a text; an empty name and `.` lead nowhere. -/
def ofText (s : String) : Path := ⟨(s.splitOn "/").filter fun n => n ≠ "" ∧ n ≠ "."⟩

def child (p : Path) (name : String) : Path := ⟨p.names ++ [name]⟩

def written (p : Path) : String := "/" ++ "/".intercalate p.names

/-- A directory and those above it, the root last. -/
def ancestors (p : Path) : List Path :=
  (List.range (p.names.length + 1)).reverse.map fun n => ⟨p.names.take n⟩

/-- The length of the part that two lists of names begin with. -/
def common : List String → List String → Nat
  | a :: as, b :: bs => if a = b then common as bs + 1 else 0
  | _, _ => 0

/-- The names that lead from `base` to `p`, with `..` for each step up. -/
def relative (p base : Path) : List String :=
  let n := common base.names p.names
  List.replicate (base.names.length - n) ".." ++ p.names.drop n

/-- A path as seen from `base`: the relative form if it has fewer names, the root being
one of those of the absolute form. -/
def shownFrom (p base : Path) : String :=
  let r := relative p base
  if r.length < p.names.length + 1 then "/".intercalate r else p.written

end Path

end StreamSource
