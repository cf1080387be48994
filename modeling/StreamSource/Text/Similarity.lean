import StreamSource.Binary64.Arithmetic

/-! How alike two texts are, from zero to one, by the measure of Jaro and Winkler.
Characters match when they are equal and not too far apart, each character being
matched once; matches out of order count half. A similarity above seven tenths is
raised for every character, up to four, that the texts have in common at the start. -/

namespace StreamSource.Text

/-- The first index from `low` up to `high` at which `b` has `c` and `used` does not say
that it was matched. -/
def matchAt? (c : Char) (b : List Char) (used : List Nat) (low high : Nat) : Option Nat :=
  (List.range high).find? fun j => low ≤ j && b[j]? = some c && !used.contains j

/-- For each character of `a` that has a match, the character and the index in `b`. -/
def matchesFrom (b : List Char) (reach : Nat) :
    Nat → List Nat → List Char → List (Char × Nat)
  | _, _, [] => []
  | i, used, c :: cs =>
    match matchAt? c b used (i - reach) (min b.length (i + reach + 1)) with
    | some j => (c, j) :: matchesFrom b reach (i + 1) (j :: used) cs
    | none => matchesFrom b reach (i + 1) used cs

/-- The matched characters of `b` in its own order. -/
def matchedOf (b : List Char) (indices : List Nat) : List Char :=
  (b.zipIdx.filter fun p => indices.contains p.2).map (·.1)

def jaro (a b : List Char) : Binary64 :=
  if a.isEmpty && b.isEmpty then .ofNat 1
  else if a.isEmpty || b.isEmpty then .ofNat 0
  else
    let ms := matchesFrom b (max a.length b.length / 2 - 1) 0 [] a
    let m := Binary64.ofNat ms.length
    let moved := ((ms.map (·.1)).zip (matchedOf b (ms.map (·.2)))).countP fun p => p.1 ≠ p.2
    if ms.isEmpty then .ofNat 0
    else
      (((m.div (.ofNat a.length)).add (m.div (.ofNat b.length))).add
        ((Binary64.ofNat (ms.length - moved / 2)).div m)).div (.ofNat 3)

/-- The number of equal characters at the start of both, four at most. -/
def commonStart (a b : List Char) : Nat :=
  ((a.take 4).zip b).takeWhile (fun p => p.1 == p.2) |>.length

def tenths (n : Nat) : Binary64 := .ofDecimal false n (-1)

def similarity (a b : List Char) : Binary64 :=
  let s := jaro a b
  if (tenths 7).less s then
    s.add (((tenths 1).mul (.ofNat (commonStart a b))).mul ((Binary64.ofNat 1).sub s))
  else s

/-- The last of the best of `candidates`, if it is more than three quarters alike. -/
def closest? (unknown : String) (candidates : List String) : Option String :=
  let scored := candidates.map fun c => (c, similarity unknown.toList c.toList)
  let good := scored.filter fun p => (Binary64.ofDecimal false 75 (-2)).less p.2
  (good.foldl (fun best p =>
    match best with
    | none => some p
    | some q => if p.2.less q.2 then some q else some p) none).map (·.1)

end StreamSource.Text
