import StreamSource.Binary64.Basic

/-! The fewest digits that read back. The decimals that round to `m * 2 ^ q` form an
interval whose ends belong to it exactly when `m` is even. On each decimal grid,
coarsest first, the two neighbours of the number are tried; the first grid with a
neighbour inside gives the digits, the nearer neighbour being taken, the upper
one at a tie. -/

namespace StreamSource.Binary64

/-- The number and the ends of its interval, over one denominator. -/
structure Interval where
  low : Nat
  value : Nat
  high : Nat
  den : Nat
  closed : Bool

/-- The interval of `m * 2 ^ q`: half a step on each side, a quarter below a power of two. -/
def interval (m : Nat) (q : Int) : Interval :=
  let s := scale 1 1 (2 - q)
  let below := if m = Nat.pow 2 52 ∧ minExponent < q then 1 else 2
  ⟨(4 * m - below) * s.1, 4 * m * s.1, (4 * m + 2) * s.1, s.2, m % 2 == 0⟩

/-- The exponent `e` with `10 ^ e ≤ value < 10 ^ (e + 1)`. -/
def Interval.magnitude (i : Interval) : Int :=
  if i.den ≤ i.value then (Nat.toDigits 10 (i.value / i.den)).length - 1
  else
    let k := (Nat.toDigits 10 i.den).length - (Nat.toDigits 10 i.value).length
    if i.den ≤ i.value * Nat.pow 10 k then -(k : Int) else -(k : Int) - 1

/-- Whether `a * 10 ^ t` lies in the interval. -/
def Interval.holds (i : Interval) (a : Nat) (t : Int) : Bool :=
  let x := a * Nat.pow 10 t.toNat * i.den
  let y := Nat.pow 10 (-t).toNat
  if i.closed then i.low * y ≤ x && x ≤ i.high * y else i.low * y < x && x < i.high * y

/-- The neighbour of the number that a grid of step `10 ^ t` has inside the interval. -/
def Interval.onGrid? (i : Interval) (t : Int) : Option Nat :=
  let n := i.value * Nat.pow 10 (-t).toNat
  let d := i.den * Nat.pow 10 t.toNat
  let a := n / d
  match i.holds a t, i.holds (a + 1) t with
  | true, true => some (if 2 * (n % d) < d then a else a + 1)
  | true, false => some a
  | false, true => some (a + 1)
  | false, false => none

/-- The digits without zeros at the end, and the exponent that makes up for them. -/
def dropZeros : Nat → Nat → Int → Nat × Int
  | 0, a, t => (a, t)
  | fuel + 1, a, t => if a ≠ 0 ∧ a % 10 = 0 then dropZeros fuel (a / 10) (t + 1) else (a, t)

/-- The pair `(a, t)` of the shortest decimal `a * 10 ^ t` that rounds to `m * 2 ^ q`. -/
def shortest (m : Nat) (q : Int) : Nat × Int :=
  if m = 0 then (0, 0)
  else
    let i := interval m q
    let e := i.magnitude
    match (List.range 17).findSome? fun (n : Nat) => (i.onGrid? (e - n)).map fun a => (a, e - n) with
    | some (a, t) => dropZeros 20 a t
    | none => (m * Nat.pow 2 q.toNat, 0)

end StreamSource.Binary64
