/-! Numbers in the binary format of 64 bits: not a number, the infinities, and the
dyadic numbers `± m * 2 ^ q` with `m` below `2 ^ 53` and `q` from `-1074` to `971`.
A nonnegative fraction is rounded to the nearest of them, a tie going to the even
significand. Everything is exact arithmetic on natural numbers. -/

namespace StreamSource

inductive Binary64
  | nan
  | infinite (negative : Bool)
  | finite (negative : Bool) (m : Nat) (q : Int)
  deriving DecidableEq

namespace Binary64

def minExponent : Int := -1074

def maxExponent : Int := 971

/-- The quotient of `n` by `d` to the nearest natural number, a tie going to the even one. -/
def roundDiv (n d : Nat) : Nat :=
  let k := n / d
  let r := n % d
  if 2 * r < d then k else if d < 2 * r then k + 1 else k + k % 2

/-- Numerator and denominator of `n / d / 2 ^ q`. -/
def scale (n d : Nat) (q : Int) : Nat × Nat :=
  if 0 ≤ q then (n, d * Nat.pow 2 q.toNat) else (n * Nat.pow 2 (-q).toNat, d)

/-- The exponent at which `n / d` has a significand of 53 bits, or the least one. -/
def exponentOf (n d : Nat) : Int :=
  let q : Int := (n.log2 : Int) - d.log2 - 53
  let s := scale n d q
  max (if s.1 / s.2 < Nat.pow 2 53 then q else q + 1) minExponent

/-- The number nearest to `n / d`. -/
def nearest (negative : Bool) (n d : Nat) : Binary64 :=
  if n = 0 then .finite negative 0 minExponent
  else
    let q := exponentOf n d
    let s := scale n d q
    let m := roundDiv s.1 s.2
    let r := if m = Nat.pow 2 53 then (Nat.pow 2 52, q + 1) else (m, q)
    if maxExponent < r.2 then .infinite negative else .finite negative r.1 r.2

/-- The number nearest to `m * 10 ^ e`. Beyond 400 places on either side of the
point the result is infinite or zero, and no power is formed. -/
def ofDecimal (negative : Bool) (m : Nat) (e : Int) : Binary64 :=
  let places : Int := (Nat.toDigits 10 m).length + e
  if m = 0 ∨ places < -400 then .finite negative 0 minExponent
  else if 400 < places then .infinite negative
  else if 0 ≤ e then nearest negative (m * Nat.pow 10 e.toNat) 1
  else nearest negative m (Nat.pow 10 (-e).toNat)

def isPositiveInfinity : Binary64 → Bool
  | .infinite false => true
  | _ => false

theorem roundDiv_mul_self (n : Nat) {d : Nat} (h : 0 < d) : roundDiv (n * d) d = n := by
  simp [roundDiv, Nat.mul_div_cancel _ h, h]

end Binary64

end StreamSource
