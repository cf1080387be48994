import StreamSource.Binary64.Basic

/-! The four operations on finite numbers that are not negative, each the exact result
rounded once, and their order. -/

namespace StreamSource.Binary64

/-- Numerator and denominator. -/
def fraction : Binary64 → Nat × Nat
  | .finite _ m q => if 0 ≤ q then (m * Nat.pow 2 q.toNat, 1) else (m, Nat.pow 2 (-q).toNat)
  | _ => (0, 1)

def ofNat (n : Nat) : Binary64 := nearest false n 1

def add (x y : Binary64) : Binary64 :=
  nearest false (x.fraction.1 * y.fraction.2 + y.fraction.1 * x.fraction.2)
    (x.fraction.2 * y.fraction.2)

/-- The difference, for a second number that is not the greater one. -/
def sub (x y : Binary64) : Binary64 :=
  nearest false (x.fraction.1 * y.fraction.2 - y.fraction.1 * x.fraction.2)
    (x.fraction.2 * y.fraction.2)

def mul (x y : Binary64) : Binary64 :=
  nearest false (x.fraction.1 * y.fraction.1) (x.fraction.2 * y.fraction.2)

def div (x y : Binary64) : Binary64 :=
  nearest false (x.fraction.1 * y.fraction.2) (x.fraction.2 * y.fraction.1)

def less (x y : Binary64) : Bool :=
  x.fraction.1 * y.fraction.2 < y.fraction.1 * x.fraction.2

end StreamSource.Binary64
