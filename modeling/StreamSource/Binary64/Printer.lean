import StreamSource.Binary64.Shortest
import StreamSource.Text.Numeral

/-! The written forms of a number, all with the fewest digits that read back. The
plain form is positional throughout. The pointed form shows at least one place
after the point. The general form is the pointed one from `10 ^ -4` up to
`10 ^ 16` and has an exponent outside. -/

namespace StreamSource.Binary64

open Text

/-- Digits with the point `point` places after the first one's left side. -/
def positional (ds : List Char) (point : Int) : List Char × List Char :=
  if point ≤ 0 then (['0'], List.replicate (-point).toNat '0' ++ ds)
  else
    let n := point.toNat
    (ds.take n ++ List.replicate (n - ds.length) '0', ds.drop n)

def signText (negative : Bool) : String := if negative then "-" else ""

/-- The digits of the shortest decimal and the place of its point. -/
def digitsAndPoint (m : Nat) (q : Int) : List Char × Int :=
  let s := shortest m q
  if s.1 = 0 then ([], 0)
  else
    let ds := Nat.toDigits 10 s.1
    (ds, ds.length + s.2)

def positionalText (pointed : Bool) (m : Nat) (q : Int) : String :=
  let d := digitsAndPoint m q
  let p := positional d.1 d.2
  let fraction := if p.2.isEmpty && pointed then ['0'] else p.2
  String.ofList (if fraction.isEmpty then p.1 else p.1 ++ '.' :: fraction)

def exponentText (m : Nat) (q : Int) : String :=
  let d := digitsAndPoint m q
  let mantissa := match d.1 with
    | [] => ['0']
    | [c] => [c]
    | c :: r => c :: '.' :: r
  String.ofList mantissa ++ "e" ++ showInt (d.2 - 1)

/-- The form of the three that `body` gives to finite numbers. -/
def write (body : Nat → Int → String) : Binary64 → String
  | .nan => "NaN"
  | .infinite negative => signText negative ++ "inf"
  | .finite negative m q => signText negative ++ body m q

def plain : Binary64 → String := write (positionalText false)

def pointed : Binary64 → String := write (positionalText true)

def general : Binary64 → String := write fun m q =>
  let e := (digitsAndPoint m q).2 - 1
  if m = 0 ∨ (-4 ≤ e ∧ e < 16) then positionalText true m q else exponentText m q

end StreamSource.Binary64
