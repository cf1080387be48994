import StreamSource.Address.Basic

/-! Reading addresses and sockets. An octet has at most three digits and no leading
zero, a group at most four hexadecimal digits; one run of zero groups may be left
out, and the last two groups may be written as octets. Each reader gives the rest
that it leaves; an address must be the whole of a text. -/

namespace StreamSource

namespace Text

/-- A number of at most `width` digits, and the rest after the last digit. -/
def digits? (base width : Nat) (cs : List Char) : Option (Nat × List Char) :=
  let ds := cs.takeWhile fun c => (digit? base c).isSome
  if width < ds.length then none
  else (naturalIn? base ds).map fun n => (n, cs.drop ds.length)

/-- A decimal number below `bound`, of any length. -/
def below? (bound : Nat) (cs : List Char) : Option (Nat × List Char) :=
  (digits? 10 cs.length cs).filter fun p => p.1 < bound

/-- The rest after a character that must come next. -/
def after? (c : Char) : List Char → Option (List Char)
  | d :: cs => if d = c then some cs else none
  | [] => none

def whole? {α : Type} (p : Option (α × List Char)) : Option α :=
  p.bind fun p => if p.2.isEmpty then some p.1 else none

end Text

open Text

namespace Ipv4

def octet? (cs : List Char) : Option (UInt8 × List Char) :=
  (digits? 10 3 cs).bind fun (n, r) =>
    if 256 ≤ n ∨ (cs.head? = some '0' ∧ 1 < cs.length - r.length) then none
    else some (UInt8.ofNat n, r)

def read? (cs : List Char) : Option (Ipv4 × List Char) := do
  let (a, r) ← octet? cs
  let (b, r) ← octet? (← after? '.' r)
  let (c, r) ← octet? (← after? '.' r)
  let (d, r) ← octet? (← after? '.' r)
  return (⟨a, b, c, d⟩, r)

end Ipv4

namespace Ipv6

def group? (cs : List Char) : Option (UInt16 × List Char) :=
  (digits? 16 4 cs).map fun p => (UInt16.ofNat p.1, p.2)

/-- The text that an item starts with, after a colon unless the item is the first. -/
def item? (first : Bool) (cs : List Char) : Option (List Char) :=
  if first then some cs else after? ':' cs

/-- As many groups as come next, `room` at most; whether octets ended them; the rest. -/
def readGroups (first : Bool) : Nat → List Char → List UInt16 × Bool × List Char
  | 0, cs => ([], false, cs)
  | room + 1, cs =>
    match if room = 0 then none else (item? first cs).bind Ipv4.read? with
    | some (v4, r) => (v4.groups, true, r)
    | none =>
      match (item? first cs).bind group? with
      | none => ([], false, cs)
      | some (g, r) =>
        let (gs, octets, r) := readGroups false room r
        (g :: gs, octets, r)

def read? (cs : List Char) : Option (Ipv6 × List Char) :=
  let (head, octets, r) := readGroups true 8 cs
  if head.length = 8 then (ofList? head).map fun ip => (ip, r)
  else if octets then none
  else do
    let r ← after? ':' r
    let r ← after? ':' r
    let (tail, _, r) := readGroups true (7 - head.length) r
    let ip ← ofList? (head ++ List.replicate (8 - head.length - tail.length) 0 ++ tail)
    return (ip, r)

end Ipv6

def Ip.ofText? (s : String) : Option Ip :=
  (whole? (Ipv4.read? s.toList)).map .v4 <|> (whole? (Ipv6.read? s.toList)).map .v6

namespace Socket

def port? (cs : List Char) : Option (UInt16 × List Char) := do
  let (n, r) ← below? UInt16.size (← after? ':' cs)
  return (UInt16.ofNat n, r)

/-- A scope, zero if none is written. -/
def scope? (cs : List Char) : Option (UInt32 × List Char) :=
  match after? '%' cs with
  | none => some (0, cs)
  | some r => (below? UInt32.size r).map fun p => (UInt32.ofNat p.1, p.2)

def v4? (cs : List Char) : Option (Socket × List Char) := do
  let (ip, r) ← Ipv4.read? cs
  let (port, r) ← port? r
  return (.v4 ip port, r)

def v6? (cs : List Char) : Option (Socket × List Char) := do
  let (ip, r) ← Ipv6.read? (← after? '[' cs)
  let (scope, r) ← scope? r
  let (port, r) ← port? (← after? ']' r)
  return (.v6 ip port scope, r)

def ofText? (s : String) : Option Socket := whole? (v4? s.toList) <|> whole? (v6? s.toList)

end Socket

end StreamSource
