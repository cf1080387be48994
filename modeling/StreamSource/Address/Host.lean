import StreamSource.Address.Reader
import StreamSource.Text.Cut

/-! Hosts that are written in numbers. Besides the usual form, an address of the fourth
version may be given by one to four numerals between points, each decimal, octal
after a zero or hexadecimal after `0x`; the last of them fills the bytes that are
left. One of the sixth version may have a scope after a percent sign: a number, or
for an address of link or node scope the name of an interface. -/

namespace StreamSource

open Text

namespace Ipv4

def numeral? : List Char → Option Nat
  | '0' :: c :: r =>
    if c = 'x' ∨ c = 'X' then naturalIn? 16 r else naturalIn? 8 (c :: r)
  | cs => natural? cs

def ofNat (n : Nat) : Ipv4 :=
  ⟨UInt8.ofNat (n >>> 24), UInt8.ofNat (n >>> 16), UInt8.ofNat (n >>> 8), UInt8.ofNat n⟩

/-- The number that numerals make, of which each but the last is one byte, if what is left
of `size` bytes holds the last. -/
def join? : Nat → List Nat → Option Nat
  | 0, _ => none
  | _, [] => none
  | size + 1, [n] => if n < Nat.pow 256 (size + 1) then some n else none
  | size + 1, n :: ns => if n < 256 then (join? size ns).map (n * Nat.pow 256 size + ·) else none

def ofNumerals? (s : String) : Option Ipv4 :=
  ((pieces '.' s.toList).mapM numeral?).bind fun ns => (join? 4 ns).map ofNat

end Ipv4

namespace Ipv6

def firstGroup (ip : Ipv6) : UInt16 := ip.groups[0]

/-- Whether the address belongs to one link or one node, so that an interface tells more. -/
def isLocal (ip : Ipv6) : Bool :=
  ip.firstGroup &&& 0xFFC0 == 0xFE80 || ip.firstGroup &&& 0xFF0F == 0xFF01
    || ip.firstGroup &&& 0xFF0F == 0xFF02

/-- The interfaces that every machine has, with their numbers. -/
def interfaces : List (String × UInt32) := [("lo", 1)]

def scopeOf? (ip : Ipv6) (cs : List Char) : Option UInt32 :=
  let named := (interfaces.find? fun i => i.1.toList = cs).map (·.2)
  if ip.isLocal && named.isSome then named
  else ((natural? cs).filter (· < UInt32.size)).map UInt32.ofNat

end Ipv6

namespace Socket

/-- The socket of an address with a scope. -/
def scoped? (s : String) (port : UInt16) : Option Socket := do
  let (address, scope) ← cut? ['%'] s.toList
  let ip ← whole? (Ipv6.read? address)
  return .v6 ip port (← ip.scopeOf? scope)

/-- The socket at a host that is written in numbers. -/
def ofHost? (host : String) (port : UInt16) : Option Socket :=
  (Ip.ofText? host).map (ofIp · port)
    <|> (Ipv4.ofNumerals? host).map (.v4 · port)
    <|> scoped? host port

end Socket

end StreamSource
