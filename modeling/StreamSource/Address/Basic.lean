import StreamSource.Text.Numeral

/-! Internet addresses and sockets. An address of the sixth version is written without
leading zeros, with the first of its longest runs of two or more zero groups left
out, and with its last two groups as octets when it stands for an address of the
fourth version. -/

namespace StreamSource

structure Ipv4 where
  a : UInt8
  b : UInt8
  c : UInt8
  d : UInt8
  deriving DecidableEq

structure Ipv6 where
  groups : Vector UInt16 8
  deriving DecidableEq

inductive Ip
  | v4 (ip : Ipv4)
  | v6 (ip : Ipv6)
  deriving DecidableEq

/-- An address and a port; a scope is told apart for addresses of the sixth version only. -/
inductive Socket
  | v4 (ip : Ipv4) (port : UInt16)
  | v6 (ip : Ipv6) (port : UInt16) (scope : UInt32)
  deriving DecidableEq

namespace Ipv4

def written (ip : Ipv4) : String :=
  ".".intercalate ([ip.a, ip.b, ip.c, ip.d].map fun o => Text.showNat o.toNat)

/-- The two groups that hold the octets. -/
def groups (ip : Ipv4) : List UInt16 :=
  [ip.a.toUInt16 <<< 8 ||| ip.b.toUInt16, ip.c.toUInt16 <<< 8 ||| ip.d.toUInt16]

def ofGroups (high low : UInt16) : Ipv4 :=
  ⟨(high >>> 8).toUInt8, high.toUInt8, (low >>> 8).toUInt8, low.toUInt8⟩

end Ipv4

namespace Ipv6

def ofList? (gs : List UInt16) : Option Ipv6 :=
  if h : gs.length = 8 then some ⟨⟨gs.toArray, by simpa using h⟩⟩ else none

/-- The address of the fourth version that is mapped to this one. -/
def mapped? (ip : Ipv6) : Option Ipv4 :=
  match ip.groups.toList with
  | [0, 0, 0, 0, 0, 0xFFFF, high, low] => some (.ofGroups high low)
  | _ => none

/-- The length of the run of zeros at the start. -/
def zeros (gs : List UInt16) : Nat := (gs.takeWhile (· == 0)).length

/-- The start and length of the first of the longest runs of zeros, from index `i` on. -/
def longestZeros (i : Nat) : List UInt16 → Nat × Nat
  | [] => (i, 0)
  | g :: gs =>
    let n := zeros (g :: gs)
    let r := longestZeros (i + 1) gs
    if r.2 ≤ n then (i, n) else r

def showGroups (gs : List UInt16) : String :=
  ":".intercalate (gs.map fun g => Text.showHex g.toNat)

def written (ip : Ipv6) : String :=
  match ip.mapped? with
  | some v4 => "::ffff:" ++ v4.written
  | none =>
    let gs := ip.groups.toList
    let (start, n) := longestZeros 0 gs
    if 1 < n then showGroups (gs.take start) ++ "::" ++ showGroups (gs.drop (start + n))
    else showGroups gs

end Ipv6

def Ip.written : Ip → String
  | .v4 ip => ip.written
  | .v6 ip => ip.written

namespace Socket

def ofIp (ip : Ip) (port : UInt16) : Socket :=
  match ip with
  | .v4 ip => .v4 ip port
  | .v6 ip => .v6 ip port 0

def ip : Socket → Ip
  | .v4 ip _ => .v4 ip
  | .v6 ip _ _ => .v6 ip

def port : Socket → UInt16
  | .v4 _ p => p
  | .v6 _ p _ => p

def isV4 : Socket → Bool
  | .v4 .. => true
  | .v6 .. => false

def written : Socket → String
  | .v4 ip port => ip.written ++ ":" ++ Text.showNat port.toNat
  | .v6 ip port scope =>
    let zone := if scope = 0 then "" else "%" ++ Text.showNat scope.toNat
    "[" ++ ip.written ++ zone ++ "]:" ++ Text.showNat port.toNat

end Socket

end StreamSource
