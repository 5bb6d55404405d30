import AddressLeasing.Net.Ipv6
/-!
# Socket addresses

A socket address is an IP address with a port: `a.b.c.d:port` for IPv4, and `[address]:port`
or `[address%scope]:port` for IPv6, where the scope is a 32-bit interface number and a zero
scope is not written. The port is decimal, at most 65535, and may have leading zeros.
-/

set_option autoImplicit false

namespace AddressLeasing

/-- A socket address. -/
inductive Endpoint where
  | v4 (ip : Ipv4) (port : UInt16)
  | v6 (ip : Ipv6) (port : UInt16) (scope : UInt32)
  deriving DecidableEq, Inhabited

namespace Endpoint

def port : Endpoint → UInt16
  | .v4 _ p => p
  | .v6 _ p _ => p

/-- Whether the address is the unspecified one, `0.0.0.0` or `::`. -/
def isUnspecified : Endpoint → Bool
  | .v4 ip _ => ip.isUnspecified
  | .v6 ip _ _ => ip.isUnspecified

def render : Endpoint → String
  | .v4 ip p => ip.render ++ ":" ++ toString p.toNat
  | .v6 ip p 0 => "[" ++ ip.render ++ "]:" ++ toString p.toNat
  | .v6 ip p s => "[" ++ ip.render ++ "%" ++ toString s.toNat ++ "]:" ++ toString p.toNat

instance : ToString Endpoint := ⟨render⟩

/-- Reads `:port` at the front of `cs`. -/
def readPort? (cs : List Char) : Option (UInt16 × List Char) := do
  let cs ← Ipv4.expect? ':' cs
  let (p, cs) ← Decimal.read? 65535 none true cs
  pure (p.toUInt16, cs)

/-- Reads `%scope` at the front of `cs`; a missing or unreadable scope is zero and nothing is
read. -/
def readScope (cs : List Char) : UInt32 × List Char :=
  match cs with
  | '%' :: rest =>
    match Decimal.read? (Nat.pow 2 32 - 1) none true rest with
    | some (s, rest) => (s.toUInt32, rest)
    | none => (0, cs)
  | _ => (0, cs)

/-- Reads `a.b.c.d:port`, or else `[address]:port`, at the front of `cs`. -/
def read? (cs : List Char) : Option (Endpoint × List Char) :=
  match Ipv4.read? cs with
  | some (ip, rest) =>
    match readPort? rest with
    | some (p, rest) => some (.v4 ip p, rest)
    | none => readV6? cs
  | none => readV6? cs
where
  readV6? (cs : List Char) : Option (Endpoint × List Char) := do
    let cs ← Ipv4.expect? '[' cs
    let (ip, cs) ← Ipv6.read? cs
    let (scope, cs) := readScope cs
    let cs ← Ipv4.expect? ']' cs
    let (p, cs) ← readPort? cs
    pure (.v6 ip p scope, cs)

/-- A whole text as a socket address. -/
def parse? (s : String) : Option Endpoint :=
  match read? s.toList with
  | some (e, []) => some e
  | _ => none

end Endpoint

end AddressLeasing
