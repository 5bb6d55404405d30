import AddressLeasing.Wire.Word
/-!
# IPv4 addresses

An address is a 32-bit word. Its octets are the word's big-endian bytes, so the order of
addresses is the order of their words and a contiguous pool is an interval of words.

The text form is the dotted quad. Reading it follows the strict rule for address literals:
exactly four decimal groups, each of one to three digits with value at most 255, and no
leading zero in a group of more than one digit (so `01.2.3.4` is refused rather than taken
as octal). Nothing may follow the fourth group.
-/

set_option autoImplicit false

namespace AddressLeasing

/-- An IPv4 address, held as its 32-bit word. -/
structure Ipv4 where
  bits : UInt32
  deriving DecidableEq, Inhabited, Hashable

namespace Ipv4

/-- `0.0.0.0`, the address of no one. -/
def unspecified : Ipv4 := ⟨0⟩

/-- `255.255.255.255`, every host on the link. -/
def broadcast : Ipv4 := ⟨0xFFFFFFFF⟩

/-- The address whose word is `n` modulo `2^32`. -/
def ofNat (n : Nat) : Ipv4 := ⟨n.toUInt32⟩

/-- The address as a number below `2^32`. -/
def toNat (ip : Ipv4) : Nat := ip.bits.toNat

/-- The four octets, most significant first. -/
def octets (ip : Ipv4) : List UInt8 := Word.be32 ip.bits

/-- The address written by the first four bytes of a list. -/
def ofBytes (bytes : List UInt8) : Ipv4 := ⟨Word.read32 bytes⟩

def isUnspecified (ip : Ipv4) : Bool := ip.bits == 0

instance : LE Ipv4 := ⟨fun a b => a.bits ≤ b.bits⟩
instance : LT Ipv4 := ⟨fun a b => a.bits < b.bits⟩
instance (a b : Ipv4) : Decidable (a ≤ b) := inferInstanceAs (Decidable (a.bits ≤ b.bits))
instance (a b : Ipv4) : Decidable (a < b) := inferInstanceAs (Decidable (a.bits < b.bits))

/-- The dotted quad. -/
def render (ip : Ipv4) : String :=
  ".".intercalate (ip.octets.map fun b => toString b.toNat)

instance : ToString Ipv4 := ⟨render⟩

end Ipv4

/-! ## Reading decimal groups -/

namespace Decimal

/-- The value of a run of decimal digits. -/
def value (ds : List Char) : Nat :=
  ds.foldl (fun acc c => acc * 10 + (c.toNat - '0'.toNat)) 0

/-- Reads the longest run of decimal digits at the front of `cs`. The run must be non-empty,
have a value at most `bound` and at most `maxDigits` digits when a limit is given; unless
`zeroPrefix` holds, a run of two or more digits may not start with `0`. -/
def read? (bound : Nat) (maxDigits : Option Nat) (zeroPrefix : Bool) (cs : List Char) :
    Option (Nat × List Char) :=
  let ds := cs.takeWhile Char.isDigit
  if ds.isEmpty then none
  else if maxDigits.any (· < ds.length) then none
  else if bound < value ds then none
  else if !zeroPrefix && ds.head? == some '0' && 1 < ds.length then none
  else some (value ds, cs.dropWhile Char.isDigit)

end Decimal

namespace Ipv4

/-- Expects `c` at the front of `cs`. -/
def expect? (c : Char) : List Char → Option (List Char)
  | d :: rest => if d == c then some rest else none
  | [] => none

/-- Reads a dotted quad at the front of `cs`. -/
def read? (cs : List Char) : Option (Ipv4 × List Char) := do
  let (a, cs) ← Decimal.read? 255 (some 3) false cs
  let cs ← expect? '.' cs
  let (b, cs) ← Decimal.read? 255 (some 3) false cs
  let cs ← expect? '.' cs
  let (c, cs) ← Decimal.read? 255 (some 3) false cs
  let cs ← expect? '.' cs
  let (d, cs) ← Decimal.read? 255 (some 3) false cs
  pure (ofBytes [a.toUInt8, b.toUInt8, c.toUInt8, d.toUInt8], cs)

/-- A whole text as a dotted quad. -/
def parse? (s : String) : Option Ipv4 :=
  match read? s.toList with
  | some (ip, []) => some ip
  | _ => none

end Ipv4

end AddressLeasing
