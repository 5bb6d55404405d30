import AddressLeasing.Net.Ipv4
/-!
# IPv6 addresses

An address is eight 16-bit groups. The text form writes the groups in hexadecimal, separated
by colons. One run of zero groups may be written `::`, and the last two groups may be written
as a dotted quad.

Reading follows the rule for address literals: a group has one to four hexadecimal digits,
at most one `::` stands for at least one zero group, and a dotted quad may only end the
address after at least one other group or a `::`.

Writing uses the canonical form: lower-case digits without leading zeros, and the longest run
of at least two zero groups (the first of equally long runs) written `::`. An IPv4 address
mapped into IPv6, `::ffff:a.b.c.d`, keeps its dotted quad.
-/

set_option autoImplicit false

namespace AddressLeasing

/-- An IPv6 address, as its eight groups. -/
structure Ipv6 where
  groups : List UInt16
  length_groups : groups.length = 8
  deriving DecidableEq

namespace Ipv6

/-- The address with these groups, padded with zeros or cut to eight. -/
def ofGroups (gs : List UInt16) : Ipv6 :=
  ⟨(gs ++ List.replicate 8 0).take 8, by simp⟩

instance : Inhabited Ipv6 := ⟨ofGroups []⟩

/-- `::`, the address of no one. -/
def isUnspecified (ip : Ipv6) : Bool := ip.groups.all (· == 0)

/-- The value of a hexadecimal digit. -/
def hexValue? (c : Char) : Option Nat :=
  if c.isDigit then some (c.toNat - '0'.toNat)
  else if 'a' ≤ c && c ≤ 'f' then some (c.toNat - 'a'.toNat + 10)
  else if 'A' ≤ c && c ≤ 'F' then some (c.toNat - 'A'.toNat + 10)
  else none

/-- Reads one group: the run of hexadecimal digits at the front, which must have one to four
digits. -/
def readGroup? (cs : List Char) : Option (UInt16 × List Char) :=
  let ds := cs.takeWhile fun c => (hexValue? c).isSome
  if ds.isEmpty || 4 < ds.length then none
  else
    some ((ds.foldl (fun n c => 16 * n + (hexValue? c).getD 0) 0).toUInt16,
      cs.dropWhile fun c => (hexValue? c).isSome)

/-- The two groups a dotted quad stands for. -/
def groupsOf (ip : Ipv4) : List UInt16 :=
  [(ip.bits >>> 16).toUInt16, ip.bits.toUInt16]

/-- Reads at most `room` colon-separated groups, the first without a colon when `index` is 0.
A dotted quad may take the place of the last two, and then ends the run. Returns the groups,
whether a dotted quad ended them, and the rest. -/
def readGroups : (room : Nat) → (index : Nat) → List Char → List UInt16 × Bool × List Char
  | 0, _, cs => ([], false, cs)
  | room + 1, index, cs =>
    let afterColon : Option (List Char) :=
      if index == 0 then some cs
      else
        match cs with
        | ':' :: rest => some rest
        | _ => none
    let quad := if 0 < room then afterColon.bind Ipv4.read? else none
    match quad with
    | some (ip, rest) => (groupsOf ip, true, rest)
    | none =>
      match afterColon.bind readGroup? with
      | some (g, rest) =>
        let (gs, quadEnded, rest) := readGroups room (index + 1) rest
        (g :: gs, quadEnded, rest)
      | none => ([], false, cs)

/-- Reads an address at the front of `cs`. -/
def read? (cs : List Char) : Option (Ipv6 × List Char) :=
  let (head, quadEnded, rest) := readGroups 8 0 cs
  if head.length == 8 then some (ofGroups head, rest)
  else if quadEnded then none
  else
    match rest with
    | ':' :: ':' :: rest =>
      let (tail, _, rest) := readGroups (8 - (head.length + 1)) 0 rest
      some (ofGroups (head ++ List.replicate (8 - head.length - tail.length) 0 ++ tail), rest)
    | _ => none

/-- The start and length of the first longest run of zero groups. -/
def longestZeroRun (gs : List UInt16) : Nat × Nat :=
  let step (acc : (Nat × Nat) × (Nat × Nat)) (p : Nat × UInt16) : (Nat × Nat) × (Nat × Nat) :=
    let (best, current) := acc
    if p.2 == 0 then
      let current := if current.2 == 0 then (p.1, 1) else (current.1, current.2 + 1)
      (if best.2 < current.2 then current else best, current)
    else (best, (0, 0))
  (((List.range gs.length).zip gs).foldl step ((0, 0), (0, 0))).1

/-- Groups in lower-case hexadecimal, joined by colons. -/
def hexGroups (gs : List UInt16) : String :=
  ":".intercalate (gs.map fun g => String.ofList (Nat.toDigits 16 g.toNat))

/-- The canonical text form. -/
def render (ip : Ipv6) : String :=
  match ip.groups with
  | [0, 0, 0, 0, 0, 0xFFFF, hi, lo] =>
    "::ffff:" ++ (Ipv4.mk ((hi.toUInt32 <<< 16) ||| lo.toUInt32)).render
  | gs =>
    let (start, len) := longestZeroRun gs
    if 1 < len then hexGroups (gs.take start) ++ "::" ++ hexGroups (gs.drop (start + len))
    else hexGroups gs

instance : ToString Ipv6 := ⟨render⟩

end Ipv6

end AddressLeasing
