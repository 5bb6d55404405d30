/-!
# Hexadecimal bytes

Bytes are written as two lowercase hexadecimal digits each. The reader takes a single byte
the way an unsigned radix-16 number is read: an optional `+`, then one or more digits of
either case, with a value that fits in a byte.
-/

set_option autoImplicit false

namespace AddressLeasing.Hex

/-- The lowercase digit of a value below 16. -/
def digit (n : Nat) : Char :=
  if n < 10 then Char.ofNat ('0'.toNat + n) else Char.ofNat ('a'.toNat + n - 10)

/-- Two lowercase digits. -/
def byte (b : UInt8) : String :=
  String.ofList [digit (b.toNat / 16), digit (b.toNat % 16)]

/-- The bytes back to back, two digits each. -/
def ofBytes (bytes : List UInt8) : String :=
  String.join (bytes.map byte)

/-- The value of a hexadecimal digit of either case. -/
def digitValue? (c : Char) : Option Nat :=
  if '0' ≤ c ∧ c ≤ '9' then some (c.toNat - '0'.toNat)
  else if 'a' ≤ c ∧ c ≤ 'f' then some (c.toNat - 'a'.toNat + 10)
  else if 'A' ≤ c ∧ c ≤ 'F' then some (c.toNat - 'A'.toNat + 10)
  else none

/-- The value of a non-empty run of digits. -/
def digitsValue? : List Char → Option Nat
  | [] => none
  | cs => cs.foldlM (fun acc c => (digitValue? c).map (acc * 16 + ·)) 0

/-- One byte in radix 16: an optional `+` and at least one digit, of value at most 255. -/
def readByte? (s : String) : Option UInt8 :=
  let cs := match s.toList with
    | '+' :: rest => rest
    | cs => cs
  match digitsValue? cs with
  | some v => if v < 256 then some v.toUInt8 else none
  | none => none

/-- Pairs of digits back to back; `none` for an odd length or a non-digit. -/
def toBytes? (s : String) : Option (List UInt8) :=
  go s.toList
where
  go : List Char → Option (List UInt8)
    | [] => some []
    | a :: b :: rest => do
      let hi ← digitValue? a
      let lo ← digitValue? b
      let tail ← go rest
      pure ((hi * 16 + lo).toUInt8 :: tail)
    | [_] => none

end AddressLeasing.Hex
