import AddressLeasing.Error
import AddressLeasing.Text.Hex
/-!
# Hardware addresses

A client is known by a 16-byte hardware address. A six-byte Ethernet address is stored
followed by ten zero bytes; all sixteen bytes are kept as received. The all-zero address is
empty: it owns nothing.

Text form. An address whose bytes up to the last non-zero one are printable ASCII
(`!` to `~`) is shown as that text. Any other address is shown in hexadecimal, a byte per
pair of digits separated by colons, covering the bytes up to the last non-zero one but at
least six. Reading text accepts six groups of two hexadecimal digits separated by `:` or `-`,
and otherwise takes the text's UTF-8 bytes, which must then number exactly 16.
-/

set_option autoImplicit false

namespace AddressLeasing

/-- A client's hardware address: exactly 16 bytes. -/
structure HardwareAddress where
  bytes : List UInt8
  length_bytes : bytes.length = 16
  deriving DecidableEq

namespace HardwareAddress

/-- Bytes of a hardware address. -/
def size : Nat := 16

/-- The all-zero address. -/
def empty : HardwareAddress := ⟨List.replicate 16 0, rfl⟩

instance : Inhabited HardwareAddress := ⟨empty⟩

/-- Exactly 16 bytes as an address. -/
def ofBytes? (bytes : List UInt8) : Except Error HardwareAddress :=
  if h : bytes.length = 16 then .ok ⟨bytes, h⟩
  else .error (.malformed (.chaddrLength bytes.length))

/-- An Ethernet address, zero-padded to 16 bytes. -/
def ofMac (a b c d e f : UInt8) : HardwareAddress :=
  ⟨[a, b, c, d, e, f] ++ List.replicate 10 0, rfl⟩

/-- The bytes up to the last non-zero one. -/
def trimmed (h : HardwareAddress) : List UInt8 :=
  (h.bytes.reverse.dropWhile (· == 0)).reverse

/-- Whether every byte is zero. -/
def isEmpty (h : HardwareAddress) : Bool := h.bytes.all (· == 0)

/-- Printable ASCII other than the space. -/
def isGraphic (b : UInt8) : Bool := 0x21 ≤ b && b ≤ 0x7E

/-- The text form described above. -/
def render (h : HardwareAddress) : String :=
  let t := h.trimmed
  if !t.isEmpty && t.all isGraphic then String.ofList (t.map fun b => Char.ofNat b.toNat)
  else ":".intercalate ((h.bytes.take (max t.length 6)).map Hex.byte)

instance : ToString HardwareAddress := ⟨render⟩

/-- Splits a text at every `:` and `-`, dropping the separators. -/
def fields (s : String) : List String :=
  go s.toList [] []
where
  go : List Char → List Char → List String → List String
    | [], cur, acc => (acc ++ [String.ofList cur.reverse])
    | c :: rest, cur, acc =>
      if c == ':' || c == '-' then go rest [] (acc ++ [String.ofList cur.reverse])
      else go rest (c :: cur) acc

/-- Six two-byte groups, each a byte in radix 16. -/
def readMac? (s : String) : Option HardwareAddress :=
  match fields s with
  | [a, b, c, d, e, f] =>
    let byte (g : String) : Option UInt8 :=
      if g.utf8ByteSize == 2 then Hex.readByte? g else none
    match byte a, byte b, byte c, byte d, byte e, byte f with
    | some a, some b, some c, some d, some e, some f => some (ofMac a b c d e f)
    | _, _, _, _, _, _ => none
  | _ => none

/-- Reads the text form: an Ethernet address, or a text of exactly 16 bytes. -/
def parse (s : String) : Except Error HardwareAddress :=
  match readMac? s with
  | some h => .ok h
  | none => ofBytes? s.toUTF8.toList

end HardwareAddress

end AddressLeasing
