import AddressLeasing.Wire.Message
import AddressLeasing.Text.Utf8
/-!
# The 576-byte envelope

Every message is exactly 576 bytes on the wire:

| bytes | field |
|---|---|
| 0–3 | op, htype, hlen, hops |
| 4–7 | xid |
| 8–11 | secs, flags |
| 12–27 | ciaddr, yiaddr, siaddr, giaddr |
| 28–43 | chaddr |
| 44–107 | sname, NUL-padded |
| 108–235 | file, NUL-padded |
| 236–239 | the cookie `63 82 53 63` |
| 240–575 | options region |

Decoding checks, in this order: at least 240 bytes, the cookie, the direction, the hardware
type, the two text fields (trailing NULs removed, then well-formed UTF-8), and the options
region, which is read from byte 240 up to byte 576 or the end of the input. Bytes after 576
are never read.
-/

set_option autoImplicit false

namespace AddressLeasing

namespace Envelope

/-- Bytes of every encoded message. -/
def size : Nat := 576

/-- Where the options region starts: after the header and the cookie. -/
def optionsOffset : Nat := 240

/-- The four bytes before the options region. -/
def cookie : List UInt8 := [0x63, 0x82, 0x53, 0x63]

/-- The bytes of a field: `n` bytes from `offset`. -/
def slice (bytes : List UInt8) (offset n : Nat) : List UInt8 := (bytes.drop offset).take n

/-- A text field padded with NULs to its size. -/
def encodeText (field : TextField) (s : String) : Except Error (List UInt8) :=
  let bytes := s.toUTF8.toList
  if field.size < bytes.length then .error (.malformed (.textTooLong field bytes.length))
  else .ok (bytes ++ List.replicate (field.size - bytes.length) 0)

/-- A text field without its trailing NULs, read as UTF-8. -/
def decodeText (field : TextField) (bytes : List UInt8) : Except Error String :=
  match Utf8.decode (bytes.reverse.dropWhile (· == 0)).reverse with
  | .ok s => .ok s
  | .error e => .error (.malformed (.notUtf8 field e))

end Envelope

namespace Message

/-- The 576-byte wire form. The server name is checked first, then the boot file, then the
options. -/
def encode (m : Message) : Except Error (List UInt8) := do
  let sname ← Envelope.encodeText .sname m.sname
  let file ← Envelope.encodeText .file m.file
  let options ← m.options.encode
  pure <|
    [m.op.toByte, m.htype, m.hlen, m.hops] ++ Word.be32 m.xid ++ Word.be16 m.secs ++
      Word.be16 m.flags ++ m.ciaddr.octets ++ m.yiaddr.octets ++ m.siaddr.octets ++
      m.giaddr.octets ++ m.chaddr.bytes ++ sname ++ file ++ Envelope.cookie ++ options

/-- Reads a message, reporting the first field that breaks the format. -/
def decode (d : List UInt8) : Except Error Message := do
  if d.length < Envelope.optionsOffset then throw (.malformed (.short d.length))
  if Envelope.slice d 236 4 != Envelope.cookie then throw (.malformed .cookie)
  let op ← match Direction.ofByte? (d.getD 0 0) with
    | some op => pure op
    | none => throw (.malformed (.direction (d.getD 0 0)))
  let htype := d.getD 1 0
  if !isAllowedHardwareType htype then throw (.malformed (.hardwareType htype))
  let chaddr ← HardwareAddress.ofBytes? (Envelope.slice d 28 16)
  let sname ← Envelope.decodeText .sname (Envelope.slice d 44 64)
  let file ← Envelope.decodeText .file (Envelope.slice d 108 128)
  let options ← OptionList.decode ((d.take Envelope.size).drop Envelope.optionsOffset)
  pure {
    op, htype, chaddr, sname, file, options
    hlen := d.getD 2 0
    hops := d.getD 3 0
    xid := Word.read32 (d.drop 4)
    secs := Word.read16 (d.drop 8)
    flags := Word.read16 (d.drop 10)
    ciaddr := Ipv4.ofBytes (d.drop 12)
    yiaddr := Ipv4.ofBytes (d.drop 16)
    siaddr := Ipv4.ofBytes (d.drop 20)
    giaddr := Ipv4.ofBytes (d.drop 24) }

end Message

end AddressLeasing
