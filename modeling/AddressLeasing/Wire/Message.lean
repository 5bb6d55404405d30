import AddressLeasing.Wire.OptionList
import AddressLeasing.Wire.HardwareAddress
/-!
# Messages

A message is the header of a lease exchange plus its options. Clients send three kinds:
DISCOVER to find an address, REQUEST to take one (or keep the one they hold), and RELEASE to
give it back. Servers answer with OFFER, ACK or NAK. A reply copies from the request
everything that lets the client match it to what it sent: the transaction id, the hardware
type and length, the flags, the relay address and the hardware address.

A RELEASE is recognised by its shape rather than by a kind: a request with no option 53 and a
zero `yiaddr`, or one that names the release kind explicitly.

`Message.validate` is the check every hand-built message goes through: an allowed hardware
type, text fields without NUL bytes that fit their fields, and options that fit the region.
-/

set_option autoImplicit false

namespace AddressLeasing

/-- A message of the lease exchange. -/
structure Message where
  op : Direction
  htype : UInt8
  hlen : UInt8
  hops : UInt8
  /-- Transaction id chosen by the client and echoed in replies. -/
  xid : UInt32
  secs : UInt16
  flags : UInt16
  /-- The client's current address, zero while it has none. -/
  ciaddr : Ipv4
  /-- The address offered or granted to the client. -/
  yiaddr : Ipv4
  /-- The server's address. -/
  siaddr : Ipv4
  /-- The relay agent's address. -/
  giaddr : Ipv4
  chaddr : HardwareAddress
  sname : String
  file : String
  options : OptionList
  deriving DecidableEq, Inhabited

namespace Message

/-- Bit 15 of `flags`: the client wants the reply broadcast. -/
def broadcastFlag : UInt16 := 0x8000

/-- Ethernet: hardware type 1, address length 6. -/
def ethernetType : UInt8 := 1
def ethernetLength : UInt8 := 6

/-- An Ethernet client request with zero addresses, an empty hardware address and no
options: the starting point of a hand-built message. -/
def blank : Message where
  op := .request
  htype := ethernetType
  hlen := ethernetLength
  hops := 0
  xid := 0
  secs := 0
  flags := 0
  ciaddr := .unspecified
  yiaddr := .unspecified
  siaddr := .unspecified
  giaddr := .unspecified
  chaddr := .empty
  sname := ""
  file := ""
  options := .empty

/-- A client message with the given correlation data and options. -/
def fromClient (chaddr : HardwareAddress) (xid : UInt32) (flags : UInt16) (ciaddr : Ipv4)
    (options : OptionList) : Message :=
  { blank with chaddr, xid, flags, ciaddr, options }

/-- A DISCOVER: the kind, the zero address as placeholder for the requested address, the
largest message the client accepts, and the end marker. It asks for a broadcast reply. -/
def discover (chaddr : HardwareAddress) (xid : UInt32) (maxSize : UInt16) : Message :=
  fromClient chaddr xid broadcastFlag .unspecified <| OptionList.ofList
    [.ofKind .discover, .requestedAddress .unspecified, .maximumMessageSize maxSize, .endMarker]

/-- A REQUEST for `requested` from `server`; `ciaddr` is the address the client holds. -/
def request (chaddr : HardwareAddress) (xid : UInt32) (requested server ciaddr : Ipv4) :
    Message :=
  fromClient chaddr xid broadcastFlag ciaddr <| OptionList.ofList
    [.ofKind .request, .requestedAddress requested, .serverIdentifier server, .endMarker]

/-- A RELEASE giving back `ciaddr`: no kind, only the end marker. -/
def release (chaddr : HardwareAddress) (xid : UInt32) (ciaddr : Ipv4) : Message :=
  fromClient chaddr xid 0 ciaddr (OptionList.ofList [.endMarker])

/-- A server's reply of kind `k` to `req`, giving `yiaddr`, with the lease time if any. -/
def reply (req : Message) (k : MessageKind) (yiaddr server : Ipv4) (lease : Option UInt32) :
    Message :=
  let options := OptionList.ofList [.ofKind k, .serverIdentifier server]
  let options := match lease with
    | some s => options.insert (.leaseTime s)
    | none => options
  { req with
    op := .reply
    hops := 0
    secs := 0
    ciaddr := .unspecified
    yiaddr
    siaddr := server
    sname := ""
    file := ""
    options := options.insert .endMarker }

/-- An OFFER of `offered` for `lease` seconds. -/
def offer (req : Message) (offered server : Ipv4) (lease : UInt32) : Message :=
  reply req .offer offered server (some lease)

/-- An ACK granting `assigned` for `lease` seconds. -/
def ack (req : Message) (assigned server : Ipv4) (lease : UInt32) : Message :=
  reply req .ack assigned server (some lease)

/-- A NAK refusing `req`. -/
def nak (req : Message) (server : Ipv4) : Message :=
  reply req .nak .unspecified server none

/-- The message kind (option 53). -/
def kind (m : Message) : Except Error (Option MessageKind) := m.options.kind

/-- A client's RELEASE: a request with no option 53 and a zero `yiaddr`, or one whose
option 53 reads as the release kind. -/
def isRelease (m : Message) : Bool :=
  m.op == .request &&
    if m.options.contains OptionCode.messageKind.toByte then
      match m.kind with
      | .ok (some .release) => true
      | _ => false
    else m.yiaddr.isUnspecified

def isBroadcast (m : Message) : Bool := m.flags &&& broadcastFlag != 0

/-- A text field's check: no NUL byte, and no more bytes than the field holds. -/
def checkText (field : TextField) (s : String) : Except Error Unit :=
  if s.toList.contains (Char.ofNat 0) then .error (.malformed (.nulInText field))
  else if field.size < s.utf8ByteSize then .error (.malformed (.textTooLong field s.utf8ByteSize))
  else .ok ()

/-- Checks a hand-built message: hardware type, server name, boot file, then options. -/
def validate (m : Message) : Except Error Message := do
  if !isAllowedHardwareType m.htype then throw (.malformed (.hardwareType m.htype))
  checkText .sname m.sname
  checkText .file m.file
  let size := m.options.encodedLength
  if OptionList.regionSize < size then throw (.optionsOverflow size)
  pure m

end Message

end AddressLeasing
