/-!
# Codes of the wire format

The one-byte codes a message carries: its direction (`op`), the kind of message (the content
of option 53), the option codes the library knows by name, and the hardware types accepted in
`htype`. Each named code converts to its byte and back; a byte without a name converts to
`none`, and the byte itself is what an error reports.
-/

set_option autoImplicit false

namespace AddressLeasing

/-- Which way a message travels: from a client (`request`) or from a server (`reply`). -/
inductive Direction where
  | request
  | reply
  deriving DecidableEq, Inhabited

namespace Direction

def toByte : Direction → UInt8
  | .request => 1
  | .reply => 2

def ofByte? (b : UInt8) : Option Direction :=
  if b == 1 then some .request else if b == 2 then some .reply else none

def label : Direction → String
  | .request => "BootRequest"
  | .reply => "BootReply"

end Direction

/-- The kind of a message, carried as the single content byte of option 53. -/
inductive MessageKind where
  | discover
  | offer
  | request
  | ack
  | nak
  | release
  deriving DecidableEq, Inhabited

namespace MessageKind

def toByte : MessageKind → UInt8
  | .discover => 1
  | .offer => 2
  | .request => 3
  | .ack => 5
  | .nak => 6
  | .release => 7

def all : List MessageKind := [.discover, .offer, .request, .ack, .nak, .release]

def ofByte? (b : UInt8) : Option MessageKind :=
  all.find? (·.toByte == b)

def label : MessageKind → String
  | .discover => "DISCOVER"
  | .offer => "OFFER"
  | .request => "REQUEST"
  | .ack => "ACK"
  | .nak => "NAK"
  | .release => "RELEASE"

end MessageKind

/-- The option codes known by name. Other codes travel as plain options. -/
inductive OptionCode where
  | pad
  | requestedAddress
  | leaseTime
  | messageKind
  | serverIdentifier
  | parameterRequestList
  | maximumMessageSize
  | endMarker
  deriving DecidableEq, Inhabited

namespace OptionCode

def toByte : OptionCode → UInt8
  | .pad => 0
  | .requestedAddress => 50
  | .leaseTime => 51
  | .messageKind => 53
  | .serverIdentifier => 54
  | .parameterRequestList => 55
  | .maximumMessageSize => 57
  | .endMarker => 255

def all : List OptionCode :=
  [.pad, .requestedAddress, .leaseTime, .messageKind, .serverIdentifier,
    .parameterRequestList, .maximumMessageSize, .endMarker]

def ofByte? (b : UInt8) : Option OptionCode :=
  all.find? (·.toByte == b)

def label : OptionCode → String
  | .pad => "Pad"
  | .requestedAddress => "RequestedIpAddress"
  | .leaseTime => "LeaseTime"
  | .messageKind => "MessageType"
  | .serverIdentifier => "ServerIdentifier"
  | .parameterRequestList => "ParameterRequestList"
  | .maximumMessageSize => "MaximumMessageSize"
  | .endMarker => "End"

end OptionCode

/-- The hardware types accepted in `htype`: 1, 6, 7, 11, 12 and 14 to 20. -/
def isAllowedHardwareType (t : UInt8) : Bool :=
  t == 1 || t == 6 || t == 7 || t == 11 || t == 12 || (14 ≤ t && t ≤ 20)

end AddressLeasing
