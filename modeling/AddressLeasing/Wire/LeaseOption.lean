import AddressLeasing.Error
import AddressLeasing.Wire.Code
/-!
# Options

An option is a code byte and up to 255 content bytes. On the wire it is the code, a length
byte and the content. Code 0 is never an option (it is padding between options) and code 255
marks the end of the meaningful options and carries nothing.

`LeaseOption.make` checks those rules; the typed constructors build options that satisfy them
by construction. The typed readers interpret the content as an address, a 32-bit word or a
message kind, and report a content of the wrong width as a malformed option.
-/

set_option autoImplicit false

namespace AddressLeasing

/-- An option: a code and its content. -/
structure LeaseOption where
  code : UInt8
  content : List UInt8
  deriving DecidableEq, Inhabited

namespace LeaseOption

/-- An option from a raw code and content: code 0 is refused, then an end marker with
content, then a content of more than 255 bytes. -/
def make (code : UInt8) (content : List UInt8) : Except Error LeaseOption :=
  if code == 0 then .error (.invalidOption .padCode)
  else if code == 255 && !content.isEmpty then .error (.invalidOption .endWithContent)
  else if 255 < content.length then .error (.invalidOption (.contentTooLong code content.length))
  else .ok ⟨code, content⟩

def ofKind (k : MessageKind) : LeaseOption := ⟨OptionCode.messageKind.toByte, [k.toByte]⟩

def requestedAddress (ip : Ipv4) : LeaseOption := ⟨OptionCode.requestedAddress.toByte, ip.octets⟩

def leaseTime (seconds : UInt32) : LeaseOption := ⟨OptionCode.leaseTime.toByte, Word.be32 seconds⟩

def serverIdentifier (ip : Ipv4) : LeaseOption := ⟨OptionCode.serverIdentifier.toByte, ip.octets⟩

def maximumMessageSize (size : UInt16) : LeaseOption :=
  ⟨OptionCode.maximumMessageSize.toByte, Word.be16 size⟩

def parameterRequestList (codes : List UInt8) : Except Error LeaseOption :=
  make OptionCode.parameterRequestList.toByte codes

/-- The end marker: code 255, no content. -/
def endMarker : LeaseOption := ⟨OptionCode.endMarker.toByte, []⟩

/-- Bytes on the wire: code, length and content. -/
def encodedLength (o : LeaseOption) : Nat := 2 + o.content.length

/-- The wire form: code, length byte, content. -/
def encode (o : LeaseOption) : List UInt8 := o.code :: o.content.length.toUInt8 :: o.content

/-- The content as an address; it must be 4 bytes. -/
def asAddress (o : LeaseOption) : Except Error Ipv4 :=
  if o.content.length == 4 then .ok (Ipv4.ofBytes o.content)
  else .error (.malformed (.notFourBytes o.code o.content.length))

/-- The content as a big-endian 32-bit word; it must be 4 bytes. -/
def asWord32 (o : LeaseOption) : Except Error UInt32 :=
  if o.content.length == 4 then .ok (Word.read32 o.content)
  else .error (.malformed (.notFourBytes o.code o.content.length))

/-- The content as a message kind: one byte naming a kind. -/
def asKind (o : LeaseOption) : Except Error MessageKind :=
  match o.content with
  | [b] =>
    match MessageKind.ofByte? b with
    | some k => .ok k
    | none => .error (.malformed (.unknownKind b))
  | other => .error (.malformed (.kindWidth other.length))

end LeaseOption

end AddressLeasing
