import AddressLeasing.Json.Record
import AddressLeasing.Wire.HardwareAddress
/-!
# Client configuration

Who the client is (its hardware address, as text), where it sends its requests and listens for
replies, how long it waits for each reply, how often it resends and restarts, and the largest
message it accepts.

A configuration is valid when the hardware address reads as one, the reply timeout is
positive and the largest message is at least the 576 bytes of every message.
-/

set_option autoImplicit false

namespace AddressLeasing

/-- The client's configuration. -/
structure ClientConfig where
  /-- An Ethernet address `aa:bb:cc:dd:ee:ff` or a 16-byte identifier. -/
  hardwareAddress : String
  /-- Where DISCOVER and REQUEST messages go. -/
  serverAddress : Endpoint
  bindAddress : Endpoint
  replyTimeoutMillis : UInt64
  /-- Resends of one exchange step before it times out. -/
  maxRetries : UInt32
  /-- Full restarts from DISCOVER before acquisition fails. -/
  maxRestarts : UInt32
  maxMessageSize : UInt16
  deriving DecidableEq, Inhabited

namespace ClientConfig

/-- `aa:bb:cc:dd:ee:ff`, talking to `255.255.255.255:67` from `0.0.0.0:68`, waiting 2 s per
reply, with 3 resends, 3 restarts and 576-byte messages. -/
def default : ClientConfig where
  hardwareAddress := "aa:bb:cc:dd:ee:ff"
  serverAddress := .v4 .broadcast 67
  bindAddress := .v4 .unspecified 68
  replyTimeoutMillis := 2000
  maxRetries := 3
  maxRestarts := 3
  maxMessageSize := 576

/-- The stored form's fields, in order. -/
def schema : Json.Schema where
  name := "ClientConfig"
  fields := [("hardware_address", .text), ("server_address", .endpoint),
    ("bind_address", .endpoint), ("reply_timeout_millis", .word64), ("max_retries", .word32),
    ("max_restarts", .word32), ("max_message_size", .word16)]

/-- The configuration from its fields in schema order. -/
def ofFields : List Json.FieldValue → Option ClientConfig
  | [.text h, .endpoint s, .endpoint b, .word t, .word r, .word x, .word m] =>
    some ⟨h, s, b, t.toUInt64, r.toUInt32, x.toUInt32, m.toUInt16⟩
  | _ => none

/-- The stored form. -/
def toValue (c : ClientConfig) : Json.Value :=
  .object [("hardware_address", .string c.hardwareAddress),
    ("server_address", .string c.serverAddress.render),
    ("bind_address", .string c.bindAddress.render),
    ("reply_timeout_millis", .number (.unsigned c.replyTimeoutMillis.toNat)),
    ("max_retries", .number (.unsigned c.maxRetries.toNat)),
    ("max_restarts", .number (.unsigned c.maxRestarts.toNat)),
    ("max_message_size", .number (.unsigned c.maxMessageSize.toNat))]

def render (c : ClientConfig) : String := c.toValue.pretty ""

def ofRecord (r : Except Json.Error (List Json.FieldValue)) : Except Error ClientConfig :=
  match r with
  | .error e => .error (.json e)
  | .ok fs =>
    match ofFields fs with
    | some c => .ok c
    | none => .error (.json ⟨.custom "malformed record", none⟩)

def parse (text : String) : Except Error ClientConfig := ofRecord (schema.ofText text)

def ofValue (v : Json.Value) : Except Error ClientConfig :=
  ofRecord ((schema.ofValue v).mapError fun f => ⟨f, none⟩)

/-- The client's hardware address. -/
def hardware (c : ClientConfig) : Except Error HardwareAddress :=
  match HardwareAddress.parse c.hardwareAddress with
  | .ok h => .ok h
  | .error _ => .error (.invalidConfig (.hardwareAddress c.hardwareAddress))

/-- The checks a configuration must pass before a client runs on it. -/
def validate (c : ClientConfig) : Except Error Unit := do
  let _ ← c.hardware
  if c.replyTimeoutMillis == 0 then throw (.invalidConfig .replyTimeoutZero)
  if c.maxMessageSize.toNat < 576 then throw (.invalidConfig .messageSizeTooSmall)

end ClientConfig

end AddressLeasing
