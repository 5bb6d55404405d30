import AddressLeasing.Json.Record
import AddressLeasing.Lease.Pool
/-!
# Server configuration

Where the server listens, which range it leases from, for how long, and how often it looks
for expired leases. It is stored as a JSON object with one member per field, written in
field order with two-space indentation.

A configuration is valid when the pool range is in order, holds at most 65536 addresses and
does not contain the server's own address, and when the lease duration and the sweep interval
are positive; the checks run in that order and the first failure is reported. Every valid
configuration yields a pool (`LeasePool.ofConfig`).
-/

set_option autoImplicit false

namespace AddressLeasing

/-- The server's configuration. -/
structure ServerConfig where
  serverIp : Ipv4
  serverPort : UInt16
  clientPort : UInt16
  poolStart : Ipv4
  poolEnd : Ipv4
  leaseDurationSeconds : UInt32
  sweepIntervalSeconds : UInt32
  offerRetryIntervalMillis : UInt64
  deriving DecidableEq, Inhabited

namespace ServerConfig

/-- Server `192.168.1.1:67`, clients on port 68, the pool `192.168.1.100` to
`192.168.1.200`, hour-long leases, a sweep every 5 s and an offer retry every 250 ms. -/
def default : ServerConfig where
  serverIp := Ipv4.ofBytes [192, 168, 1, 1]
  serverPort := 67
  clientPort := 68
  poolStart := Ipv4.ofBytes [192, 168, 1, 100]
  poolEnd := Ipv4.ofBytes [192, 168, 1, 200]
  leaseDurationSeconds := 3600
  sweepIntervalSeconds := 5
  offerRetryIntervalMillis := 250

/-- The stored form's fields, in order. -/
def schema : Json.Schema where
  name := "Config"
  fields := [("server_ip", .ipv4), ("server_port", .word16), ("client_port", .word16),
    ("pool_start", .ipv4), ("pool_end", .ipv4), ("lease_duration_seconds", .word32),
    ("sweep_interval_seconds", .word32), ("offer_retry_interval_millis", .word64)]

/-- The configuration from its fields in schema order. -/
def ofFields : List Json.FieldValue → Option ServerConfig
  | [.ipv4 ip, .word sp, .word cp, .ipv4 ps, .ipv4 pe, .word ld, .word si, .word ri] =>
    some ⟨ip, sp.toUInt16, cp.toUInt16, ps, pe, ld.toUInt32, si.toUInt32, ri.toUInt64⟩
  | _ => none

/-- The stored form. -/
def toValue (c : ServerConfig) : Json.Value :=
  .object [("server_ip", .string c.serverIp.render),
    ("server_port", .number (.unsigned c.serverPort.toNat)),
    ("client_port", .number (.unsigned c.clientPort.toNat)),
    ("pool_start", .string c.poolStart.render), ("pool_end", .string c.poolEnd.render),
    ("lease_duration_seconds", .number (.unsigned c.leaseDurationSeconds.toNat)),
    ("sweep_interval_seconds", .number (.unsigned c.sweepIntervalSeconds.toNat)),
    ("offer_retry_interval_millis", .number (.unsigned c.offerRetryIntervalMillis.toNat))]

/-- The stored text: pretty JSON without a final line break. -/
def render (c : ServerConfig) : String := c.toValue.pretty ""

def ofRecord (r : Except Json.Error (List Json.FieldValue)) : Except Error ServerConfig :=
  match r with
  | .error e => .error (.json e)
  | .ok fs =>
    match ofFields fs with
    | some c => .ok c
    | none => .error (.json ⟨.custom "malformed record", none⟩)

/-- Reads the stored text. -/
def parse (text : String) : Except Error ServerConfig := ofRecord (schema.ofText text)

/-- Reads a parsed document. -/
def ofValue (v : Json.Value) : Except Error ServerConfig :=
  ofRecord ((schema.ofValue v).mapError fun f => ⟨f, none⟩)

/-- Addresses from `poolStart` to `poolEnd`; zero when the range is reversed. -/
def poolSize (c : ServerConfig) : Nat := c.poolEnd.toNat + 1 - c.poolStart.toNat

def ipInPool (c : ServerConfig) (ip : Ipv4) : Bool := c.poolStart ≤ ip && ip ≤ c.poolEnd

/-- The checks a configuration must pass before a server runs on it. -/
def validate (c : ServerConfig) : Except Error Unit :=
  if c.poolEnd < c.poolStart then .error (.invalidConfig .poolReversed)
  else if LeasePool.maxSize < c.poolSize then .error (.invalidConfig (.poolTooLarge c.poolSize))
  else if c.ipInPool c.serverIp then .error (.invalidConfig .serverInPool)
  else if c.leaseDurationSeconds == 0 then .error (.invalidConfig .leaseDurationZero)
  else if c.sweepIntervalSeconds == 0 then .error (.invalidConfig .sweepIntervalZero)
  else .ok ()

/-- The address the server listens on. -/
def bindAddress (c : ServerConfig) : Endpoint := .v4 c.serverIp c.serverPort

/-- How long a DISCOVER may wait for a free address, in milliseconds: half the lease. -/
def offerWaitBudget (c : ServerConfig) : Nat := c.leaseDurationSeconds.toNat * 500

def offerRetryInterval (c : ServerConfig) : Nat := c.offerRetryIntervalMillis.toNat

/-- The time between expiry sweeps, in milliseconds. -/
def sweepInterval (c : ServerConfig) : Nat := c.sweepIntervalSeconds.toNat * 1000

end ServerConfig

/-- The pool of a configuration's range. -/
def LeasePool.ofConfig (c : ServerConfig) : Except Error LeasePool :=
  LeasePool.fromRange c.poolStart c.poolEnd

end AddressLeasing
