import AddressLeasing.Config.Client
/-!
# Clients and their leases

A client holds at most one lease. It moves through the phases of acquisition:

    init ── DISCOVER ──▶ selecting ── REQUEST ──▶ requesting ── ACK ──▶ bound
     ▲                                               │                    │
     └─────────────────── NAK, timeout ──────────────┘                    │
     └──────────────────────────── RELEASE ◀── releasing ◀────────────────┘

Every exchange with a server carries a transaction id that the client draws afresh for each
acquisition attempt, each renewal and each release. The ids are random numbers: a client is
given the source it draws from, as a sequence it reads one number at a time, and nothing is
assumed of that sequence. Two draws may give the same id.
-/

set_option autoImplicit false

namespace AddressLeasing

/-- Where a client stands in acquiring, holding and giving back a lease. -/
inductive Phase where
  | init
  | selecting
  | requesting
  | bound
  | releasing
  deriving DecidableEq, Inhabited

/-- The phase's name in upper case. -/
def Phase.label : Phase → String
  | .init => "INIT"
  | .selecting => "SELECTING"
  | .requesting => "REQUESTING"
  | .bound => "BOUND"
  | .releasing => "RELEASING"

/-- A lease granted by an ACK: the address, the server that granted it (its identifier
option), and the lease time. -/
structure ClientLease where
  address : Ipv4
  server : Ipv4
  durationSeconds : UInt32
  deriving DecidableEq, Inhabited

namespace ClientLease

/-- Milliseconds from the grant until the lease expires. -/
def expiresAfterMillis (l : ClientLease) : Nat := l.durationSeconds.toNat * 1000

/-- Milliseconds from the grant until the client should renew: half the lease time. -/
def renewAfterMillis (l : ClientLease) : Nat := l.durationSeconds.toNat * 500

end ClientLease

/-- A client: who it is, whom it asks and how patiently, and what it holds. -/
structure Client where
  hardware : HardwareAddress
  /-- Where DISCOVER and REQUEST messages go. -/
  server : Endpoint
  replyTimeoutMillis : Nat
  maxRetries : UInt32
  maxRestarts : UInt32
  maxMessageSize : UInt16
  phase : Phase
  lease : Option ClientLease
  /-- The random numbers the client draws its transaction ids from, in order. -/
  random : Nat → UInt32
  /-- How many transaction ids the client has drawn. -/
  draws : Nat
  /-- The last transaction id drawn. -/
  lastXid : UInt32
  deriving Inhabited

namespace Client

/-- A client in phase `init` with no lease, for a configuration that passes its checks,
drawing its transaction ids from `random`. -/
def create (c : ClientConfig) (random : Nat → UInt32) : Except Error Client := do
  c.validate
  let hardware ← c.hardware
  pure {
    hardware
    server := c.serverAddress
    replyTimeoutMillis := c.replyTimeoutMillis.toNat
    maxRetries := c.maxRetries
    maxRestarts := c.maxRestarts
    maxMessageSize := c.maxMessageSize
    phase := .init
    lease := none
    random
    draws := 0
    lastXid := 0 }

/-- Draws the next transaction id: the next number of the client's source. -/
def drawXid (c : Client) : UInt32 × Client :=
  let x := c.random c.draws
  (x, { c with draws := c.draws + 1, lastXid := x })

/-- How many times an acquisition is tried: one more than the restarts, at most 2³² - 1. -/
def attempts (c : Client) : Nat := min (c.maxRestarts.toNat + 1) (Nat.pow 2 32 - 1)

/-- Where a message for `server` goes: the configured server endpoint for the zero address,
otherwise `server` at the configured port. -/
def destinationFor (c : Client) (server : Ipv4) : Endpoint :=
  if server.isUnspecified then c.server else .v4 server c.server.port

/-- The client's error for a reply that did not come in time. -/
def timeout (c : Client) : Error := .timeout c.replyTimeoutMillis

end Client

end AddressLeasing
