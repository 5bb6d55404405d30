import AddressLeasing.Config.Server
import AddressLeasing.Wire.Envelope
/-!
# The server's answer to one message

A server holds its configuration and its pool. It answers a client's message with at most
one reply and a new pool; nothing else changes, and time enters only as an argument.

* A message from a server, or one without a hardware address, is not answered.
* A RELEASE frees the client's lease and is not answered.
* A DISCOVER is answered with an OFFER, unless the client already holds a lease or no
  address becomes free within the offer wait. The offer does not reserve the address.
* A REQUEST for another server is ignored. Otherwise it names an address (option 50, else
  `ciaddr`), which is committed to the client and acknowledged; a request that names no
  address or cannot be committed is refused with a NAK.
* Any other kind is ignored. A malformed option 50, 53 or 54 makes the message an error.

When no address is free, the DISCOVER waits: it looks again every `offerRetryInterval`
milliseconds until half the lease duration has passed. The wait is returned as the virtual
time it took, so that a run of the server can account for it.
-/

set_option autoImplicit false

namespace AddressLeasing

/-- A running server: its configuration and its pool. -/
structure Server where
  config : ServerConfig
  pool : LeasePool
  deriving DecidableEq, Inhabited

/-- How a wait for a free address ended: with an address found after some milliseconds,
with nothing after the whole wait, or never (a zero retry interval spins in place). -/
inductive OfferWait where
  | found (address : Ipv4) (after : Nat)
  | exhausted (after : Nat)
  | endless
  deriving DecidableEq, Inhabited

/-- Looks up an address at the times `0, retry, 2·retry, …` that leave room for the retry
within `budget`; `lookup t` is the answer at time `t`. -/
def OfferWait.run (lookup : Nat → Option Ipv4) (budget retry : Nat) : OfferWait :=
  if retry = 0 then
    match lookup 0 with
    | some a => .found a 0
    | none => .endless
  else
    let times := (List.range (budget / retry + 1)).map (· * retry)
    match times.findSome? (fun t => (lookup t).map (·, t)) with
    | some (a, t) => .found a t
    | none => .exhausted (budget / retry * retry)

/-- The milliseconds an offer wait took, `none` if it never ends. -/
def OfferWait.duration : OfferWait → Option Nat
  | .found _ t => some t
  | .exhausted t => some t
  | .endless => none

/-- What handling one message did. -/
structure Handling where
  pool : LeasePool
  reply : Option Message
  /-- Virtual time spent waiting for a free address; `none` if the wait never ends. -/
  waited : Option Nat
  deriving Inhabited

/-- A datagram on its way out. -/
structure Outbound where
  destination : Endpoint
  bytes : List UInt8
  deriving DecidableEq, Inhabited

namespace Server

/-- A server on a valid configuration, with a fresh pool. -/
def create (c : ServerConfig) : Except Error Server := do
  c.validate
  let pool ← LeasePool.ofConfig c
  pure ⟨c, pool⟩

/-- The lease duration in milliseconds. -/
def leaseMillis (s : Server) : Int := (s.config.leaseDurationSeconds.toNat : Int) * 1000

/-- Replies go back to the sender, or to every host's client port when the sender has no
address yet. -/
def replyDestination (s : Server) (source : Endpoint) : Endpoint :=
  if source.isUnspecified then .v4 .broadcast s.config.clientPort else source

/-- The address to offer `owner`, waiting while the pool is full. -/
def offerAddress (s : Server) (owner : HardwareAddress) (requested : Option Ipv4) : OfferWait :=
  OfferWait.run (fun _ => s.pool.selectOffer owner requested) s.config.offerWaitBudget
    s.config.offerRetryInterval

/-- No reply, no change. -/
def silent (s : Server) : Handling := ⟨s.pool, none, some 0⟩

/-- A non-zero address. -/
def given (a : Option Ipv4) : Option Ipv4 := a.filter (!·.isUnspecified)

/-- The answer to a DISCOVER. -/
def discover (s : Server) (m : Message) : Except Error Handling := do
  if (s.pool.activeLeaseFor? m.chaddr).isSome then return s.silent
  let requested := given (← m.options.requestedAddress)
  pure <| match s.offerAddress m.chaddr requested with
    | .found a t =>
      ⟨s.pool, some (.offer m a s.config.serverIp s.config.leaseDurationSeconds), some t⟩
    | .exhausted t => ⟨s.pool, none, some t⟩
    | .endless => ⟨s.pool, none, none⟩

/-- The answer to a REQUEST at time `now`. -/
def request (s : Server) (now : Int) (m : Message) : Except Error Handling := do
  if let some sid := ← m.options.serverIdentifier then
    if sid != s.config.serverIp then return s.silent
  let nak : Handling := ⟨s.pool, some (.nak m s.config.serverIp), some 0⟩
  match (given (← m.options.requestedAddress)).or (given (some m.ciaddr)) with
  | none => pure nak
  | some a =>
    match s.pool.commit m.chaddr a now s.leaseMillis with
    | .ok (pool, r) =>
      pure ⟨pool, some (.ack m r.address s.config.serverIp s.config.leaseDurationSeconds), some 0⟩
    | .error (.ownershipConflict _) | .error (.addressOutOfRange _) | .error (.missingOwner _) =>
      pure nak
    | .error e => throw e

/-- The answer to a message at time `now`. -/
def handleMessage (s : Server) (now : Int) (m : Message) : Except Error Handling := do
  if m.op != .request || m.chaddr.isEmpty then return s.silent
  if m.isRelease then return ⟨(s.pool.release m.chaddr now).1, none, some 0⟩
  match ← m.kind with
  | some .discover => s.discover m
  | some .request => s.request now m
  | _ => pure s.silent

/-- The answer to a datagram from `source` at time `now`: the handling, and the reply
datagram with its destination. -/
def handleDatagram (s : Server) (now : Int) (bytes : List UInt8) (source : Endpoint) :
    Except Error (Handling × Option Outbound) := do
  let m ← Message.decode bytes
  let h ← s.handleMessage now m
  match h.reply with
  | none => pure (h, none)
  | some r => pure (h, some ⟨s.replyDestination source, ← r.encode⟩)

end Server

end AddressLeasing
