import AddressLeasing.Client.Exchange
/-!
# Acquiring, renewing and releasing a lease

The client's three operations, each run to its end over a link:

* `acquire` tries DISCOVER, OFFER, REQUEST, ACK with a fresh transaction id per attempt. A NAK,
  a timeout or a failed link ends the attempt, and the client starts over, one more time than
  its restart limit in all. After the last failed attempt it is back in `init`.
* `renew` asks the granting server to extend the lease. Only a NAK ends the lease; after any
  other failure the client keeps the lease it had.
* `release` gives the lease back without waiting for an answer, and forgets it even when the
  datagram cannot be sent.

After every operation the client is `bound` exactly when it holds a lease, and `init`
otherwise.
-/

set_option autoImplicit false

namespace AddressLeasing

variable {σ : Type}

/-- What an operation returned, the client after it, and the link's state after it. -/
structure Outcome (σ α : Type) where
  result : Except Error α
  client : Client
  link : σ

namespace Client

/-- Takes a lease from an ACK of `server` for `requested`, or drops the lease on a NAK. An
ACK must carry the lease time. -/
def bindReply (c : Client) (reply : Message) (server requested : Ipv4) :
    Except Error ClientLease × Client :=
  match reply.kind with
  | .error e => (.error e, c)
  | .ok (some .nak) => (.error (.nak server requested), { c with lease := none, phase := .init })
  | .ok _ =>
    match reply.options.require OptionCode.leaseTime.toByte >>= LeaseOption.asWord32 with
    | .error e => (.error e, c)
    | .ok seconds =>
      let held : ClientLease := ⟨reply.yiaddr, server, seconds⟩
      (.ok held, { c with lease := some held, phase := .bound })

/-- One acquisition attempt with transaction `xid`. The server to request from is the OFFER's
identifier option, or its `siaddr` when the option is absent. -/
def tryAcquire (link : Link σ) (c : Client) (xid : UInt32) (s : σ) : Outcome σ ClientLease :=
  let c := { c with phase := .selecting, lease := none }
  match link.exchange c (Message.discover c.hardware xid c.maxMessageSize) c.server
      (· == .offer) s with
  | (.error e, s) => ⟨.error e, c, s⟩
  | (.ok offer, s) =>
    match offer.options.serverIdentifier with
    | .error e => ⟨.error e, c, s⟩
    | .ok identifier =>
      let server := identifier.getD offer.siaddr
      let c := { c with phase := .requesting }
      match link.exchange c (Message.request c.hardware xid offer.yiaddr server .unspecified)
          c.server MessageKind.answersRequest s with
      | (.error e, s) => ⟨.error e, c, s⟩
      | (.ok reply, s) =>
        let (result, c) := c.bindReply reply server offer.yiaddr
        ⟨result, c, s⟩

/-- Acquisition attempts with `restarts` more left after this one. -/
def acquireWithin (link : Link σ) : Nat → Client → σ → Outcome σ ClientLease
  | restarts, c, s =>
    let (xid, c) := c.drawXid
    match tryAcquire link c xid s with
    | ⟨.ok held, c, s⟩ => ⟨.ok held, c, s⟩
    | ⟨.error e, c, s⟩ =>
      match restarts with
      | 0 => ⟨.error (.acquisitionFailed c.attempts e), { c with phase := .init }, s⟩
      | restarts + 1 => acquireWithin link restarts c s

/-- Runs acquisition attempts until one is bound or all have failed. -/
def acquire (link : Link σ) (c : Client) (s : σ) : Outcome σ ClientLease :=
  acquireWithin link (c.attempts - 1) c s

/-- Asks `server` to extend the lease the client holds. -/
def renew (link : Link σ) (c : Client) (server : Ipv4) (s : σ) : Outcome σ ClientLease :=
  match c.lease with
  | none => ⟨.error .notBound, c, s⟩
  | some held =>
    let (xid, c) := c.drawXid
    let request := Message.request c.hardware xid held.address server held.address
    let c := { c with phase := .requesting }
    let (result, c, s) : Except Error ClientLease × Client × σ :=
      match link.exchange c request (c.destinationFor server) MessageKind.answersRequest s with
      | (.error e, s) => (.error e, c, s)
      | (.ok reply, s) =>
        let (result, c) := c.bindReply reply server held.address
        (result, c, s)
    match result with
    | .error (.nak ..) => ⟨result, c, s⟩
    | .error _ => ⟨result, { c with phase := .bound }, s⟩
    | .ok _ => ⟨result, c, s⟩

/-- Gives the held lease back to the server that granted it. -/
def release (link : Link σ) (c : Client) (s : σ) : Outcome σ Unit :=
  match c.lease with
  | none => ⟨.error .notBound, c, s⟩
  | some held =>
    let c := { c with lease := none, phase := .releasing }
    let (xid, c) := c.drawXid
    let (sent, s) : Except Error Unit × σ :=
      match (Message.release c.hardware xid held.address).encode with
      | .ok bytes => link.send bytes (c.destinationFor held.server) s
      | .error e => (.error e, s)
    ⟨sent, { c with phase := .init }, s⟩

end Client

end AddressLeasing
