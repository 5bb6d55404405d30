import AddressLeasing.Client.Basic
import AddressLeasing.Client.Link
import AddressLeasing.Wire.Envelope
/-!
# Exchanges

An exchange sends one request and waits for its reply. A reply belongs to the request when it
travels from server to client, carries the request's transaction id and the client's hardware
address, and has a kind the exchange expects. Everything else that arrives, including
datagrams that do not decode, is dropped and the wait goes on until the deadline. Each
deadline that passes without a reply sends the same bytes again, up to one more time than
the client's retry limit, and then the exchange times out.

The wait ends because each datagram the link delivers lowers the count of those it holds; the
resending ends because it counts down its tries.
-/

set_option autoImplicit false

namespace AddressLeasing

variable {σ : Type}

/-- Whether `r` is a server's reply to transaction `xid` of `hardware` whose kind `accept`
takes. -/
def Message.answers (r : Message) (xid : UInt32) (hardware : HardwareAddress)
    (accept : MessageKind → Bool) : Bool :=
  r.op == .reply && r.xid == xid && r.chaddr == hardware &&
    match r.kind with
    | .ok (some k) => accept k
    | _ => false

/-- The kinds that answer a REQUEST. -/
def MessageKind.answersRequest (k : MessageKind) : Bool := k == .ack || k == .nak

/-- Waits for the reply to transaction `xid`, dropping every other datagram. `none` means that
the deadline passed first. -/
def Link.awaitReply (link : Link σ) (xid : UInt32) (hardware : HardwareAddress)
    (accept : MessageKind → Bool) (s : σ) : Except Error (Option Message) × σ :=
  let step := link.receive s
  match arrived : step.1 with
  | .deadline => (.ok none, step.2)
  | .failure e => (.error e, step.2)
  | .datagram bytes source =>
    have : link.pending step.2 < link.pending s := link.pending_receive s bytes source arrived
    match Message.decode bytes with
    | .ok r =>
      if r.answers xid hardware accept then (.ok (some r), step.2)
      else link.awaitReply xid hardware accept step.2
    | .error _ => link.awaitReply xid hardware accept step.2
termination_by link.pending s

/-- Sends `bytes` to `destination` at most `tries` times, each time waiting once for the
reply to `xid`. -/
def Link.resend (link : Link σ) (c : Client) (bytes : List UInt8) (destination : Endpoint)
    (xid : UInt32) (accept : MessageKind → Bool) : Nat → σ → Except Error Message × σ
  | 0, s => (.error c.timeout, s)
  | tries + 1, s =>
    match link.send bytes destination s with
    | (.error e, s) => (.error e, s)
    | (.ok (), s) =>
      match link.awaitReply xid c.hardware accept s with
      | (.ok (some r), s) => (.ok r, s)
      | (.ok none, s) => link.resend c bytes destination xid accept tries s
      | (.error e, s) => (.error e, s)

/-- Sends `m` to `destination` and returns its reply, resending after each deadline up to the
client's retry limit. -/
def Link.exchange (link : Link σ) (c : Client) (m : Message) (destination : Endpoint)
    (accept : MessageKind → Bool) (s : σ) : Except Error Message × σ :=
  match m.encode with
  | .error e => (.error e, s)
  | .ok bytes => link.resend c bytes destination m.xid accept (c.maxRetries.toNat + 1) s

end AddressLeasing
