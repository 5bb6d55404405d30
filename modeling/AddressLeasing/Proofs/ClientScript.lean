import AddressLeasing.Client.Session
/-!
# Client operations as scripts of link actions

`Client.acquire`, `Client.renew` and `Client.release` run to their end over a link. To put
several clients and a server on one network, where their steps interleave, an operation is
needed one link action at a time. A `Script` is that form: it has finished with a value, or it
sends a datagram, or it waits for the reply to a transaction, and each time it says how it goes
on from the outcome. Every action carries the client as it stands while the action is under
way, which is what the client's state shows at that moment.

Running a script over a link performs its actions in order (`Script.run`), and each operation
written as a script runs exactly as the operation itself (`run_acquire`, `run_renew`,
`run_release`). So a client on a network that takes the script's actions one by one is the
client of `Client.Session`, not a second model of it.
-/

set_option autoImplicit false

namespace AddressLeasing

/-- A client operation, one link action at a time. -/
inductive Script (α : Type) where
  | pure (a : α)
  /-- Sends `bytes` to `destination`, then goes on from whether the send succeeded. -/
  | send (client : Client) (bytes : List UInt8) (destination : Endpoint)
      (next : Except Error Unit → Script α)
  /-- Waits for a reply to `xid` of a kind `accept` takes, dropping every other datagram. -/
  | await (client : Client) (xid : UInt32) (accept : MessageKind → Bool)
      (next : Except Error (Option Message) → Script α)

namespace Script

variable {α β σ : Type}

/-- Runs `f` on the value a script finishes with. -/
def bind : Script α → (α → Script β) → Script β
  | pure a, f => f a
  | send c bytes destination next, f => send c bytes destination fun r => (next r).bind f
  | await c xid accept next, f => await c xid accept fun r => (next r).bind f

/-- Performs a script's actions over a link. -/
def run (link : Link σ) : Script α → σ → α × σ
  | pure a, s => (a, s)
  | send _ bytes destination next, s =>
    match link.send bytes destination s with
    | (r, s) => (next r).run link s
  | await c xid accept next, s =>
    match link.awaitReply xid c.hardware accept s with
    | (r, s) => (next r).run link s

section Run

variable (link : Link σ)

theorem run_send (c : Client) (bytes : List UInt8) (destination : Endpoint)
    (next : Except Error Unit → Script α) (s : σ) :
    (send c bytes destination next).run link s =
      (next (link.send bytes destination s).1).run link (link.send bytes destination s).2 := rfl

theorem run_await (c : Client) (xid : UInt32) (accept : MessageKind → Bool)
    (next : Except Error (Option Message) → Script α) (s : σ) :
    (await c xid accept next).run link s =
      (next (link.awaitReply xid c.hardware accept s).1).run link
        (link.awaitReply xid c.hardware accept s).2 := rfl

theorem run_bind (p : Script α) (f : α → Script β) (s : σ) :
    (p.bind f).run link s = (f (p.run link s).1).run link (p.run link s).2 := by
  induction p generalizing s with
  | pure a => rfl
  | send c bytes destination next ih => exact ih _ _
  | await c xid accept next ih => exact ih _ _

end Run

/-! ## Exchanges -/

/-- `Link.resend`: sends `bytes` at most `tries` times, each time waiting once for the reply. -/
def resend (c : Client) (bytes : List UInt8) (destination : Endpoint) (xid : UInt32)
    (accept : MessageKind → Bool) : Nat → Script (Except Error Message)
  | 0 => pure (.error c.timeout)
  | tries + 1 => send c bytes destination fun
    | .error e => pure (.error e)
    | .ok () => await c xid accept fun
      | .ok (some r) => pure (.ok r)
      | .ok none => resend c bytes destination xid accept tries
      | .error e => pure (.error e)

/-- `Link.exchange`: sends `m` and returns its reply. -/
def exchange (c : Client) (m : Message) (destination : Endpoint) (accept : MessageKind → Bool) :
    Script (Except Error Message) :=
  match m.encode with
  | .error e => pure (.error e)
  | .ok bytes => resend c bytes destination m.xid accept (c.maxRetries.toNat + 1)

section Run

variable (link : Link σ)

theorem run_resend (c : Client) (bytes : List UInt8) (destination : Endpoint) (xid : UInt32)
    (accept : MessageKind → Bool) (tries : Nat) (s : σ) :
    (resend c bytes destination xid accept tries).run link s =
      link.resend c bytes destination xid accept tries s := by
  induction tries generalizing s with
  | zero => rfl
  | succ tries ih =>
    rw [resend, run_send, Link.resend]
    rcases hs : link.send bytes destination s with ⟨_ | ⟨⟩, s'⟩
    · rfl
    -- after a send, the wait decides between the reply, one more try, and the failure
    · rcases ha : link.awaitReply xid c.hardware accept s' with ⟨_ | _ | r, s''⟩ <;>
        simp only [run_await, ha]
      · rfl
      · exact ih s''
      · rfl

theorem run_exchange (c : Client) (m : Message) (destination : Endpoint)
    (accept : MessageKind → Bool) (s : σ) :
    (exchange c m destination accept).run link s = link.exchange c m destination accept s := by
  unfold exchange Link.exchange
  cases m.encode with
  | error e => rfl
  | ok bytes => exact run_resend link _ _ _ _ _ _ s

end Run

/-! ## The three operations -/

/-- How an acquisition attempt ends once the REQUEST has its answer. -/
def requested (c : Client) (server requested : Ipv4) :
    Except Error Message → Script (Except Error ClientLease × Client)
  | .error e => pure (.error e, c)
  | .ok reply => pure (c.bindReply reply server requested)

/-- How an acquisition attempt goes on once the DISCOVER has its answer: a REQUEST for the
offered address to the server that offered it. -/
def offered (c : Client) (xid : UInt32) :
    Except Error Message → Script (Except Error ClientLease × Client)
  | .error e => pure (.error e, c)
  | .ok offer =>
    match offer.options.serverIdentifier with
    | .error e => pure (.error e, c)
    | .ok identifier =>
      (exchange { c with phase := .requesting }
          (Message.request c.hardware xid offer.yiaddr (identifier.getD offer.siaddr) .unspecified)
          c.server MessageKind.answersRequest).bind
        (requested { c with phase := .requesting } (identifier.getD offer.siaddr) offer.yiaddr)

/-- `Client.tryAcquire`: one acquisition attempt with transaction `xid`. -/
def tryAcquire (c : Client) (xid : UInt32) : Script (Except Error ClientLease × Client) :=
  (exchange { c with phase := .selecting, lease := none }
      (Message.discover c.hardware xid c.maxMessageSize) c.server (· == .offer)).bind
    (offered { c with phase := .selecting, lease := none } xid)

/-- `Client.acquireWithin`: acquisition attempts with `restarts` more left after this one. -/
def acquireWithin : Nat → Client → Script (Except Error ClientLease × Client)
  | 0, c => (tryAcquire c.drawXid.2 c.drawXid.1).bind fun
    | (.ok held, c) => pure (.ok held, c)
    | (.error e, c) => pure (.error (.acquisitionFailed c.attempts e), { c with phase := .init })
  | restarts + 1, c => (tryAcquire c.drawXid.2 c.drawXid.1).bind fun
    | (.ok held, c) => pure (.ok held, c)
    | (.error _, c) => acquireWithin restarts c

/-- `Client.acquire`. -/
def acquire (c : Client) : Script (Except Error ClientLease × Client) :=
  acquireWithin (c.attempts - 1) c

/-- How a renewal ends: only a NAK ends the lease; after any other failure the client is bound
again to what it held. -/
def settleRenewal : Except Error ClientLease × Client → Except Error ClientLease × Client
  | (.error (.nak server requested), c) => (.error (.nak server requested), c)
  | (.error e, c) => (.error e, { c with phase := .bound })
  | (.ok held, c) => (.ok held, c)

/-- How a renewal goes on once its REQUEST has its answer. -/
def renewed (c : Client) (server requested : Ipv4) :
    Except Error Message → Script (Except Error ClientLease × Client)
  | .error e => pure (settleRenewal (.error e, c))
  | .ok reply => pure (settleRenewal (c.bindReply reply server requested))

/-- `Client.renew`. -/
def renew (c : Client) (server : Ipv4) : Script (Except Error ClientLease × Client) :=
  match c.lease with
  | none => pure (.error .notBound, c)
  | some held =>
    (exchange { c.drawXid.2 with phase := .requesting }
        (Message.request c.drawXid.2.hardware c.drawXid.1 held.address server held.address)
        ({ c.drawXid.2 with phase := .requesting }.destinationFor server)
        MessageKind.answersRequest).bind
      (renewed { c.drawXid.2 with phase := .requesting } server held.address)

/-- `Client.release`. -/
def release (c : Client) : Script (Except Error Unit × Client) :=
  match c.lease with
  | none => pure (.error .notBound, c)
  | some held =>
    let c := { c with lease := none, phase := .releasing }
    match (Message.release c.drawXid.2.hardware c.drawXid.1 held.address).encode with
    | .ok bytes => send c.drawXid.2 bytes (c.drawXid.2.destinationFor held.server) fun sent =>
        pure (sent, { c.drawXid.2 with phase := .init })
    | .error e => pure (.error e, { c.drawXid.2 with phase := .init })

section Run

variable (link : Link σ)

theorem run_tryAcquire (c : Client) (xid : UInt32) (s : σ) :
    (tryAcquire c xid).run link s =
      (((Client.tryAcquire link c xid s).result, (Client.tryAcquire link c xid s).client),
        (Client.tryAcquire link c xid s).link) := by
  unfold tryAcquire
  simp only [Client.tryAcquire, run_bind, run_exchange]
  rcases hd : link.exchange _ _ _ _ s with ⟨_ | offer, s'⟩
  · rfl
  · simp only [offered]
    rcases hsid : offer.options.serverIdentifier with e | identifier
    · rfl
    · simp only [run_bind, run_exchange]
      rcases hr : link.exchange _ _ _ _ s' with ⟨_ | reply, s''⟩ <;> rfl

theorem run_acquireWithin (restarts : Nat) (c : Client) (s : σ) :
    (acquireWithin restarts c).run link s =
      (((Client.acquireWithin link restarts c s).result,
        (Client.acquireWithin link restarts c s).client), (Client.acquireWithin link restarts c s).link) := by
  induction restarts generalizing c s with
  | zero =>
    rw [acquireWithin, run_bind, run_tryAcquire, Client.acquireWithin]
    simp only [Client.drawXid]
    rcases Client.tryAcquire link _ _ s with ⟨_ | held, c', s'⟩ <;> rfl
  | succ restarts ih =>
    rw [acquireWithin, run_bind, run_tryAcquire, Client.acquireWithin]
    simp only [Client.drawXid]
    rcases Client.tryAcquire link _ _ s with ⟨_ | held, c', s'⟩
    · exact ih c' s'
    · rfl

theorem run_acquire (c : Client) (s : σ) :
    (acquire c).run link s =
      (((Client.acquire link c s).result, (Client.acquire link c s).client),
        (Client.acquire link c s).link) :=
  run_acquireWithin link _ c s

theorem run_renew (c : Client) (server : Ipv4) (s : σ) :
    (renew c server).run link s =
      (((Client.renew link c server s).result, (Client.renew link c server s).client),
        (Client.renew link c server s).link) := by
  unfold renew Client.renew
  cases c.lease with
  | none => rfl
  | some held =>
    simp only [run_bind, run_exchange]
    rcases link.exchange _ _ _ _ s with ⟨_ | reply, s'⟩
    · rename_i e
      cases e <;> rfl
    · simp only [renewed]
      rcases (Client.bindReply _ reply server held.address) with ⟨_ | held', c'⟩
      · rename_i e
        cases e <;> rfl
      · rfl

theorem run_release (c : Client) (s : σ) :
    (release c).run link s =
      (((Client.release link c s).result, (Client.release link c s).client),
        (Client.release link c s).link) := by
  unfold release Client.release
  cases c.lease with
  | none => rfl
  | some held =>
    simp only
    cases (Message.release _ _ held.address).encode <;> rfl

end Run

end Script

end AddressLeasing
