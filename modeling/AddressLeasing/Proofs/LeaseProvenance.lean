import AddressLeasing.Proofs.ClientSteps
import AddressLeasing.Proofs.LeaseCycle
/-!
# Where a client's lease comes from

A client takes a lease only from replies that answer its own messages. To say so about a run,
the run is watched through `Link.logged`, a link that does what the client's link does and
also writes down, in order, every datagram the client sends and every reception it has: a
datagram, a passed deadline, a failure. Watching changes nothing: a logged run returns what
the plain run returns, leaves the client as the plain run leaves it, and leaves the link as
the plain run leaves it, with the log beside it (`awaitReply_logged` up to `renew_logged`).

What the log shows when an operation succeeds:

* an acquisition that returns a lease `l` ends with a DISCOVER of the transaction id the
  client drew last, answered by an OFFER for that id and the client's hardware address; then
  the REQUEST of that id for the offered address from the server the OFFER names, or from its
  `siaddr` when it names none; then an ACK for that id and address which gives `l`: its
  address, that server, and its lease time (`AcquisitionShown`);
* a renewal that returns `l` ends with a REQUEST under the id it draws for the held address, both
  requested and as `ciaddr`, answered by an ACK that gives `l` from the server asked
  (`RenewalShown`).

Between each sending and its answer, every datagram that arrived was dropped: it did not
decode, or was not a server's reply of an accepted kind to that id and hardware address
(`Link.Dropped`). The main result is `lease_from_correlated_replies`.
-/

set_option autoImplicit false

namespace AddressLeasing

/-- One thing a client's link does: send a datagram, or end a wait with a reception. -/
inductive LinkEvent where
  | sent (bytes : List UInt8) (destination : Endpoint)
  | received (r : Reception)

namespace Link

variable {σ : Type}

/-- `link` with a log: every sending and every reception is appended to the log it carries. -/
def logged (link : Link σ) : Link (σ × List LinkEvent) where
  send bytes destination st :=
    ((link.send bytes destination st.1).1,
      ((link.send bytes destination st.1).2, st.2 ++ [.sent bytes destination]))
  receive st :=
    ((link.receive st.1).1, ((link.receive st.1).2, st.2 ++ [.received (link.receive st.1).1]))
  pending st := link.pending st.1
  pending_receive st bytes source h := link.pending_receive st.1 bytes source h

/-- A reception that a wait for transaction `xid` of `hw` drops: a datagram that does not
decode, or decodes to something that does not answer the transaction. -/
def Dropped (xid : UInt32) (hw : HardwareAddress) (accept : MessageKind → Bool) :
    LinkEvent → Prop
  | .received (.datagram b _) => ∀ r, Message.decode b = .ok r → r.answers xid hw accept = false
  | _ => False

/-- How the log of an exchange that got reply `r` ends: `bytes` sent to `destination`, then
only datagrams the wait dropped, then the datagram of `r`. -/
def ExchangeShown (bytes : List UInt8) (destination : Endpoint) (xid : UInt32)
    (hw : HardwareAddress) (accept : MessageKind → Bool) (r : Message) (evs : List LinkEvent) :
    Prop :=
  ∃ pre drops b source, evs = pre ++ .sent bytes destination :: drops ++
      [.received (.datagram b source)] ∧
    (∀ d ∈ drops, Dropped xid hw accept d) ∧ Message.decode b = .ok r

/-- The log `evs` ends in an exchange of `m` with `destination` that `r` answered: the last
sending of `m`, only datagrams the wait dropped, then `r`, a reply to `m`'s transaction for
`hw` of a kind `accept` takes. -/
def Exchanged (m : Message) (destination : Endpoint) (hw : HardwareAddress)
    (accept : MessageKind → Bool) (r : Message) (evs : List LinkEvent) : Prop :=
  ∃ bytes, m.encode = .ok bytes ∧ ExchangeShown bytes destination m.xid hw accept r evs ∧
    r.answers m.xid hw accept = true

theorem Exchanged.prepend {hw : HardwareAddress} {accept : MessageKind → Bool}
    {m r : Message} {destination : Endpoint} {evs : List LinkEvent}
    (h : Exchanged m destination hw accept r evs) (pre : List LinkEvent) :
    Exchanged m destination hw accept r (pre ++ evs) := by
  obtain ⟨bytes, henc, ⟨pre', drops, b, source, rfl, hdrops, hdec⟩, hans⟩ := h
  exact ⟨bytes, henc, ⟨pre ++ pre', drops, b, source, by simp, hdrops, hdec⟩, hans⟩

theorem Exchanged.answers {hw : HardwareAddress} {accept : MessageKind → Bool}
    {m r : Message} {destination : Endpoint} {evs : List LinkEvent}
    (h : Exchanged m destination hw accept r evs) : r.answers m.xid hw accept = true := by
  obtain ⟨-, -, -, hans⟩ := h
  exact hans

section Logged

variable (link : Link σ) (xid : UInt32) (hw : HardwareAddress) (accept : MessageKind → Bool)

theorem logged_receive (s : σ) (t : List LinkEvent) :
    link.logged.receive (s, t) =
      ((link.receive s).1, ((link.receive s).2, t ++ [.received (link.receive s).1])) := rfl

theorem logged_send (bytes : List UInt8) (destination : Endpoint) (s : σ) (t : List LinkEvent) :
    link.logged.send bytes destination (s, t) =
      ((link.send bytes destination s).1,
        ((link.send bytes destination s).2, t ++ [.sent bytes destination])) := rfl

theorem awaitReply_logged (s : σ) (t : List LinkEvent) :
    ∃ evs, link.logged.awaitReply xid hw accept (s, t) =
        ((link.awaitReply xid hw accept s).1, ((link.awaitReply xid hw accept s).2, t ++ evs)) ∧
      ∀ r, (link.awaitReply xid hw accept s).1 = .ok (some r) →
        ∃ drops b source, evs = drops ++ [.received (.datagram b source)] ∧
          (∀ d ∈ drops, Dropped xid hw accept d) ∧ Message.decode b = .ok r ∧
          r.answers xid hw accept = true := by
  -- on the datagrams the link still holds, which every reception lowers
  induction hn : link.pending s using Nat.strong_induction_on generalizing s t with
  | _ n ih =>
    have hlog {x : Reception} {s' : σ} (h : link.receive s = (x, s')) :
        link.logged.receive (s, t) = (x, (s', t ++ [.received x])) := by
      rw [logged_receive, h]
    rcases hrec : link.receive s with ⟨_ | _ | _, s'⟩
    · rename_i b source
      rcases awaitReply_datagram hrec with ⟨r, hdec, hans, htaken⟩ | ⟨hdrop, hdropped⟩
      · rw [htaken, awaitReply_taken (hlog hrec) hdec hans]
        refine ⟨[.received (.datagram b source)], rfl, fun r' hr' => ?_⟩
        cases hr'
        exact ⟨[], b, source, rfl, by simp, hdec, hans⟩
      · -- a dropped datagram: the rest of the wait is logged after it
        have hlt : link.pending s' < n := hn ▸ pending_lt_of_receive hrec
        obtain ⟨evs, heq, hreply⟩ := ih _ hlt s' (t ++ [.received (.datagram b source)]) rfl
        rw [hdropped, awaitReply_dropped (hlog hrec) hdrop, heq]
        refine ⟨.received (.datagram b source) :: evs, by simp, fun r hr => ?_⟩
        obtain ⟨drops, b', source', rfl, hdrops, hdec, hans⟩ := hreply r hr
        refine ⟨.received (.datagram b source) :: drops, b', source', rfl, ?_, hdec, hans⟩
        rintro d (_ | ⟨_, hd⟩)
        · exact hdrop
        · exact hdrops d hd
    · rw [awaitReply_deadline hrec, awaitReply_deadline (hlog hrec)]
      exact ⟨[.received .deadline], rfl, fun r hr => by cases hr⟩
    · rename_i e
      rw [awaitReply_failure hrec, awaitReply_failure (hlog hrec)]
      exact ⟨[.received (.failure e)], rfl, fun r hr => by cases hr⟩

theorem resend_logged (c : Client) (bytes : List UInt8) (destination : Endpoint) (tries : Nat)
    (s : σ) (t : List LinkEvent) :
    ∃ evs, link.logged.resend c bytes destination xid accept tries (s, t) =
        ((link.resend c bytes destination xid accept tries s).1,
          ((link.resend c bytes destination xid accept tries s).2, t ++ evs)) ∧
      ∀ r, (link.resend c bytes destination xid accept tries s).1 = .ok r →
        ExchangeShown bytes destination xid c.hardware accept r evs ∧
          r.answers xid c.hardware accept = true := by
  -- on the tries left; each try sends once and waits once
  induction tries generalizing s t with
  | zero => exact ⟨[], by simp [Link.resend], fun r hr => by simp [Link.resend] at hr⟩
  | succ tries ih =>
    rcases hs : link.send bytes destination s with ⟨_ | ⟨⟩, s'⟩
    · refine ⟨[.sent bytes destination], ?_, fun r hr => ?_⟩
      · simp [Link.resend, logged_send, hs]
      · simp [Link.resend, hs] at hr
    · obtain ⟨evs, hwait, hreply⟩ :=
        awaitReply_logged link xid c.hardware accept s' (t ++ [.sent bytes destination])
      rcases hw : link.awaitReply xid c.hardware accept s' with ⟨_ | _ | r, s''⟩
      · refine ⟨.sent bytes destination :: evs, ?_, fun r hr => ?_⟩
        · simp [Link.resend, logged_send, hs, hwait, hw]
        · simp [Link.resend, hs, hw] at hr
      · -- the deadline passed: the next try, logged after this one
        obtain ⟨evs', hnext, hreply'⟩ := ih s'' (t ++ .sent bytes destination :: evs)
        refine ⟨.sent bytes destination :: evs ++ evs', ?_, fun r hr => ?_⟩
        · simp [Link.resend, logged_send, hs, hwait, hw, hnext]
        · have hr' : (link.resend c bytes destination xid accept tries s'').1 = .ok r := by
            simpa [Link.resend, hs, hw] using hr
          obtain ⟨⟨pre, drops, b, source, hevs, hdrops, hdec⟩, hans⟩ := hreply' r hr'
          exact ⟨⟨.sent bytes destination :: evs ++ pre, drops, b, source, by simp [hevs],
            hdrops, hdec⟩, hans⟩
      · refine ⟨.sent bytes destination :: evs, ?_, fun r' hr' => ?_⟩
        · simp [Link.resend, logged_send, hs, hwait, hw]
        · simp only [Link.resend, hs, hw, Except.ok.injEq] at hr'
          subst hr'
          obtain ⟨drops, b, source, hevs, hdrops, hdec, hans⟩ := hreply r (by rw [hw])
          exact ⟨⟨[], drops, b, source, by simp [hevs], hdrops, hdec⟩, hans⟩

theorem exchange_logged (c : Client) (m : Message) (destination : Endpoint) (s : σ)
    (t : List LinkEvent) :
    ∃ evs, link.logged.exchange c m destination accept (s, t) =
        ((link.exchange c m destination accept s).1,
          ((link.exchange c m destination accept s).2, t ++ evs)) ∧
      ∀ r, (link.exchange c m destination accept s).1 = .ok r →
        Exchanged m destination c.hardware accept r evs := by
  unfold Link.exchange
  cases henc : m.encode with
  | error e => exact ⟨[], by simp, fun r hr => by cases hr⟩
  | ok bytes =>
    obtain ⟨evs, heq, hreply⟩ :=
      resend_logged link m.xid accept c bytes destination (c.maxRetries.toNat + 1) s t
    exact ⟨evs, heq, fun r hr => ⟨bytes, henc, hreply r hr⟩⟩

end Logged

end Link

namespace Client

/-- `l` is the lease that the ACK `ack` gives from `server`: its address and its lease time. -/
structure GivesLease (ack : Message) (server : Ipv4) (l : ClientLease) : Prop where
  isAck : ack.kind = .ok (some .ack)
  leaseTime : ack.options.leaseTime = .ok (some l.durationSeconds)
  address : l.address = ack.yiaddr
  granting : l.server = server

/-- A reply to a REQUEST that binds the client is an ACK, and gives the lease. -/
theorem bindReply_gives {c c' : Client} {reply : Message} {server requested : Ipv4}
    {l : ClientLease} {xid : UInt32} {hw : HardwareAddress}
    (hans : reply.answers xid hw MessageKind.answersRequest = true)
    (h : c.bindReply reply server requested = (.ok l, c')) :
    GivesLease reply server l := by
  obtain ⟨hnak, htime, hl, -⟩ := bindReply_eq_ok h
  obtain ⟨-, -, -, k, hk, hacc⟩ := Message.answers_eq_true.mp hans
  obtain rfl | rfl := MessageKind.answersRequest_eq_true.mp hacc
  · exact ⟨hk, htime, by rw [hl], by rw [hl]⟩
  · exact absurd hk hnak

open Link in
/-- A log that ends in a successful acquisition attempt with transaction `x`, by a client with
hardware address `hw` whose server endpoint is `server`, which took the lease `l`: a DISCOVER
answered by an OFFER, then a REQUEST for the offered address from the server that the OFFER
names (its `siaddr` when it names none), answered by an ACK that gives `l` from that server. -/
inductive AcquisitionShown (hw : HardwareAddress) (server : Endpoint) (maxSize : UInt16)
    (x : UInt32) (l : ClientLease) : List LinkEvent → Prop
  | intro {evs₁ evs₂ : List LinkEvent} {offer ack : Message} {identifier : Option Ipv4}
      (offered : Exchanged (.discover hw x maxSize) server hw (· == .offer) offer evs₁)
      (identified : offer.options.serverIdentifier = .ok identifier)
      (acked : Exchanged (.request hw x offer.yiaddr (identifier.getD offer.siaddr) .unspecified)
        server hw MessageKind.answersRequest ack evs₂)
      (gives : GivesLease ack (identifier.getD offer.siaddr) l) :
      AcquisitionShown hw server maxSize x l (evs₁ ++ evs₂)

theorem AcquisitionShown.prepend {hw : HardwareAddress} {server : Endpoint} {maxSize : UInt16}
    {x : UInt32} {l : ClientLease} {evs : List LinkEvent}
    (h : AcquisitionShown hw server maxSize x l evs) (pre : List LinkEvent) :
    AcquisitionShown hw server maxSize x l (pre ++ evs) := by
  obtain ⟨offered, identified, acked, gives⟩ := h
  rw [← List.append_assoc]
  exact ⟨offered.prepend pre, identified, acked, gives⟩

open Link in
/-- A log that ends in a successful renewal with transaction `x` of the lease `held` at
`server`, by a client with hardware address `hw` that sends to `destination`, which took the
lease `l`: a REQUEST for `held`'s address, which the client also gives as the one it holds,
answered by an ACK that gives `l` from `server`. -/
def RenewalShown (hw : HardwareAddress) (destination : Endpoint) (x : UInt32) (held : ClientLease)
    (server : Ipv4) (l : ClientLease) (evs : List LinkEvent) : Prop :=
  ∃ ack, Exchanged (.request hw x held.address server held.address) destination hw
    MessageKind.answersRequest ack evs ∧ GivesLease ack server l

variable {σ : Type} (link : Link σ)

theorem tryAcquire_logged (c : Client) (xid : UInt32) (s : σ) (t : List LinkEvent) :
    ∃ evs, tryAcquire link.logged c xid (s, t) =
        ⟨(tryAcquire link c xid s).result, (tryAcquire link c xid s).client,
          ((tryAcquire link c xid s).link, t ++ evs)⟩ ∧
      ∀ l, (tryAcquire link c xid s).result = .ok l →
        AcquisitionShown c.hardware c.server c.maxMessageSize xid l evs ∧
          (tryAcquire link c xid s).client = { c with phase := .bound, lease := some l } := by
  obtain ⟨evs₁, hx₁, hshow₁⟩ := link.exchange_logged (· == .offer)
    { c with phase := .selecting, lease := none } (.discover c.hardware xid c.maxMessageSize)
    c.server s t
  simp only [tryAcquire]
  rw [hx₁]
  rcases h₁ : link.exchange _ _ _ _ s with ⟨_ | offer, s₁⟩ <;> dsimp only
  · exact ⟨evs₁, rfl, fun l hl => by cases hl⟩
  · have hoffer := hshow₁ offer (by rw [h₁])
    rcases hsid : offer.options.serverIdentifier with e | identifier <;> dsimp only
    · exact ⟨evs₁, rfl, fun l hl => by cases hl⟩
    · obtain ⟨evs₂, hx₂, hshow₂⟩ := link.exchange_logged MessageKind.answersRequest
        { c with phase := .requesting, lease := none }
        (.request c.hardware xid offer.yiaddr (identifier.getD offer.siaddr) .unspecified)
        c.server s₁ (t ++ evs₁)
      rw [hx₂]
      rcases h₂ : link.exchange _ _ _ _ s₁ with ⟨_ | reply, s₂⟩ <;> dsimp only
      · exact ⟨evs₁ ++ evs₂, by simp, fun l hl => by cases hl⟩
      · have hack := hshow₂ reply (by rw [h₂])
        rcases hb : Client.bindReply _ reply (identifier.getD offer.siaddr) offer.yiaddr with
          ⟨_ | l, c'⟩ <;> dsimp only
        · exact ⟨evs₁ ++ evs₂, by simp, fun l hl => by cases hl⟩
        · refine ⟨evs₁ ++ evs₂, by simp, fun l' hl' => ?_⟩
          cases hl'
          obtain ⟨-, -, -, rfl⟩ := bindReply_eq_ok hb
          exact ⟨⟨hoffer, hsid, hack, bindReply_gives hack.answers hb⟩, rfl⟩

theorem acquireWithin_logged (restarts : Nat) (c : Client) (s : σ) (t : List LinkEvent) :
    ∃ evs, acquireWithin link.logged restarts c (s, t) =
        ⟨(acquireWithin link restarts c s).result, (acquireWithin link restarts c s).client,
          ((acquireWithin link restarts c s).link, t ++ evs)⟩ ∧
      ∀ l, (acquireWithin link restarts c s).result = .ok l →
        AcquisitionShown c.hardware c.server c.maxMessageSize
          (acquireWithin link restarts c s).client.lastXid l evs := by
  -- on the restarts left; each attempt draws a transaction id and keeps the hardware
  -- address and the server endpoint, so a later attempt's log shows the same client
  induction restarts generalizing c s t with
  | zero =>
    obtain ⟨x, c', hdraw⟩ : ∃ x c', c.drawXid = (x, c') := ⟨_, _, rfl⟩
    obtain ⟨evs, htry, hshow⟩ := tryAcquire_logged link c' x s t
    rcases hres : tryAcquire link c' x s with ⟨_ | held, c'', s'⟩ <;> rw [hres] at htry hshow
    · rw [acquireWithin_zero_error link.logged hdraw htry,
        acquireWithin_zero_error link hdraw hres]
      exact ⟨evs, rfl, fun l hl => by cases hl⟩
    · rw [acquireWithin_ok link.logged hdraw htry, acquireWithin_ok link hdraw hres]
      refine ⟨evs, rfl, fun l hl => ?_⟩
      cases hl
      obtain ⟨hshown, rfl⟩ := hshow held rfl
      obtain ⟨-, rfl⟩ := eq_of_drawXid hdraw
      exact hshown
  | succ restarts ih =>
    obtain ⟨x, c', hdraw⟩ : ∃ x c', c.drawXid = (x, c') := ⟨_, _, rfl⟩
    obtain ⟨evs, htry, hshow⟩ := tryAcquire_logged link c' x s t
    obtain ⟨-, rfl⟩ := eq_of_drawXid hdraw
    rcases hres : tryAcquire link _ x s with ⟨_ | held, c'', s'⟩ <;> rw [hres] at htry hshow
    · -- a failed attempt: the next one is logged after it, by a client of the same hardware
      rw [acquireWithin_succ_error link.logged hdraw htry,
        acquireWithin_succ_error link hdraw hres]
      obtain ⟨evs', hnext, hshow'⟩ := ih c'' s' (t ++ evs)
      refine ⟨evs ++ evs', by simp [hnext], fun l hl => ?_⟩
      obtain ⟨ph, hc⟩ := tryAcquire_error_client link
        (show (tryAcquire link _ x s).result = _ by rw [hres])
      rw [hres] at hc
      dsimp only at hc
      subst hc
      exact (hshow' l hl).prepend evs
    · rw [acquireWithin_ok link.logged hdraw htry, acquireWithin_ok link hdraw hres]
      refine ⟨evs, rfl, fun l hl => ?_⟩
      cases hl
      obtain ⟨hshown, rfl⟩ := hshow held rfl
      exact hshown

theorem acquire_logged (c : Client) (s : σ) (t : List LinkEvent) :
    ∃ evs, acquire link.logged c (s, t) =
        ⟨(acquire link c s).result, (acquire link c s).client,
          ((acquire link c s).link, t ++ evs)⟩ ∧
      ∀ l, (acquire link c s).result = .ok l →
        AcquisitionShown c.hardware c.server c.maxMessageSize (acquire link c s).client.lastXid l
          evs :=
  acquireWithin_logged link (c.attempts - 1) c s t

theorem renew_logged (c : Client) (server : Ipv4) (s : σ) (t : List LinkEvent) :
    ∃ evs, renew link.logged c server (s, t) =
        ⟨(renew link c server s).result, (renew link c server s).client,
          ((renew link c server s).link, t ++ evs)⟩ ∧
      ∀ l, (renew link c server s).result = .ok l →
        ∃ held, c.lease = some held ∧
          RenewalShown c.hardware (c.destinationFor server) (c.random c.draws) held server l
            evs := by
  unfold renew
  cases hlease : c.lease with
  | none => exact ⟨[], by simp, fun l hl => by cases hl⟩
  | some held =>
    obtain ⟨x, c', hdraw⟩ : ∃ x c', c.drawXid = (x, c') := ⟨_, _, rfl⟩
    obtain ⟨hx, rfl⟩ := eq_of_drawXid hdraw
    rw [hdraw]
    dsimp only
    obtain ⟨evs, hx₁, hshow⟩ := link.exchange_logged MessageKind.answersRequest
      { c with draws := c.draws + 1, lastXid := x, phase := .requesting }
      (.request c.hardware x held.address server held.address)
      ({ c with draws := c.draws + 1, lastXid := x, phase := .requesting }.destinationFor server)
      s t
    rw [hx₁]
    rcases h₁ : link.exchange _ _ _ _ s with ⟨_ | reply, s₁⟩ <;> dsimp only
    · refine ⟨evs, ?_, fun l hl => ?_⟩
      · split <;> rfl
      · split at hl <;> cases hl
    · have hack := hshow reply (by rw [h₁])
      rcases hb : Client.bindReply _ reply server held.address with ⟨_ | l, c''⟩ <;> dsimp only
      · refine ⟨evs, ?_, fun l hl => ?_⟩
        · split <;> rfl
        · split at hl <;> cases hl
      · refine ⟨evs, rfl, fun l' hl' => ?_⟩
        cases hl'
        subst hx
        exact ⟨held, rfl, reply, hack, bindReply_gives hack.answers hb⟩

/-- The log of an acquisition by `c` over `link` from state `s`: everything the link did. -/
def acquireLog (c : Client) (s : σ) : List LinkEvent := (acquire link.logged c (s, [])).link.2

/-- The log of a renewal with `server` by `c` over `link` from state `s`. -/
def renewLog (c : Client) (server : Ipv4) (s : σ) : List LinkEvent :=
  (renew link.logged c server (s, [])).link.2

/-- **A lease comes only from correlated replies.** Over any link, whatever datagrams it
delivers and in whatever order, an acquisition that returns a lease shows in its log the
DISCOVER, OFFER, REQUEST and ACK of one transaction, the one whose id the client holds
afterwards, with the lease read off that ACK; a renewal that returns a lease shows the REQUEST
of the id it draws next, for the held address, and the ACK that gives the lease. -/
theorem lease_from_correlated_replies (c : Client) (s : σ) :
    (∀ l, (acquire link c s).result = .ok l →
      AcquisitionShown c.hardware c.server c.maxMessageSize (acquire link c s).client.lastXid l
        (acquireLog link c s)) ∧
    (∀ server l, (renew link c server s).result = .ok l →
      ∃ held, c.lease = some held ∧
        RenewalShown c.hardware (c.destinationFor server) (c.random c.draws) held server l
          (renewLog link c server s)) := by
  refine ⟨fun l hl => ?_, fun server l hl => ?_⟩
  · obtain ⟨evs, hrun, hshow⟩ := acquire_logged link c s []
    rw [acquireLog, hrun, List.nil_append]
    exact hshow l hl
  · obtain ⟨evs, hrun, hshow⟩ := renew_logged link c server s []
    rw [renewLog, hrun, List.nil_append]
    exact hshow l hl

end Client

open Server Client in
/-- On the one-address server, the log of `cycleClient`'s acquisition shows the lease it takes. -/
theorem handover_lease_shown :
    ∃ l, (acquire (connection 0 (.v4 .unspecified 68)) cycleClient ⟨handoverServer, []⟩).result =
        .ok l ∧
      AcquisitionShown cycleClient.hardware cycleClient.server cycleClient.maxMessageSize
        (acquire (connection 0 (.v4 .unspecified 68)) cycleClient ⟨handoverServer, []⟩).client.lastXid
        l (acquireLog (connection 0 (.v4 .unspecified 68)) cycleClient ⟨handoverServer, []⟩) := by
  have hs : handoverServer.Invariant := invariant_of_create (create_eq_ok (by decide))
  have hne : cycleClient.hardware.isEmpty = false := by decide
  have hnone : handoverServer.pool.activeLeaseFor? cycleClient.hardware = none := by decide
  have hsel : handoverServer.pool.selectOffer cycleClient.hardware none =
      some handoverConfig.poolStart := by decide
  have hcal : earliestInstant ≤ 0 + handoverServer.leaseMillis ∧
      0 + handoverServer.leaseMillis ≤ latestInstant := by decide
  obtain ⟨p, r, -, hrun⟩ :=
    acquire_connection hs (by decide) hne hnone hsel hcal (.v4 .unspecified 68)
  have hres :
      (acquire (connection 0 (.v4 .unspecified 68)) cycleClient ⟨handoverServer, []⟩).result =
        .ok (grantedBy handoverServer handoverConfig.poolStart) := by
    rw [hrun]
  exact ⟨_, hres, (lease_from_correlated_replies _ cycleClient _).1 _ hres⟩

end AddressLeasing
