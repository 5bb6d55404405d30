import AddressLeasing.Client.Session
import AddressLeasing.Proofs.PoolChanges
import AddressLeasing.Proofs.ReplyCorrelation
import AddressLeasing.Proofs.StageInvariant
/-!
# A lease from start to end

A client wired straight to a server acquires a lease, renews it and gives it back. The wire is
a `Link` whose sends are handled by the server at once and whose waits take the server's
replies in the order they were sent (`Server.connection`): nothing is lost, repeated or
reordered, and nothing else reaches the client.

On such a wire, for a client whose hardware address holds no lease in a server a run reaches,
with a free address in the pool:

* `acquire` succeeds at its first attempt, with the address that `selectOffer` picks, the
  server's identifier and the configured lease time, and the pool then leases that address to
  the client and no other;
* `renew` at the server that granted it returns the same address;
* `release` then leaves nothing leased to the client, its record still naming it as owner.

The first point needs the offered address to be non-zero: the server reads a requested
0.0.0.0 as no address at all and refuses the REQUEST, so a pool whose range starts at 0.0.0.0
can offer an address that it then refuses to grant (`zero_offer_refused`). The range starting
above 0.0.0.0 is enough.
-/

set_option autoImplicit false

namespace AddressLeasing

/-! ## Pool facts the cycle needs -/

theorem Ipv4.isUnspecified_eq_false_of_le {a b : Ipv4} (hb : b ≠ .unspecified) (h : b ≤ a) :
    a.isUnspecified = false := by
  have hb' : b.toNat ≠ 0 := fun h0 => hb (Ipv4.toNat_inj.mp h0)
  have hle := Ipv4.le_iff_toNat_le.mp h
  have ha0 : a.toNat ≠ 0 := by omega
  have ha : a.bits ≠ 0 := fun h0 => ha0 (by simp [Ipv4.toNat, h0])
  simp [Ipv4.isUnspecified, ha]

namespace LeasePool

variable {c : ServerConfig} {p : LeasePool} {owner : HardwareAddress} {a : Ipv4}

theorem recordFor?_of_isAvailable (h : p.isAvailable a = true) :
    ∃ r, p.recordFor? a = some r ∧ r.leased = false := by
  unfold isAvailable at h
  split at h
  · rename_i r hr
    exact ⟨r, hr, by simpa using h⟩
  · cases h

/-- A commit succeeds when the owner is named, the address has a record that is free or
already the owner's, and the lease ends within the calendar. -/
theorem commit_of_recordFor? {r : LeaseRecord} {now d : Int} (hown : owner.isEmpty = false)
    (hr : p.recordFor? a = some r) (hfree : r.leased = true → r.owner = owner)
    (hcal : earliestInstant ≤ now + d ∧ now + d ≤ latestInstant) :
    p.commit owner a now d =
      .ok (p.grant owner a now (now + d),
        { r with leased := true, owner, expiresAt := now + d }) := by
  have hcheck : (r.leased && r.owner != owner) = false := by
    cases hl : r.leased
    · rfl
    · simp [hfree hl]
  have hshift : shiftInstant now d = .ok (now + d) := by
    unfold shiftInstant
    rw [if_neg (by omega)]
  simp [commit, hown, hr, hcheck, hshift, bind, Except.bind, pure, Except.pure]

/-- In a sound pool of a range that starts above 0.0.0.0, no available address is 0.0.0.0. -/
theorem Sound.isUnspecified_of_isAvailable (hs : Sound c p) (hc : c.Valid)
    (hstart : c.poolStart ≠ .unspecified) (h : p.isAvailable a = true) :
    a.isUnspecified = false := by
  obtain ⟨r, hr, -⟩ := recordFor?_of_isAvailable h
  obtain ⟨hmem, rfl⟩ := hs.recordFor?_eq_some hr
  have hspan : r.address ∈ c.poolStart.span c.poolSize := by
    rw [← hs.addresses]
    exact List.mem_map_of_mem hmem
  exact Ipv4.isUnspecified_eq_false_of_le hstart ((hc.mem_span.mp hspan).1)

/-- A release by an owner that holds `a` frees the record of `a`, which keeps its owner. -/
theorem Sound.release_of_holds (hs : Sound c p) (now : Int) (hold : p.Holds owner a) :
    ∃ x ∈ (p.release owner now).1.records, x.address = a ∧ x.owner = owner ∧ x.leased = false := by
  obtain ⟨-, r, hr, rfl, hl, -⟩ := hold
  rcases release_cases p owner now with ⟨hnone, -⟩ | ⟨r₀, hr₀, hl₀, heq⟩
  · rw [hnone r hr] at hl
    cases hl
  -- the record released is the one lease of `owner`, which is that of `a`
  obtain rfl := hs.eq_of_isLeasedTo hr hr₀ hl hl₀
  have howner : r.owner = owner := by
    simp only [LeaseRecord.isLeasedTo, Bool.and_eq_true, beq_iff_eq] at hl
    exact hl.2
  refine ⟨releaseRecord r.address now r, ?_, ?_, ?_, ?_⟩
  · rw [heq]
    exact List.mem_map_of_mem hr
  all_goals simp [releaseRecord, howner]

/-- With a free record in the pool, `selectOffer` has an address for anyone. -/
theorem selectOffer_none_of_free (hfree : ∃ r ∈ p.records, r.leased = false) :
    ∃ a, p.selectOffer owner none = some a := by
  obtain ⟨r, hr, hl⟩ := hfree
  obtain ⟨a, ha⟩ : ∃ a, p.findAvailable = some a := by
    cases h : p.records.find? (!·.leased) with
    | none => exact absurd (List.find?_eq_none.mp h r hr) (by simp [hl])
    | some r' => exact ⟨r'.address, by simp [findAvailable, h]⟩
  simp only [selectOffer, previousOrFirst]
  split
  · split
    · exact ⟨_, rfl⟩
    · exact ⟨a, ha⟩
  · exact ⟨a, ha⟩

/-- After a commit of `a` to `owner` in a sound pool, `a` is the one address `owner` holds. -/
theorem Sound.holds_only_commit (hs : Sound c p) (hc : c.Valid) {p' : LeasePool}
    {r' : LeaseRecord} {now d : Int} (h : p.commit owner a now d = .ok (p', r')) :
    p'.Holds owner a ∧ ∀ x ∈ p'.records, x.isLeasedTo owner = true → x.address = a := by
  have hold : p'.HoldsUntil owner a (now + d) := hs.holdsUntil_commit h
  refine ⟨⟨_, hold⟩, fun x hx hl => ?_⟩
  obtain ⟨y, hy, rfl, hly, -⟩ := hold
  rw [(hs.commit hc h).eq_of_isLeasedTo hx hy hl hly]

end LeasePool

namespace Message

variable {chaddr : HardwareAddress} {xid : UInt32}

@[simp] theorem kind_request (requested server ciaddr : Ipv4) :
    (request chaddr xid requested server ciaddr).kind = .ok (some .request) := by
  simp [kind, options_request, OptionList.kind, OptionList.typed, OptionList.get?,
    LeaseOption.ofKind, LeaseOption.asKind, OptionCode.toByte, Except.map]

@[simp] theorem serverIdentifier_request (requested server ciaddr : Ipv4) :
    (request chaddr xid requested server ciaddr).options.serverIdentifier = .ok (some server) := by
  simp [options_request, OptionList.serverIdentifier, OptionList.typed, OptionList.get?,
    LeaseOption.asAddress, LeaseOption.serverIdentifier, LeaseOption.requestedAddress,
    LeaseOption.ofKind, OptionCode.toByte, Except.map]

end Message

namespace Server

variable {s : Server}

/-- A REQUEST for a non-zero address names it. -/
theorem requestsAddress_of_request {chaddr : HardwareAddress} {xid : UInt32}
    {a server ciaddr : Ipv4} (ha : a.isUnspecified = false) :
    RequestsAddress (Message.request chaddr xid a server ciaddr) a :=
  ⟨some a, by simp, by simp [given, ha]⟩

/-- A REQUEST from a client with a hardware address, naming this server and a non-zero
address, is one the server takes up. -/
theorem takesRequest_request {chaddr : HardwareAddress} {xid : UInt32} {a ciaddr : Ipv4}
    (hne : chaddr.isEmpty = false) (ha : a.isUnspecified = false) :
    s.TakesRequest (Message.request chaddr xid a s.config.serverIp ciaddr) a where
  op := rfl
  chaddr := hne
  notRelease := by simp
  kind := by simp
  server := ⟨some s.config.serverIp, by simp, fun _ hx => (Option.some.inj hx).symm⟩
  names := requestsAddress_of_request ha

/-- A REQUEST at this server that names 0.0.0.0 both in option 50 and in `ciaddr` names no
address, and is refused. -/
theorem handleMessage_request_unspecified {chaddr : HardwareAddress} {xid : UInt32} {now : Int}
    (hne : chaddr.isEmpty = false) :
    s.handleMessage now (.request chaddr xid .unspecified s.config.serverIp .unspecified) =
      .ok ⟨s.pool, some ((Message.request chaddr xid .unspecified s.config.serverIp
        .unspecified).nak s.config.serverIp), some 0⟩ := by
  have hop : (Message.request chaddr xid .unspecified s.config.serverIp .unspecified).op =
      .request := rfl
  have hch : (Message.request chaddr xid .unspecified s.config.serverIp .unspecified).chaddr =
      chaddr := rfl
  have hci : (Message.request chaddr xid .unspecified s.config.serverIp .unspecified).ciaddr =
      .unspecified := rfl
  simp [handleMessage, request, hop, hch, hci, hne, bind, Except.bind, pure, Except.pure]

end Server

/-- A client wired to a server: the server, and the replies on their way back, oldest first. -/
structure Connection where
  server : Server
  inbox : List (List UInt8)

namespace Server

/-- The link of a client whose datagrams all reach the server at time `now`, from `source`,
and whose replies come back in order and without loss. -/
def connection (now : Int) (source : Endpoint) : Link Connection where
  send bytes _ st :=
    (.ok (), ⟨st.server.step (.datagram now bytes source),
      st.inbox ++ st.server.answer now bytes source⟩)
  receive st :=
    match st.inbox with
    | [] => (.deadline, st)
    | b :: rest => (.datagram b st.server.config.bindAddress, ⟨st.server, rest⟩)
  pending st := st.inbox.length
  pending_receive := by
    rintro ⟨server, _ | ⟨b, rest⟩⟩ bytes source' h
    · cases h
    · simp

variable {now : Int} {source : Endpoint}

/-- A wait on the wire takes the oldest reply when it is the one waited for. -/
theorem awaitReply_connection {st : Connection} {b : List UInt8} {rest : List (List UInt8)}
    {r : Message} {xid : UInt32} {hardware : HardwareAddress} {accept : MessageKind → Bool}
    (hinbox : st.inbox = b :: rest) (hdec : Message.decode b = .ok r)
    (hans : r.answers xid hardware accept = true) :
    (connection now source).awaitReply xid hardware accept st =
      (.ok (some r), ⟨st.server, rest⟩) := by
  obtain ⟨server, inbox⟩ := st
  cases hinbox
  rw [Link.awaitReply]
  simp [connection, hdec, hans]

/-- Sending a message on the wire hands it to the server, which moves to the handling's pool
and queues its reply. -/
theorem send_connection {st : Connection} {m : Message} {hd : Handling} (hm : m.Encodable)
    (hh : st.server.handleMessage now m = .ok hd) (destination : Endpoint) :
    (connection now source).send m.wire destination st =
      (.ok (), ⟨{ st.server with pool := hd.pool },
        st.inbox ++ hd.reply.toList.map Message.wire⟩) := by
  have hdec := Message.decode_wire hm
  have hhd : st.server.handling? (.datagram now m.wire source) = some hd :=
    handling?_datagram hdec hh fun r hr => ⟨_, Message.encode_eq_ok (reply_encodable hdec hh hr)⟩
  simp only [connection, step_of_handling? hhd, answer_eq hdec hh]

/-- **An exchange on the wire** of a message that the server answers with a reply the client
takes ends with that reply, the server moved to the handling's pool and nothing left over. -/
theorem exchange_connection {st : Connection} {c : Client} {m : Message} {hd : Handling}
    {r : Message} {accept : MessageKind → Bool} (hm : m.Encodable) (hinbox : st.inbox = [])
    (hh : st.server.handleMessage now m = .ok hd) (hr : hd.reply = some r)
    (hans : r.answers m.xid c.hardware accept = true) (destination : Endpoint) :
    (connection now source).exchange c m destination accept st =
      (.ok r, ⟨{ st.server with pool := hd.pool }, []⟩) := by
  have hr' : Message.decode r.wire = .ok r :=
    Message.decode_wire (reply_encodable (Message.decode_wire hm) hh hr)
  have hsend : (connection now source).send m.wire destination st = _ :=
    send_connection hm hh destination
  have hawait : (connection now source).awaitReply m.xid c.hardware accept
      ⟨{ st.server with pool := hd.pool }, st.inbox ++ hd.reply.toList.map Message.wire⟩ =
        (.ok (some r), ⟨{ st.server with pool := hd.pool }, []⟩) :=
    awaitReply_connection (by simp [hinbox, hr]) hr' hans
  simp only [Link.exchange, Message.encode_eq_ok hm, Link.resend, hsend, hawait]

end Server

namespace Message

variable {req : Message} {k : MessageKind} {yiaddr server : Ipv4} {lease : Option UInt32}

@[simp] theorem yiaddr_reply : (req.reply k yiaddr server lease).yiaddr = yiaddr := rfl

end Message

namespace Client

/-- An ACK binds the client to the address it grants, for its lease time, at the server the
client names. -/
theorem bindReply_ack (c : Client) (req : Message) (a server' server requested : Ipv4)
    (l : UInt32) :
    c.bindReply (req.ack a server' l) server requested =
      (.ok ⟨a, server, l⟩, { c with lease := some ⟨a, server, l⟩, phase := .bound }) := by
  simp [bindReply, Message.ack, Message.kind_reply, Message.options_reply, OptionList.require,
    OptionList.get?, LeaseOption.ofKind, LeaseOption.serverIdentifier, LeaseOption.leaseTime,
    LeaseOption.asWord32, OptionCode.toByte, Word.length_be32, bind, Except.bind]

/-- A NAK ends the client's lease and sends it back to the start. -/
theorem bindReply_nak (c : Client) (req : Message) (server' server requested : Ipv4) :
    c.bindReply (req.nak server') server requested =
      (.error (.nak server requested), { c with lease := none, phase := .init }) := by
  simp [bindReply, Message.kind_nak]

/-- The lease a server grants for `a`. -/
def grantedBy (s : Server) (a : Ipv4) : ClientLease :=
  ⟨a, s.config.serverIp, s.config.leaseDurationSeconds⟩

@[simp] theorem address_grantedBy (s : Server) (a : Ipv4) : (grantedBy s a).address = a := rfl

section Cycle

open Server

variable {s : Server} {c : Client} {now : Int}

/-- The DISCOVER of an attempt on the wire draws an OFFER of the address `selectOffer` picks,
which the selecting client takes; the server stays as it was. -/
theorem exchange_discover_connection (hne : c.hardware.isEmpty = false)
    (hnone : s.pool.activeLeaseFor? c.hardware = none) {a : Ipv4}
    (hsel : s.pool.selectOffer c.hardware none = some a) (source : Endpoint) (xid : UInt32) :
    (connection now source).exchange { c with phase := .selecting, lease := none }
        (.discover c.hardware xid c.maxMessageSize) c.server (· == .offer) ⟨s, []⟩ =
      (.ok ((Message.discover c.hardware xid c.maxMessageSize).offer a s.config.serverIp
        s.config.leaseDurationSeconds), ⟨s, []⟩) :=
  @exchange_connection now source ⟨s, []⟩ { c with phase := .selecting, lease := none }
    (.discover c.hardware xid c.maxMessageSize) _ _ (· == .offer)
    (Message.encodable_discover _ _ _) rfl (handleMessage_discover hne hnone hsel) rfl
    ((Message.answers_reply _).trans rfl) c.server

/-- **One attempt on the wire.** When the server holds no lease for the client and has an
address to offer, an attempt binds the client to that address, and the server commits it. -/
theorem tryAcquire_connection (hs : s.Invariant) (hstart : s.config.poolStart ≠ .unspecified)
    (hne : c.hardware.isEmpty = false) (hnone : s.pool.activeLeaseFor? c.hardware = none)
    {a : Ipv4} (hsel : s.pool.selectOffer c.hardware none = some a)
    (hcal : earliestInstant ≤ now + s.leaseMillis ∧ now + s.leaseMillis ≤ latestInstant)
    (source : Endpoint) (xid : UInt32) :
    ∃ p r, s.pool.commit c.hardware a now s.leaseMillis = .ok (p, r) ∧
      tryAcquire (connection now source) c xid ⟨s, []⟩ =
        ⟨.ok (grantedBy s a), { c with phase := .bound, lease := some (grantedBy s a) },
          ⟨{ s with pool := p }, []⟩⟩ := by
  have havail := hs.sound.isAvailable_selectOffer hs.valid hsel
  obtain ⟨r, hr, hfree⟩ := LeasePool.recordFor?_of_isAvailable havail
  have hra : r.address = a := (hs.sound.recordFor?_eq_some hr).2
  have ha : a.isUnspecified = false := hs.sound.isUnspecified_of_isAvailable hs.valid hstart havail
  -- the REQUEST for `a` at this server commits it, and the requesting client takes the ACK
  have hcommit := LeasePool.commit_of_recordFor? hne hr (fun h => by simp [hfree] at h) hcal
  refine ⟨_, _, hcommit, ?_⟩
  have hack : s.handleMessage now (.request c.hardware xid a s.config.serverIp .unspecified) = _ :=
    handleMessage_of_takesRequest (takesRequest_request hne ha) hcommit
  have hans : ((Message.request c.hardware xid a s.config.serverIp .unspecified).ack
      { r with leased := true, owner := c.hardware, expiresAt := now + s.leaseMillis }.address
      s.config.serverIp s.config.leaseDurationSeconds).answers xid c.hardware
      MessageKind.answersRequest = true :=
    (Message.answers_reply _).trans rfl
  have hx₂ : (connection now source).exchange
      { c with phase := .requesting, lease := none }
      (.request c.hardware xid a s.config.serverIp .unspecified) c.server
      MessageKind.answersRequest ⟨s, []⟩ = _ :=
    @exchange_connection now source ⟨s, []⟩ { c with phase := .requesting, lease := none }
      (.request c.hardware xid a s.config.serverIp .unspecified) _ _ MessageKind.answersRequest
      (Message.encodable_request _ _ _ _ _) rfl hack rfl hans c.server
  simp only [tryAcquire]
  -- the DISCOVER draws an OFFER, which the selecting client takes
  rw [exchange_discover_connection hne hnone hsel source xid]
  simp only [Message.offer, Message.serverIdentifier_reply, Option.getD_some, Message.yiaddr_reply]
  rw [hx₂]
  simp only [bindReply_ack, hra]
  rfl

/-- **Acquisition on the wire** ends at its first attempt, bound to the offered address. -/
theorem acquire_connection (hs : s.Invariant) (hstart : s.config.poolStart ≠ .unspecified)
    (hne : c.hardware.isEmpty = false) (hnone : s.pool.activeLeaseFor? c.hardware = none)
    {a : Ipv4} (hsel : s.pool.selectOffer c.hardware none = some a)
    (hcal : earliestInstant ≤ now + s.leaseMillis ∧ now + s.leaseMillis ≤ latestInstant)
    (source : Endpoint) :
    ∃ p r, s.pool.commit c.hardware a now s.leaseMillis = .ok (p, r) ∧
      acquire (connection now source) c ⟨s, []⟩ =
        ⟨.ok (grantedBy s a), { c.drawXid.2 with phase := .bound, lease := some (grantedBy s a) },
          ⟨{ s with pool := p }, []⟩⟩ := by
  obtain ⟨p, r, hcommit, htry⟩ := tryAcquire_connection hs hstart (c := c.drawXid.2)
    (by simpa using hne) (by simpa using hnone) (by simpa using hsel) hcal source c.drawXid.1
  refine ⟨p, r, by simpa using hcommit, ?_⟩
  unfold acquire
  cases c.attempts - 1 <;> simp only [acquireWithin, htry]

/-- **Renewal on the wire** at the server that holds the client's lease returns the same
address, committed again. -/
theorem renew_connection (hs : s.Invariant) (hne : c.hardware.isEmpty = false)
    {held : ClientLease} (hlease : c.lease = some held)
    (hhold : s.pool.Holds c.hardware held.address) (hzero : held.address.isUnspecified = false)
    (hserver : held.server = s.config.serverIp)
    (hcal : earliestInstant ≤ now + s.leaseMillis ∧ now + s.leaseMillis ≤ latestInstant)
    (source : Endpoint) :
    ∃ p r, s.pool.commit c.hardware held.address now s.leaseMillis = .ok (p, r) ∧
      renew (connection now source) c held.server ⟨s, []⟩ =
        ⟨.ok (grantedBy s held.address),
          { c.drawXid.2 with phase := .bound, lease := some (grantedBy s held.address) },
          ⟨{ s with pool := p }, []⟩⟩ := by
  obtain ⟨-, r, hmem, hra, hl, -⟩ := hhold
  have hr : s.pool.recordFor? held.address = some r :=
    hra ▸ hs.sound.recordFor?_of_mem hs.valid hmem
  -- the record is the client's own lease, so the commit is a renewal
  have hown : r.leased = true → r.owner = c.hardware := fun _ => by
    simp only [LeaseRecord.isLeasedTo, Bool.and_eq_true, beq_iff_eq] at hl
    exact hl.2
  have hcommit := LeasePool.commit_of_recordFor? hne hr hown hcal
  refine ⟨_, _, hcommit, ?_⟩
  -- name the drawn transaction and client, so that nothing compares them with `c`
  obtain ⟨x, c', hdraw⟩ : ∃ x c', c.drawXid = (x, c') := ⟨_, _, rfl⟩
  have hhw : c'.hardware = c.hardware := by rw [← drawXid_snd_hardware c, hdraw]
  have hack : s.handleMessage now (.request c'.hardware x held.address s.config.serverIp
      held.address) = _ :=
    handleMessage_of_takesRequest (takesRequest_request (hhw ▸ hne) hzero) (hhw ▸ hcommit)
  have hans : ((Message.request c'.hardware x held.address s.config.serverIp held.address).ack
      { r with leased := true, owner := c'.hardware, expiresAt := now + s.leaseMillis }.address
      s.config.serverIp s.config.leaseDurationSeconds).answers x c'.hardware
      MessageKind.answersRequest = true :=
    (Message.answers_reply _).trans rfl
  have hx : (connection now source).exchange { c' with phase := .requesting }
      (.request c'.hardware x held.address s.config.serverIp held.address)
      ({ c' with phase := .requesting }.destinationFor s.config.serverIp)
      MessageKind.answersRequest ⟨s, []⟩ = _ :=
    @exchange_connection now source ⟨s, []⟩ { c' with phase := .requesting }
      (.request c'.hardware x held.address s.config.serverIp held.address) _ _
      MessageKind.answersRequest (Message.encodable_request _ _ _ _ _) rfl hack rfl hans _
  simp only [renew, hlease, hserver, hdraw]
  rw [hx]
  simp only [bindReply_ack, hra, hhw]
  rfl

/-- **Release on the wire** ends the client's lease at the server, with no answer. -/
theorem release_connection (hne : c.hardware.isEmpty = false) {held : ClientLease}
    (hlease : c.lease = some held) (source : Endpoint) :
    release (connection now source) c ⟨s, []⟩ =
      ⟨.ok (), { { c with lease := none, phase := .releasing }.drawXid.2 with phase := .init },
        ⟨{ s with pool := (s.pool.release c.hardware now).1 }, []⟩⟩ := by
  have hrel (xid : UInt32) : (Message.release c.hardware xid held.address).isRelease = true := by
    have hopts : (Message.release c.hardware xid held.address).options = ⟨[.endMarker]⟩ :=
      OptionList.ofList_of_nodup (by simp)
    rw [Message.isRelease, hopts]
    rfl
  have hsend (xid : UInt32) (destination : Endpoint) :
      (connection now source).send (Message.release c.hardware xid held.address).wire destination
        ⟨s, []⟩ = _ :=
    send_connection (Message.encodable_release _ _ _) (handleMessage_of_isRelease (hrel xid))
      destination
  have hch (xid : UInt32) : (Message.release c.hardware xid held.address).chaddr = c.hardware :=
    rfl
  simp only [release, hlease, drawXid_snd_hardware,
    Message.encode_eq_ok (Message.encodable_release _ _ _), hsend]
  simp [hch, hne]

/-- **An offer of 0.0.0.0 is refused.** The REQUEST for it names no address, so an attempt that
is offered 0.0.0.0 ends with the server's NAK, the client back at the start and the server as
it was. -/
theorem tryAcquire_unspecified_offer (hne : c.hardware.isEmpty = false)
    (hnone : s.pool.activeLeaseFor? c.hardware = none)
    (hsel : s.pool.selectOffer c.hardware none = some .unspecified) (source : Endpoint)
    (xid : UInt32) :
    tryAcquire (connection now source) c xid ⟨s, []⟩ =
      ⟨.error (.nak s.config.serverIp .unspecified), { c with phase := .init, lease := none },
        ⟨s, []⟩⟩ := by
  have hans : ((Message.request c.hardware xid .unspecified s.config.serverIp .unspecified).nak
      s.config.serverIp).answers xid c.hardware MessageKind.answersRequest = true :=
    (Message.answers_reply _).trans rfl
  have hnak : s.handleMessage now
      (.request c.hardware xid .unspecified s.config.serverIp .unspecified) = _ :=
    handleMessage_request_unspecified hne
  have hx₂ : (connection now source).exchange
      { c with phase := .requesting, lease := none }
      (.request c.hardware xid .unspecified s.config.serverIp .unspecified) c.server
      MessageKind.answersRequest ⟨s, []⟩ = _ :=
    @exchange_connection now source ⟨s, []⟩ { c with phase := .requesting, lease := none }
      (.request c.hardware xid .unspecified s.config.serverIp .unspecified) _ _
      MessageKind.answersRequest (Message.encodable_request _ _ _ _ _) rfl hnak rfl hans c.server
  simp only [tryAcquire]
  -- the DISCOVER draws an OFFER, which the selecting client takes
  rw [exchange_discover_connection hne hnone hsel source xid]
  simp only [Message.offer, Message.serverIdentifier_reply, Option.getD_some, Message.yiaddr_reply]
  rw [hx₂]
  simp only [bindReply_nak]

-- Split first: unifying the drawn client with the old one would compare the two ids.
theorem drawXid_snd_maxRestarts (c : Client) : c.drawXid.2.maxRestarts = c.maxRestarts := by
  cases c
  rfl

/-- The attempts an acquisition makes depend on the restart limit alone. -/
@[simp] theorem attempts_drawXid_reset (c : Client) :
    { c.drawXid.2 with phase := .init, lease := none }.attempts = c.attempts := by
  simp only [attempts, drawXid_snd_maxRestarts]

/-- **Acquisition fails when the pool offers 0.0.0.0**, whatever the restarts: every attempt
is refused and leaves the server as it was, so the next one is offered 0.0.0.0 again. -/
theorem acquireWithin_unspecified_offer (hnone : s.pool.activeLeaseFor? c.hardware = none)
    (hne : c.hardware.isEmpty = false)
    (hsel : s.pool.selectOffer c.hardware none = some .unspecified) (source : Endpoint)
    (restarts : Nat) :
    (acquireWithin (connection now source) restarts c ⟨s, []⟩).result =
      .error (.acquisitionFailed c.attempts (.nak s.config.serverIp .unspecified)) := by
  -- induction on the restarts left; the client of the next attempt has the same hardware
  induction restarts generalizing c with
  | zero =>
    have htry : tryAcquire (connection now source) c.drawXid.2 c.drawXid.1 ⟨s, []⟩ = _ :=
      tryAcquire_unspecified_offer (by simpa using hne) (by simpa using hnone)
        (by simpa using hsel) source c.drawXid.1
    rw [acquireWithin]
    simp only [htry, attempts_drawXid_reset]
  | succ n ih =>
    have htry : tryAcquire (connection now source) c.drawXid.2 c.drawXid.1 ⟨s, []⟩ = _ :=
      tryAcquire_unspecified_offer (by simpa using hne) (by simpa using hnone)
        (by simpa using hsel) source c.drawXid.1
    rw [acquireWithin]
    simp only [htry]
    rw [ih (by simpa using hnone) (by simpa using hne) (by simpa using hsel),
      attempts_drawXid_reset]

end Cycle

end Client

open Server Client in
/-- **A lease from start to end.** Take a server that a run reaches, whose range starts above
0.0.0.0 and has a free address, and a client whose hardware address holds no lease there,
wired straight to it, at times whose lease ends are instants of the calendar. Its acquisition
succeeds at the first attempt, drawing one transaction, with the address `selectOffer` picks,
the server's identifier and the configured lease time; the pool then leases that address to the
client and no other. A renewal at that server returns the same address. A release then leaves
nothing leased to the client, and the record of the address still names it as owner. -/
theorem lease_acquired_renewed_released {s : Server} (hs : s.Invariant)
    (hstart : s.config.poolStart ≠ .unspecified) {c : Client} (hne : c.hardware.isEmpty = false)
    (hnone : s.pool.activeLeaseFor? c.hardware = none)
    (hfree : ∃ r ∈ s.pool.records, r.leased = false) (t₁ t₂ t₃ : Int)
    (hcal₁ : earliestInstant ≤ t₁ + s.leaseMillis ∧ t₁ + s.leaseMillis ≤ latestInstant)
    (hcal₂ : earliestInstant ≤ t₂ + s.leaseMillis ∧ t₂ + s.leaseMillis ≤ latestInstant)
    (source : Endpoint) :
    ∃ lease c₁ st₁, acquire (connection t₁ source) c ⟨s, []⟩ = ⟨.ok lease, c₁, st₁⟩ ∧
      c₁.draws = c.draws + 1 ∧ c₁.lastXid = c.random c.draws ∧
      s.pool.selectOffer c.hardware none = some lease.address ∧
      lease.server = s.config.serverIp ∧ lease.durationSeconds = s.config.leaseDurationSeconds ∧
      st₁.server.pool.Holds c.hardware lease.address ∧
      (∀ x ∈ st₁.server.pool.records, x.isLeasedTo c.hardware = true →
        x.address = lease.address) ∧
      ∃ lease' c₂ st₂, renew (connection t₂ source) c₁ lease.server st₁ = ⟨.ok lease', c₂, st₂⟩ ∧
        lease'.address = lease.address ∧
        ∃ c₃ st₃, release (connection t₃ source) c₂ st₂ = ⟨.ok (), c₃, st₃⟩ ∧
          (∀ x ∈ st₃.server.pool.records, x.isLeasedTo c.hardware = false) ∧
          ∃ x ∈ st₃.server.pool.records, x.address = lease.address ∧ x.owner = c.hardware := by
  obtain ⟨a, hsel⟩ : ∃ a, s.pool.selectOffer c.hardware none = some a :=
    LeasePool.selectOffer_none_of_free hfree
  have hzero : a.isUnspecified = false :=
    hs.sound.isUnspecified_of_isAvailable hs.valid hstart
      (hs.sound.isAvailable_selectOffer hs.valid hsel)
  -- the acquisition commits `a`, which the client then holds alone
  obtain ⟨p₁, r₁, hc₁, hacquire⟩ := acquire_connection hs hstart hne hnone hsel hcal₁ source
  obtain ⟨hold₁, honly₁⟩ := hs.sound.holds_only_commit hs.valid hc₁
  have hs₁ : ({ s with pool := p₁ } : Server).Invariant := ⟨hs.valid, hs.sound.commit hs.valid hc₁⟩
  -- the renewal at the granting server commits `a` again
  obtain ⟨p₂, r₂, hc₂, hrenew⟩ := renew_connection hs₁
    (c := { c.drawXid.2 with phase := .bound, lease := some (grantedBy s a) })
    (by simpa using hne) rfl (by simpa using hold₁) hzero rfl hcal₂ source
  have hsound₂ : p₂.Sound s.config := hs₁.sound.commit hs.valid hc₂
  have hold₂ : p₂.Holds c.hardware a := by
    simpa using (hs₁.sound.holds_only_commit hs.valid hc₂).1
  refine ⟨_, _, _, hacquire, rfl, rfl, hsel, rfl, rfl, hold₁, honly₁, _, _, _, hrenew, rfl, ?_⟩
  -- the release ends it, and the record of `a` keeps its owner
  refine ⟨_, _, release_connection (by simpa using hne) rfl source, ?_, ?_⟩
  · simpa using hsound₂.isLeasedTo_release c.hardware t₃
  · obtain ⟨x, hx, ha, ho, -⟩ := hsound₂.release_of_holds t₃ hold₂
    exact ⟨x, by simpa using hx, ha, ho⟩

/-- A client of one attempt, with the hardware address `02:00:00:00:00:01`. -/
def cycleClient : Client where
  hardware := .ofMac 2 0 0 0 0 1
  server := .v4 Server.handoverConfig.serverIp 67
  replyTimeoutMillis := 1000
  maxRetries := 2
  maxRestarts := 0
  maxMessageSize := 576
  phase := .init
  lease := none
  random := fun n => (n + 1).toUInt32
  draws := 0
  lastXid := 0

open Server Client in
/-- On the one-address server, `cycleClient` acquires the pool's only address. -/
theorem handover_lease_cycle :
    handoverServer.Invariant ∧ handoverConfig.poolStart ≠ .unspecified ∧
      cycleClient.hardware.isEmpty = false ∧
      handoverServer.pool.activeLeaseFor? cycleClient.hardware = none ∧
      (∃ r ∈ handoverServer.pool.records, r.leased = false) ∧
      (earliestInstant ≤ 0 + handoverServer.leaseMillis ∧
        0 + handoverServer.leaseMillis ≤ latestInstant) ∧
      ∃ lease c₁ st₁, acquire (connection 0 (.v4 .unspecified 68)) cycleClient
          ⟨handoverServer, []⟩ = ⟨.ok lease, c₁, st₁⟩ ∧
        lease.address = handoverConfig.poolStart := by
  have hs : handoverServer.Invariant := invariant_of_create (create_eq_ok (by decide))
  have hstart : handoverConfig.poolStart ≠ .unspecified := by decide
  have hne : cycleClient.hardware.isEmpty = false := by decide
  have hnone : handoverServer.pool.activeLeaseFor? cycleClient.hardware = none := by decide
  have hfree : ∃ r ∈ handoverServer.pool.records, r.leased = false := by decide
  have hcal : earliestInstant ≤ 0 + handoverServer.leaseMillis ∧
      0 + handoverServer.leaseMillis ≤ latestInstant := by decide
  have hoffer : handoverServer.pool.selectOffer cycleClient.hardware none =
      some handoverConfig.poolStart := by decide
  obtain ⟨lease, c₁, st₁, hacquire, -, -, hsel, -⟩ := lease_acquired_renewed_released hs hstart hne
    hnone hfree 0 0 0 hcal hcal (.v4 .unspecified 68)
  exact ⟨hs, hstart, hne, hnone, hfree, hcal, lease, c₁, st₁, hacquire,
    Option.some.inj (hsel.symm.trans hoffer)⟩

/-- A valid configuration whose range starts at 0.0.0.0: `0.0.0.0` to `0.0.0.10`. -/
def zeroConfig : ServerConfig :=
  { ServerConfig.default with poolStart := .unspecified, poolEnd := Ipv4.ofNat 10 }

def zeroServer : Server := ⟨zeroConfig, LeasePool.ofRange zeroConfig.poolStart zeroConfig.poolSize⟩

open Server Client in
/-- A server on a valid configuration whose range starts at 0.0.0.0 never grants a lease to a
client that has none, though its pool is free: the client is offered 0.0.0.0 and refused. -/
theorem zero_offer_refused :
    create zeroConfig = .ok zeroServer ∧
      zeroServer.pool.activeLeaseFor? cycleClient.hardware = none ∧
      (∃ r ∈ zeroServer.pool.records, r.leased = false) ∧
      zeroServer.pool.selectOffer cycleClient.hardware none = some .unspecified ∧
      (acquire (connection 0 (.v4 .unspecified 68)) cycleClient ⟨zeroServer, []⟩).result =
        .error (.acquisitionFailed 1 (.nak zeroConfig.serverIp .unspecified)) := by
  have hnone : zeroServer.pool.activeLeaseFor? cycleClient.hardware = none := by decide
  have hsel : zeroServer.pool.selectOffer cycleClient.hardware none = some .unspecified := by
    decide
  have hne : cycleClient.hardware.isEmpty = false := by decide
  refine ⟨create_eq_ok (by decide), hnone, by decide, hsel, ?_⟩
  unfold acquire
  rw [acquireWithin_unspecified_offer hnone hne hsel]
  rfl

end AddressLeasing
