import AddressLeasing.Client.Exchange
import AddressLeasing.Proofs.ServerReplies
/-!
# What a reply says

Every datagram the server sends is a whole message of 576 bytes that reads back as the reply
it built. The reply answers the message it was sent for: it travels from server to client,
carries over the transaction id, the hardware type, length and address, the flags and the relay
address, and names this server in option 54. Its kind and address follow the kind of the
request:

* a DISCOVER draws an OFFER of the address `selectOffer` picked, which was free at that moment,
  for the configured lease time;
* a REQUEST draws an ACK of the address that the requester holds afterwards, and no other, for
  the configured lease time, or a NAK with a zero address.

So the reply passes the filter of the client that sent the request: its direction, its
transaction and its hardware address match, and its kind is one that the client's step waits
for. The reply goes back to the sender, or to every host's client port when the sender has no
address yet.

The address facts hold of the servers that runs reach (`Server.Invariant`): an address that
`selectOffer` finds is one whose record `recordFor?` finds, because the records of a sound pool
sit at their addresses' distance from the first.
-/

set_option autoImplicit false

namespace AddressLeasing

/-- A four-byte word reads back as itself. -/
@[simp] theorem Word.read32_be32_self (w : UInt32) : Word.read32 (Word.be32 w) = w := by
  simpa using Word.read32_be32 w []

namespace Message

variable {req : Message} {k : MessageKind} {yiaddr server : Ipv4} {lease : Option UInt32}

/-- A reply names its server in option 54. -/
@[simp] theorem serverIdentifier_reply :
    (req.reply k yiaddr server lease).options.serverIdentifier = .ok (some server) := by
  rw [options_reply]
  simp [OptionList.serverIdentifier, OptionList.typed, OptionList.get?, LeaseOption.ofKind,
    LeaseOption.serverIdentifier, LeaseOption.asAddress, OptionCode.toByte, Except.map]

/-- A reply carries its lease time in option 51, and none when it was built without one. -/
@[simp] theorem leaseTime_reply :
    (req.reply k yiaddr server lease).options.leaseTime = .ok lease := by
  rw [options_reply]
  cases lease with
  | none =>
    simp [OptionList.leaseTime, OptionList.typed, OptionList.get?, LeaseOption.ofKind,
      LeaseOption.serverIdentifier, LeaseOption.endMarker, OptionCode.toByte]
  | some l =>
    simp [OptionList.leaseTime, OptionList.typed, OptionList.get?, LeaseOption.ofKind,
      LeaseOption.serverIdentifier, LeaseOption.leaseTime, LeaseOption.asWord32, OptionCode.toByte,
      Word.length_be32, Except.map]

/-- A reply answers the transaction of the request it is built from, with its own kind. -/
@[simp] theorem answers_reply (accept : MessageKind → Bool) :
    (req.reply k yiaddr server lease).answers req.xid req.chaddr accept = accept k := by
  have hop : (req.reply k yiaddr server lease).op = .reply := rfl
  have hxid : (req.reply k yiaddr server lease).xid = req.xid := rfl
  have hch : (req.reply k yiaddr server lease).chaddr = req.chaddr := rfl
  simp [answers, kind_reply, hop, hxid, hch]

/-- What a reply `r` carries over from the request `m` it answers, and the server it names. -/
structure Echoes (r m : Message) (server : Ipv4) : Prop where
  op : r.op = .reply
  xid : r.xid = m.xid
  chaddr : r.chaddr = m.chaddr
  htype : r.htype = m.htype
  hlen : r.hlen = m.hlen
  flags : r.flags = m.flags
  giaddr : r.giaddr = m.giaddr
  server : r.options.serverIdentifier = .ok (some server)

theorem echoes_reply : (req.reply k yiaddr server lease).Echoes req server :=
  ⟨rfl, rfl, rfl, rfl, rfl, rfl, rfl, serverIdentifier_reply⟩

end Message

/-! ## The address an OFFER gives -/

namespace LeasePool

variable {c : ServerConfig} {p : LeasePool} {owner : HardwareAddress} {r : LeaseRecord}
  {a : Ipv4}

theorem mem_of_recordForOwner? (h : p.recordForOwner? owner = some r) : r ∈ p.records := by
  unfold recordForOwner? at h
  split at h
  · cases h
  rcases Option.or_eq_some_iff.mp h with hfind | ⟨-, hfind⟩
  · exact List.mem_of_find?_eq_some hfind
  · exact List.mem_of_find?_eq_some hfind

/-- In a sound pool of a valid range, `recordFor?` finds every record at its own address. -/
theorem Sound.recordFor?_of_mem (hs : Sound c p) (hc : c.Valid) (hr : r ∈ p.records) :
    p.recordFor? r.address = some r := by
  obtain ⟨i, hi⟩ := List.mem_iff_getElem?.mp hr
  have hlt : i < c.poolSize := hs.length ▸ (List.getElem?_eq_some_iff.mp hi).1
  have haddr : r.address.toNat = c.poolStart.toNat + i := by
    rw [hs.address_of_getElem? hi, Ipv4.toNat_ofNat (by have := hc.span_bound; omega)]
  -- the first record is that of the first address, so `indexOf?` measures from it
  obtain ⟨r₀, rest, hrecords⟩ : ∃ r₀ rest, p.records = r₀ :: rest := by
    cases hrs : p.records with
    | nil => rw [hrs] at hr; cases hr
    | cons r₀ rest => exact ⟨r₀, rest, rfl⟩
  have h₀ : r₀.address = c.poolStart := by
    simpa using hs.address_of_getElem? (i := 0) (r := r₀) (by simp [hrecords])
  have hindex : p.indexOf? r.address = some i := by
    have hsize : p.size = c.poolSize := hs.length
    unfold indexOf?
    rw [hrecords]
    simp only [h₀, Ipv4.le_iff_toNat_le, haddr, hsize]
    simp [hlt]
  simp [recordFor?, hindex, hi]

/-- A free record of a sound pool is available at its address. -/
theorem Sound.isAvailable_of_mem (hs : Sound c p) (hc : c.Valid) (hr : r ∈ p.records)
    (hfree : r.leased = false) : p.isAvailable r.address = true := by
  simp [isAvailable, hs.recordFor?_of_mem hc hr, hfree]

theorem isAvailable_findAvailable (hs : Sound c p) (hc : c.Valid)
    (h : p.findAvailable = some a) : p.isAvailable a = true := by
  obtain ⟨r, hfind, rfl⟩ := Option.map_eq_some_iff.mp h
  have hfree : r.leased = false := by simpa using List.find?_some hfind
  exact hs.isAvailable_of_mem hc (List.mem_of_find?_eq_some hfind) hfree

/-- **An offer is of a free address.** In a sound pool of a valid range, every address that
`selectOffer` picks is in the pool and unleased. -/
theorem Sound.isAvailable_selectOffer (hs : Sound c p) (hc : c.Valid) {requested : Option Ipv4}
    (h : p.selectOffer owner requested = some a) : p.isAvailable a = true := by
  -- past the requested address, the choice is `owner`'s free record or the first free one
  have hprevious (h : p.previousOrFirst owner = some a) : p.isAvailable a = true := by
    unfold previousOrFirst at h
    split at h
    · rename_i r' hown
      split at h
      · rename_i hfree
        cases h
        exact hs.isAvailable_of_mem hc (mem_of_recordForOwner? hown) (by simpa using hfree)
      · exact isAvailable_findAvailable hs hc h
    · exact isAvailable_findAvailable hs hc h
  unfold selectOffer at h
  split at h
  · split at h
    · rename_i hav
      cases h
      exact hav
    · exact hprevious h
  · exact hprevious h

/-- An owner holds at most one address of a sound pool. -/
theorem Sound.eq_of_holds_owner (hs : Sound c p) {b : Ipv4} (ha : p.Holds owner a)
    (hb : p.Holds owner b) : a = b := by
  obtain ⟨-, r₁, h₁, rfl, l₁, -⟩ := ha
  obtain ⟨-, r₂, h₂, rfl, l₂, -⟩ := hb
  rw [hs.eq_of_isLeasedTo h₁ h₂ l₁ l₂]

end LeasePool

/-- A wait that finds an address found it by a lookup. -/
theorem OfferWait.lookup_of_found {lookup : Nat → Option Ipv4} {budget retry t : Nat} {a : Ipv4}
    (h : OfferWait.run lookup budget retry = .found a t) : lookup t = some a := by
  unfold OfferWait.run at h
  split at h
  · split at h
    · rename_i hl
      cases h
      exact hl
    · cases h
  · simp only at h
    split at h
    · rename_i hfind
      cases h
      obtain ⟨x, -, hx⟩ := List.exists_of_findSome?_eq_some hfind
      obtain ⟨y, hy, hxy⟩ := Option.map_eq_some_iff.mp hx
      cases hxy
      exact hy
    · cases h

namespace Server

variable {s : Server} {now : Int} {m : Message} {hd : Handling} {r : Message}

/-- **What a DISCOVER draws:** an OFFER, for the configured lease time, of the address that
`selectOffer` picks for the address the DISCOVER asks for; the pool stays as it was. -/
theorem discover_reply (h : s.discover m = .ok hd) (hr : hd.reply = some r) :
    hd.pool = s.pool ∧ ∃ req a, m.options.requestedAddress = .ok req ∧
      s.pool.selectOffer m.chaddr (given req) = some a ∧
      r = m.offer a s.config.serverIp s.config.leaseDurationSeconds := by
  refine ⟨(discover_eq_ok h).1, ?_⟩
  unfold discover at h
  split at h
  · rw [pure_eq_ok_iff] at h
    subst h
    cases hr
  obtain ⟨req, hreq, h⟩ := bind_eq_ok_iff.mp h
  rw [pure_eq_ok_iff] at h
  subst h
  -- only a wait that found an address replies; the lookup it found it by is `selectOffer`
  split at hr
  · rename_i a t hwait
    cases hr
    exact ⟨req, a, hreq, OfferWait.lookup_of_found hwait, rfl⟩
  · cases hr
  · cases hr

/-- A handled message that draws a reply is a DISCOVER or a REQUEST, handled as such. -/
theorem handleMessage_replied (h : s.handleMessage now m = .ok hd) (hr : hd.reply = some r) :
    (m.kind = .ok (some .discover) ∧ s.discover m = .ok hd) ∨
      (m.kind = .ok (some .request) ∧ s.request now m = .ok hd) := by
  unfold handleMessage at h
  split at h
  · rw [pure_eq_ok_iff] at h
    subst h
    cases hr
  split at h
  · rw [pure_eq_ok_iff] at h
    subst h
    cases hr
  obtain ⟨k, hk, h⟩ := bind_eq_ok_iff.mp h
  split at h
  · exact .inl ⟨hk, h⟩
  · exact .inr ⟨hk, h⟩
  · rw [pure_eq_ok_iff] at h
    subst h
    cases hr

/-- **What a REQUEST draws:** an ACK, for the configured lease time, of an address that the
requester then holds, and holds alone of all its addresses; or a NAK. -/
theorem request_reply (hs : s.Invariant) (h : s.request now m = .ok hd)
    (hr : hd.reply = some r) :
    (∃ a, r = m.ack a s.config.serverIp s.config.leaseDurationSeconds ∧
        hd.pool.Holds m.chaddr a ∧ ∀ b, hd.pool.Holds m.chaddr b → b = a) ∨
      r = m.nak s.config.serverIp := by
  rcases request_eq_ok h with ⟨-, hn | hn⟩ | ⟨a, rec, -, hcommit, hack⟩
  · rw [hn] at hr
    cases hr
  · rw [hn] at hr
    cases hr
    exact .inr rfl
  · rw [hack] at hr
    cases hr
    -- the ACK gives the committed record's address, which the commit leases to the requester
    have ha : rec.address = a := hs.commit_address hcommit
    have hhold : hd.pool.Holds m.chaddr rec.address :=
      ha ▸ ⟨_, hs.sound.holdsUntil_commit hcommit⟩
    have hsound : hd.pool.Sound s.config := hs.sound.commit hs.valid hcommit
    exact .inl ⟨rec.address, rfl, hhold, fun b hb => hsound.eq_of_holds_owner hb hhold⟩

/-- A datagram the server sends is the reply of the message it decodes to, written out, on
its way to `replyDestination`. -/
theorem handleDatagram_sent {d : List UInt8} {source : Endpoint} {out : Outbound}
    (h : s.handleDatagram now d source = .ok (hd, some out)) :
    ∃ m r, Message.decode d = .ok m ∧ s.handleMessage now m = .ok hd ∧ hd.reply = some r ∧
      out = ⟨s.replyDestination source, r.wire⟩ := by
  unfold handleDatagram at h
  obtain ⟨m, hdec, h⟩ := bind_eq_ok_iff.mp h
  obtain ⟨hd', hm, h⟩ := bind_eq_ok_iff.mp h
  split at h
  · rw [pure_eq_ok_iff] at h
    cases h
  · rename_i r hr
    rw [Message.encode_eq_ok (reply_encodable hdec hm hr)] at h
    cases h
    exact ⟨m, r, hdec, hm, hr, rfl⟩

end Server

open Server in
/-- **Replies are well formed and answer their requests.** On a server that a run reaches,
every datagram sent in answer to `d` is 576 bytes long and reads back as a reply that echoes
the request's correlation fields and names this server. A DISCOVER draws an OFFER, for the
lease time, of the address `selectOffer` picked, which was free; a REQUEST draws an ACK, for the
lease time, of the one address the requester holds afterwards, or a NAK of the zero address.
Either way the reply passes the requester's filter for the kinds its step waits for. The
datagram goes back to its source, or to the client port of every host when the source has no
address. -/
theorem replies_answer_their_requests {s : Server} (hs : s.Invariant) {now : Int}
    {d : List UInt8} {source : Endpoint} {hd : Handling} {out : Outbound}
    (h : s.handleDatagram now d source = .ok (hd, some out)) :
    out.bytes.length = 576 ∧
      out.destination =
        (if source.isUnspecified then .v4 .broadcast s.config.clientPort else source) ∧
      ∃ m r, Message.decode d = .ok m ∧ Message.decode out.bytes = .ok r ∧
        r.Echoes m s.config.serverIp ∧
        ((m.kind = .ok (some .discover) ∧ r.kind = .ok (some .offer) ∧
            (∃ req, m.options.requestedAddress = .ok req ∧
              s.pool.selectOffer m.chaddr (given req) = some r.yiaddr) ∧
            s.pool.isAvailable r.yiaddr = true ∧
            r.options.leaseTime = .ok (some s.config.leaseDurationSeconds) ∧
            r.answers m.xid m.chaddr (· == .offer) = true) ∨
          (m.kind = .ok (some .request) ∧
            ((r.kind = .ok (some .ack) ∧ hd.pool.Holds m.chaddr r.yiaddr ∧
                (∀ b, hd.pool.Holds m.chaddr b → b = r.yiaddr) ∧
                r.options.leaseTime = .ok (some s.config.leaseDurationSeconds)) ∨
              (r.kind = .ok (some .nak) ∧ r.yiaddr = .unspecified)) ∧
            r.answers m.xid m.chaddr MessageKind.answersRequest = true)) := by
  obtain ⟨m, r, hdec, hm, hr, rfl⟩ := handleDatagram_sent h
  have henc : r.Encodable := reply_encodable hdec hm hr
  refine ⟨by rw [Message.length_wire henc]; rfl, rfl, m, r, hdec, Message.decode_wire henc,
    ?_, ?_⟩
  · rcases reply_cases hm hr with ⟨a, l, rfl⟩ | ⟨a, l, rfl⟩ | rfl <;>
      exact Message.echoes_reply
  rcases handleMessage_replied hm hr with ⟨hk, hdiscover⟩ | ⟨hk, hrequest⟩
  · obtain ⟨-, req, a, hreq, hsel, rfl⟩ := discover_reply hdiscover hr
    exact .inl ⟨hk, Message.kind_offer, ⟨req, hreq, hsel⟩,
      hs.sound.isAvailable_selectOffer hs.valid hsel, Message.leaseTime_reply,
      (Message.answers_reply _).trans rfl⟩
  · refine .inr ⟨hk, ?_⟩
    rcases request_reply hs hrequest hr with ⟨a, rfl, hhold, honly⟩ | rfl
    · exact ⟨.inl ⟨Message.kind_ack, hhold, honly, Message.leaseTime_reply⟩,
        (Message.answers_reply _).trans rfl⟩
    · exact ⟨.inr ⟨Message.kind_nak, rfl⟩, (Message.answers_reply _).trans rfl⟩

open Server in
/-- A DISCOVER from a host without an address, to the one-address server, draws an OFFER
broadcast to the client port that the host's filter for offers takes. -/
theorem handover_discover_draws_offer :
    handoverServer.Invariant ∧
      ∃ hd out, handoverServer.handleDatagram 0
          (Message.discover (.ofMac 2 0 0 0 0 1) 7 576).wire (.v4 .unspecified 68) =
            .ok (hd, some out) ∧
        out.bytes.length = 576 ∧ out.destination = .v4 .broadcast 68 ∧
        ∃ r, Message.decode out.bytes = .ok r ∧
          r.answers 7 (.ofMac 2 0 0 0 0 1) (· == .offer) = true := by
  have hs : handoverServer.Invariant := invariant_of_create (create_eq_ok (by decide))
  have hdec := Message.decode_wire (Message.encodable_discover (.ofMac 2 0 0 0 0 1) 7 576)
  obtain ⟨offer, hoffer⟩ : ∃ o, o = (Message.discover (.ofMac 2 0 0 0 0 1) 7 576).offer
      handoverConfig.poolStart handoverConfig.serverIp handoverConfig.leaseDurationSeconds :=
    ⟨_, rfl⟩
  have hm : handoverServer.handleMessage 0 (Message.discover (.ofMac 2 0 0 0 0 1) 7 576) =
      .ok ⟨handoverServer.pool, some offer, some 0⟩ := by
    rw [hoffer]
    exact handleMessage_discover rfl rfl rfl
  have henc := Message.encode_eq_ok (reply_encodable hdec hm rfl)
  have h : handoverServer.handleDatagram 0 (Message.discover (.ofMac 2 0 0 0 0 1) 7 576).wire
      (.v4 .unspecified 68) =
        .ok (⟨handoverServer.pool, some offer, some 0⟩,
          some ⟨.v4 .broadcast 68, offer.wire⟩) := by
    simp only [handleDatagram, hdec, hm, henc, bind, Except.bind, pure, Except.pure]
    rfl
  obtain ⟨hlen, hdest, m, r, hdec', hr, -, hkind⟩ := replies_answer_their_requests hs h
  rw [hdec, Except.ok.injEq] at hdec'
  subst hdec'
  -- a DISCOVER is not a REQUEST, so the reply is the OFFER branch's
  rcases hkind with ⟨-, -, -, -, -, hanswers⟩ | ⟨hreq, -⟩
  · exact ⟨hs, _, _, h, hlen, rfl, r, hr, hanswers⟩
  · simp at hreq

end AddressLeasing
