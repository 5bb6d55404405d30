import AddressLeasing.Proofs.MessageCodec
import AddressLeasing.Proofs.LeaseHistory
/-!
# What the server sends back

The server answers a datagram with at most one datagram: the wire form of its reply to the
message the datagram decodes to (`mem_answer`). Every reply is an OFFER, an ACK or a NAK built
from the request, so it carries the request's transaction id and hardware address back
(`answer_echo`), and an ACK comes only from a commit of the address the request names to the
requester (`acks_answer`).

For a client on a network this gives three facts about a datagram it sends, stated of the
bytes alone and for every server state, so that they travel with the datagram however long it
is in flight:

* `Keeps owner a bytes`: serving the bytes never takes `a` from `owner`. A datagram of another
  client keeps every hold (`keeps_of_chaddr_ne`), and so does a REQUEST of `owner` for `a`
  (`keeps_request`).
* `AcksOnly owner xid a bytes`: every ACK the bytes draw for transaction `xid` of `owner`
  grants `a`, which `owner` then holds (`acksOnly_request`).
* `NoAck owner xid bytes`: the bytes draw no such ACK: a DISCOVER (`noAck_discover`), or a
  message of another transaction (`noAck_of_xid_ne`).
-/

set_option autoImplicit false

namespace AddressLeasing

namespace LeasePool

/-- `p` holds `a` for `owner`, until some expiry. -/
def Holds (p : LeasePool) (owner : HardwareAddress) (a : Ipv4) : Prop :=
  ∃ x, p.HoldsUntil owner a x

/-- No two clients hold one address. -/
theorem Sound.eq_of_holds {c : ServerConfig} {p : LeasePool} (hs : p.Sound c) (hc : c.Valid)
    {h h' : HardwareAddress} {a : Ipv4} (hold : p.Holds h a) (hold' : p.Holds h' a) : h = h' := by
  obtain ⟨-, r, hr, ha, hl, -⟩ := hold
  obtain ⟨-, r', hr', ha', hl', -⟩ := hold'
  obtain rfl := hs.eq_of_address hc hr hr' (ha.trans ha'.symm)
  simp only [LeaseRecord.isLeasedTo, Bool.and_eq_true, beq_iff_eq] at hl hl'
  exact hl.2.symm.trans hl'.2

end LeasePool

@[simp] theorem Ipv4.ofBytes_octets (ip : Ipv4) : Ipv4.ofBytes ip.octets = ip := by
  simpa using Ipv4.ofBytes_octets_append ip []

/-! ## The client's messages, as the server reads them -/

namespace Message

variable (chaddr : HardwareAddress) (xid : UInt32)

theorem options_discover (maxSize : UInt16) :
    (discover chaddr xid maxSize).options = ⟨[.ofKind .discover, .requestedAddress .unspecified,
      .maximumMessageSize maxSize, .endMarker]⟩ :=
  OptionList.ofList_of_nodup (by simp)

theorem options_request (requested server ciaddr : Ipv4) :
    (request chaddr xid requested server ciaddr).options =
      ⟨[.ofKind .request, .requestedAddress requested, .serverIdentifier server, .endMarker]⟩ :=
  OptionList.ofList_of_nodup (by simp)

@[simp] theorem requestedAddress_discover (maxSize : UInt16) :
    (discover chaddr xid maxSize).options.requestedAddress = .ok (some .unspecified) := by
  simp [options_discover, OptionList.requestedAddress, OptionList.typed, OptionList.get?,
    LeaseOption.asAddress, LeaseOption.requestedAddress, LeaseOption.ofKind, OptionCode.toByte,
    Except.map]

@[simp] theorem requestedAddress_request (requested server ciaddr : Ipv4) :
    (request chaddr xid requested server ciaddr).options.requestedAddress =
      .ok (some requested) := by
  simp [options_request, OptionList.requestedAddress, OptionList.typed, OptionList.get?,
    LeaseOption.asAddress, LeaseOption.requestedAddress, LeaseOption.ofKind, OptionCode.toByte,
    Except.map]

@[simp] theorem isRelease_request (requested server ciaddr : Ipv4) :
    (request chaddr xid requested server ciaddr).isRelease = false := by
  simp [isRelease, kind, options_request, OptionList.contains, OptionList.kind, OptionList.typed,
    OptionList.get?, LeaseOption.ofKind, LeaseOption.asKind, OptionCode.toByte, Except.map]

@[simp] theorem isRelease_discover (maxSize : UInt16) :
    (discover chaddr xid maxSize).isRelease = false := by
  simp [isRelease, kind, options_discover, OptionList.contains, OptionList.kind, OptionList.typed,
    OptionList.get?, LeaseOption.ofKind, LeaseOption.asKind, OptionCode.toByte, Except.map]

@[simp] theorem kind_discover (maxSize : UInt16) :
    (discover chaddr xid maxSize).kind = .ok (some .discover) := by
  simp [kind, options_discover, OptionList.kind, OptionList.typed, OptionList.get?,
    LeaseOption.ofKind, LeaseOption.asKind, OptionCode.toByte, Except.map]

end Message

/-- An address found at the first look is offered at once. -/
theorem OfferWait.run_found_zero {lookup : Nat → Option Ipv4} {a : Ipv4} (h : lookup 0 = some a)
    (budget retry : Nat) : OfferWait.run lookup budget retry = .found a 0 := by
  unfold OfferWait.run
  split
  · simp [h]
  · rw [List.range_succ_eq_map]
    simp [h]

namespace Server

open Message (Covered)

variable {s : Server} {now : Int} {m : Message} {hd : Handling} {bytes : List UInt8}
  {source : Endpoint}

theorem given_eq_some {x a : Ipv4} (h : given (some x) = some a) : a = x := by
  simp only [given, Option.filter_some] at h
  split at h
  · exact (Option.some.inj h).symm
  · cases h

@[simp] theorem given_unspecified : given (some Ipv4.unspecified) = none := by
  simp [given, Ipv4.isUnspecified, Ipv4.unspecified]

/-- The address a DISCOVER names is none: its option 50 and `ciaddr` are both zero. -/
theorem not_requestsAddress_discover (chaddr : HardwareAddress) (xid : UInt32) (maxSize : UInt16)
    (a : Ipv4) : ¬ RequestsAddress (Message.discover chaddr xid maxSize) a := by
  rintro ⟨req, hreq, hnamed⟩
  simp only [Message.requestedAddress_discover, Except.ok.injEq] at hreq
  subst hreq
  simp [Message.discover, Message.fromClient] at hnamed

/-- **A DISCOVER answered at once:** from a client without an active lease, for which the pool
has an address to offer, it draws an OFFER of that address and leaves the pool alone. -/
theorem handleMessage_discover {chaddr : HardwareAddress} {xid : UInt32} {maxSize : UInt16}
    {a : Ipv4} (hne : chaddr.isEmpty = false) (hactive : s.pool.activeLeaseFor? chaddr = none)
    (hsel : s.pool.selectOffer chaddr none = some a) :
    s.handleMessage now (Message.discover chaddr xid maxSize) =
      .ok ⟨s.pool, some ((Message.discover chaddr xid maxSize).offer a s.config.serverIp
        s.config.leaseDurationSeconds), some 0⟩ := by
  have hwait : s.offerAddress chaddr none = .found a 0 := OfferWait.run_found_zero hsel _ _
  have hop : (Message.discover chaddr xid maxSize).op = .request := rfl
  have hch : (Message.discover chaddr xid maxSize).chaddr = chaddr := rfl
  simp [handleMessage, discover, hop, hch, hne, hactive, hwait]
  rfl

/-- A REQUEST for `requested` names it, when its `ciaddr` is zero or that same address. -/
theorem requestsAddress_request {chaddr : HardwareAddress} {xid : UInt32}
    {requested server ciaddr a : Ipv4} (hci : ciaddr = .unspecified ∨ ciaddr = requested)
    (h : RequestsAddress (Message.request chaddr xid requested server ciaddr) a) :
    a = requested := by
  obtain ⟨req, hreq, hnamed⟩ := h
  simp only [Message.requestedAddress_request, Except.ok.injEq] at hreq
  subst hreq
  -- option 50 names it, or else `ciaddr` does
  rcases Option.or_eq_some_iff.mp hnamed with hopt | ⟨-, hci'⟩
  · exact given_eq_some hopt
  · rcases hci with rfl | rfl
    · simp [Message.request, Message.fromClient] at hci'
    · exact given_eq_some hci'

/-! ## Answers -/

/-- The datagrams the server sends in answer to one it takes. -/
def answer (s : Server) (now : Int) (bytes : List UInt8) (source : Endpoint) :
    List (List UInt8) :=
  match s.handleDatagram now bytes source with
  | .ok (_, some out) => [out.bytes]
  | _ => []

/-- Every reply is an OFFER, an ACK or a NAK to the message it answers. -/
theorem reply_cases (h : s.handleMessage now m = .ok hd) {r : Message} (hr : hd.reply = some r) :
    (∃ a l, r = m.offer a s.config.serverIp l) ∨ (∃ a l, r = m.ack a s.config.serverIp l) ∨
      r = m.nak s.config.serverIp := by
  unfold handleMessage at h
  split at h
  · rw [pure_eq_ok_iff] at h
    subst h
    cases hr
  split at h
  · rw [pure_eq_ok_iff] at h
    subst h
    cases hr
  obtain ⟨k, -, h⟩ := bind_eq_ok_iff.mp h
  split at h
  · rcases (discover_eq_ok h).2 with hn | ⟨a, ho⟩
    · rw [hn] at hr
      cases hr
    · rw [ho] at hr
      cases hr
      exact .inl ⟨a, _, rfl⟩
  · rcases request_eq_ok h with ⟨-, hn | hn⟩ | ⟨a, rec, -, -, ha⟩
    · rw [hn] at hr
      cases hr
    · rw [hn] at hr
      cases hr
      exact .inr (.inr rfl)
    · rw [ha] at hr
      cases hr
      exact .inr (.inl ⟨_, _, rfl⟩)
  · rw [pure_eq_ok_iff] at h
    subst h
    cases hr

theorem handleDatagram_eq_ok_some {out : Outbound}
    (h : s.handleDatagram now bytes source = .ok (hd, some out)) :
    ∃ m r, Message.decode bytes = .ok m ∧ s.handleMessage now m = .ok hd ∧
      hd.reply = some r ∧ r.encode = .ok out.bytes := by
  unfold handleDatagram at h
  obtain ⟨m, hm, h⟩ := bind_eq_ok_iff.mp h
  obtain ⟨hd', hh, h⟩ := bind_eq_ok_iff.mp h
  split at h
  · rw [pure_eq_ok_iff] at h
    cases h
  · rename_i r hr
    obtain ⟨b, hb, h⟩ := bind_eq_ok_iff.mp h
    rw [pure_eq_ok_iff] at h
    cases h
    exact ⟨m, r, hm, hh, hr, hb⟩

theorem handling?_eq_some (h : s.handling? (.datagram now bytes source) = some hd) :
    ∃ m, Message.decode bytes = .ok m ∧ s.handleMessage now m = .ok hd := by
  simp only [handling?] at h
  split at h
  · cases h
    exact handleDatagram_eq_ok ‹_›
  · cases h

/-- A datagram changes the server only through the handling of the message it decodes to. -/
theorem step_datagram (s : Server) (now : Int) (bytes : List UInt8) (source : Endpoint) :
    s.step (.datagram now bytes source) = s ∨
      ∃ m hd, Message.decode bytes = .ok m ∧ s.handleMessage now m = .ok hd ∧
        s.step (.datagram now bytes source) = { s with pool := hd.pool } := by
  cases h : s.handling? (.datagram now bytes source) with
  | none => exact .inl (by simp [step, h])
  | some hd =>
    obtain ⟨m, hdec, hm⟩ := handling?_eq_some h
    exact .inr ⟨m, hd, hdec, hm, step_of_handling? h⟩

/-- A reply to a message that arrived as bytes can be written out. -/
theorem reply_encodable (hdec : Message.decode bytes = .ok m) (h : s.handleMessage now m = .ok hd)
    {r : Message} (hr : hd.reply = some r) : r.Encodable := by
  have hreq : Message.Built m ∨ ∃ b, Message.decode b = .ok m := .inr ⟨bytes, hdec⟩
  have hcov : Covered r := by
    rcases reply_cases h hr with ⟨a, l, rfl⟩ | ⟨a, l, rfl⟩ | rfl
    · exact .offer a _ l hreq
    · exact .ack a _ l hreq
    · exact .nak _ hreq
  exact hcov.encodable

/-- The answer to a datagram that the server handles is the handling's reply, written out. -/
theorem answer_eq (hdec : Message.decode bytes = .ok m) (h : s.handleMessage now m = .ok hd) :
    s.answer now bytes source = hd.reply.toList.map Message.wire := by
  unfold answer handleDatagram
  cases hr : hd.reply with
  | none => simp [hdec, h, hr, bind, Except.bind, pure, Except.pure]
  | some r =>
    simp [hdec, h, hr, Message.encode_eq_ok (reply_encodable hdec h hr), bind, Except.bind, pure,
      Except.pure]

/-- **What an answer is.** The server answers a datagram only when it decodes to a message
that has a reply; the answer reads back as that reply, and the server moves to the handling's
pool. -/
theorem mem_answer {d : List UInt8} (hd' : d ∈ s.answer now bytes source) :
    ∃ m hd r, Message.decode bytes = .ok m ∧ s.handleMessage now m = .ok hd ∧
      hd.reply = some r ∧ Message.decode d = .ok r ∧
      s.step (.datagram now bytes source) = { s with pool := hd.pool } := by
  unfold answer at hd'
  split at hd'
  · rename_i hd out hdg
    obtain ⟨m, r, hdec, h, hr, henc⟩ := handleDatagram_eq_ok_some hdg
    have hr' := reply_encodable hdec h hr
    rw [Message.encode_eq_ok hr', Except.ok.injEq] at henc
    rw [List.mem_singleton.mp hd', ← henc]
    exact ⟨m, hd, r, hdec, h, hr, Message.decode_wire hr',
      step_of_handling? (by simp [handling?, hdg])⟩
  · simp at hd'

/-- **An answer goes back to its request's transaction:** it decodes to a reply that carries
the transaction id and the hardware address of the message it answers. -/
theorem answer_echo {d : List UInt8} (hd' : d ∈ s.answer now bytes source) {r : Message}
    (hr : Message.decode d = .ok r) :
    ∃ m, Message.decode bytes = .ok m ∧ r.op = .reply ∧ r.xid = m.xid ∧
      r.chaddr = m.chaddr := by
  obtain ⟨m, hd, r', hdec, h, hreply, hr', -⟩ := mem_answer hd'
  rw [hr, Except.ok.injEq] at hr'
  subst hr'
  refine ⟨m, hdec, ?_⟩
  rcases reply_cases h hreply with ⟨a, l, rfl⟩ | ⟨a, l, rfl⟩ | rfl <;>
    exact ⟨rfl, rfl, rfl⟩

/-! ## Acknowledgements -/

/-- `d` reads as an ACK for transaction `xid` of `owner` that grants `a`. -/
def Acks (d : List UInt8) (owner : HardwareAddress) (xid : UInt32) (a : Ipv4) : Prop :=
  ∃ r, Message.decode d = .ok r ∧ r.xid = xid ∧ r.chaddr = owner ∧
    r.kind = .ok (some .ack) ∧ r.yiaddr = a

/-- **An ACK comes only from a commit** of the address the request names, to the requester,
who then holds it. -/
theorem acks_answer (hs : s.Invariant) {d : List UInt8} (hd' : d ∈ s.answer now bytes source)
    {owner : HardwareAddress} {xid : UInt32} {a : Ipv4} (hack : Acks d owner xid a) :
    ∃ m, Message.decode bytes = .ok m ∧ m.xid = xid ∧ m.chaddr = owner ∧
      RequestsAddress m a ∧
      (s.step (.datagram now bytes source)).pool.Holds owner a := by
  obtain ⟨m, hd, r, hdec, h, hreply, hr, hstep⟩ := mem_answer hd'
  obtain ⟨r', hr', hxid, hch, hkind, hy⟩ := hack
  rw [hr, Except.ok.injEq] at hr'
  subst hr'
  rcases handleMessage_cases h with ⟨-, hnot⟩ | ⟨-, -, -, hnone⟩ |
      ⟨a', rec, hnamed, hcommit, hacked⟩
  · exact absurd hkind (hnot r hreply)
  · rw [hnone] at hreply
    cases hreply
  · rw [hacked] at hreply
    cases hreply
    -- the ACK gives the committed record's address, which is the one the request names
    have ha' : rec.address = a' := hs.commit_address hcommit
    subst hy hch ha' hxid
    rw [hstep]
    exact ⟨m, hdec, rfl, rfl, hnamed, _, hs.sound.holdsUntil_commit hcommit⟩

/-- Serving `bytes`, in any server state, never takes `a` from `owner`. -/
def Keeps (owner : HardwareAddress) (a : Ipv4) (bytes : List UInt8) : Prop :=
  ∀ s : Server, s.Invariant → ∀ now source, s.pool.Holds owner a →
    (s.step (.datagram now bytes source)).pool.Holds owner a

/-- Every ACK for transaction `xid` of `owner` that `bytes` draw, in any server state, grants
`a`, and `owner` holds `a` after it. -/
def AcksOnly (owner : HardwareAddress) (xid : UInt32) (a : Ipv4) (bytes : List UInt8) : Prop :=
  ∀ s : Server, s.Invariant → ∀ now source, ∀ d ∈ s.answer now bytes source, ∀ b,
    Acks d owner xid b → b = a ∧ (s.step (.datagram now bytes source)).pool.Holds owner a

/-- `bytes` draw no ACK for transaction `xid` of `owner`, in any server state. -/
def NoAck (owner : HardwareAddress) (xid : UInt32) (bytes : List UInt8) : Prop :=
  ∀ s : Server, s.Invariant → ∀ now source, ∀ d ∈ s.answer now bytes source, ∀ b,
    ¬ Acks d owner xid b

variable {owner : HardwareAddress} {xid : UInt32} {a : Ipv4}

theorem NoAck.acksOnly (h : NoAck owner xid bytes) (a : Ipv4) : AcksOnly owner xid a bytes :=
  fun s hs now source d hd b hack => absurd hack (h s hs now source d hd b)

/-- A datagram of another client keeps every hold of `owner`. -/
theorem keeps_of_chaddr_ne (hne : ∀ m, Message.decode bytes = .ok m → m.chaddr ≠ owner) :
    Keeps owner a bytes := by
  intro s hs now source ⟨x, hold⟩
  refine ⟨x, ?_⟩
  by_contra lost
  -- of the three ways to lose a hold, the first two need a message from `owner`
  rcases hs.step_lost hold lost with ⟨now', bytes', source', m, he, hdec, -, hch⟩ | ⟨b, g⟩ |
      ⟨t, he, -⟩
  · cases he
    exact hne m hdec hch
  · obtain ⟨hd, r, hh, hr, -, hch, -⟩ := g
    obtain ⟨m, hdec, h⟩ := handling?_eq_some hh
    refine hne m hdec ?_
    rw [← hch]
    rcases reply_cases h hr with ⟨a, l, rfl⟩ | ⟨a, l, rfl⟩ | rfl <;> rfl
  · cases he

/-- A message of another transaction draws no ACK for this one. -/
theorem noAck_of_xid_ne (hne : ∀ m, Message.decode bytes = .ok m → m.xid ≠ xid) :
    NoAck owner xid bytes := by
  intro s hs now source d hd b hack
  obtain ⟨m, hdec, hxid, -⟩ := acks_answer hs hd hack
  exact hne m hdec hxid

/-- A DISCOVER names no address, so it draws no ACK. -/
theorem noAck_discover (chaddr : HardwareAddress) (x : UInt32) (maxSize : UInt16) :
    NoAck owner xid (Message.discover chaddr x maxSize).wire := by
  intro s hs now source d hd b hack
  obtain ⟨m, hdec, -, -, hnamed, -⟩ := acks_answer hs hd hack
  rw [Message.decode_wire (Message.encodable_discover _ _ _), Except.ok.injEq] at hdec
  subst hdec
  exact not_requestsAddress_discover chaddr x maxSize b hnamed

section Request

variable {x : UInt32} {requested server ciaddr : Ipv4}

/-- **A REQUEST is acknowledged only with what it asks for**, when its `ciaddr` is zero or the
requested address. -/
theorem acksOnly_request (hci : ciaddr = .unspecified ∨ ciaddr = requested) :
    AcksOnly owner xid requested (Message.request owner x requested server ciaddr).wire := by
  intro s hs now source d hd b hack
  obtain ⟨m, hdec, -, -, hnamed, hold⟩ := acks_answer hs hd hack
  rw [Message.decode_wire (Message.encodable_request _ _ _ _ _), Except.ok.injEq] at hdec
  subst hdec
  obtain rfl := requestsAddress_request hci hnamed
  exact ⟨rfl, hold⟩

/-- **A REQUEST of `owner` for an address it holds keeps it**, when its `ciaddr` is zero or
that address: the server either leaves the pool alone or commits the address to `owner` again. -/
theorem keeps_request (hci : ciaddr = .unspecified ∨ ciaddr = requested) :
    Keeps owner requested (Message.request owner x requested server ciaddr).wire := by
  intro s hs now source hold
  rcases step_datagram s now _ source with hsame | ⟨m, hd, hdec, h, hstep⟩
  · rwa [hsame]
  rw [Message.decode_wire (Message.encodable_request _ _ _ _ _), Except.ok.injEq] at hdec
  subst hdec
  rw [hstep]
  rcases handleMessage_cases h with ⟨hpool, -⟩ | ⟨hrel, -⟩ |
    ⟨a', rec, hnamed, hcommit, -⟩
  · rwa [hpool]
  · simp at hrel
  · obtain rfl := requestsAddress_request hci hnamed
    exact ⟨_, hs.sound.holdsUntil_commit hcommit⟩

end Request

end Server

end AddressLeasing
