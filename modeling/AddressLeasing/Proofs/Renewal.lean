import AddressLeasing.Proofs.CommitEffect
/-!
# Renewing a lease

A client that holds an address asks for it again with a REQUEST that names it: in option 50,
or, with option 50 absent or zero, in `ciaddr`. The server answers such a request with an ACK
of that same address for the configured lease time, and never with a NAK. The commit's
ownership check lets the holder through, and its supersede step has nothing to free, since the
holder has no other lease. The lease then runs until the time of the request plus the lease
time, and no other record changes (`renewal_acknowledged`). This holds in every state a run of
the server reaches, also when the lease has run out and no sweep has freed it yet.

For the address to be named at all it must not be 0.0.0.0, which the server reads as no
address. No run ever leases 0.0.0.0 (`leased_address_named`): every lease was granted by an ACK
of an address that a REQUEST named (`Invariant.grants_named`).
-/

set_option autoImplicit false

namespace AddressLeasing

namespace LeasePool

variable {c : ServerConfig} {p : LeasePool} {owner : HardwareAddress} {a : Ipv4}

/-- A grant of `a` to the owner that holds it only moves the expiry of `a`'s record: the owner
has no other lease to give back. -/
theorem Sound.grant_holder (hs : Sound c p) (hc : c.Valid) {r : LeaseRecord} (hr : r ∈ p.records)
    (ha : r.address = a) (hl : r.isLeasedTo owner = true) (now expiry : Int) :
    (p.grant owner a now expiry).records =
      p.records.map fun x => if x.address = a then { x with expiresAt := expiry } else x := by
  rw [grant_records]
  refine List.map_congr_left fun x hx => ?_
  by_cases hxa : x.address = a
  · obtain rfl := hs.eq_of_address hc hx hr (hxa.trans ha.symm)
    have hheld : x.leased = true ∧ x.owner = owner := by simpa [LeaseRecord.isLeasedTo] using hl
    rw [grantRecord_of_address hxa, if_pos hxa, ← hheld.1, ← hheld.2]
  · -- a second lease of the owner would be the record of `a`
    have hxl : x.isLeasedTo owner = false := by
      cases hxl : x.isLeasedTo owner
      · rfl
      · exact absurd ((hs.eq_of_isLeasedTo hx hr hxl hl) ▸ ha) hxa
    rw [grantRecord_of_not_isLeasedTo hxa hxl, if_neg hxa]

end LeasePool

namespace Message

/-- A message whose option 53 reads as a kind other than RELEASE is not a RELEASE. -/
theorem isRelease_eq_false_of_kind {m : Message} {k : MessageKind} (hk : m.kind = .ok (some k))
    (hrel : k ≠ .release) : m.isRelease = false := by
  have hcontains : m.options.contains OptionCode.messageKind.toByte = true := by
    unfold kind OptionList.kind OptionList.typed at hk
    split at hk
    · rename_i o ho
      have hcode : o.code = OptionCode.messageKind.toByte := by
        simpa using List.find?_some ho
      exact (OptionList.contains_iff _ _).mpr ⟨o, List.mem_of_find?_eq_some ho, hcode⟩
    · cases hk
  cases k <;> simp_all [isRelease]

end Message

namespace Server

variable {s : Server}

/-- An address a REQUEST names is not 0.0.0.0. -/
theorem RequestsAddress.isUnspecified_eq_false {m : Message} {a : Ipv4}
    (h : RequestsAddress m a) : a.isUnspecified = false := by
  obtain ⟨req, -, hnamed⟩ := h
  -- whichever of option 50 and `ciaddr` names it passed `given`
  have hgiven {x : Option Ipv4} (hx : given x = some a) : a.isUnspecified = false := by
    cases x with
    | none => cases hx
    | some y =>
      simp only [given, Option.filter_some] at hx
      split at hx
      · rename_i hy
        cases hx
        simpa using hy
      · cases hx
  rcases Option.or_eq_some_iff.mp hnamed with h | ⟨-, h⟩
  · exact hgiven h
  · exact hgiven h

/-- Every address a step grants was named by a REQUEST, so it is not 0.0.0.0. -/
theorem Invariant.grants_named (hs : s.Invariant) {e : Event} {h : HardwareAddress} {a : Ipv4}
    (g : s.Grants e h a) : a.isUnspecified = false := by
  obtain ⟨hd, r, hh, hr, hk, -, rfl⟩ := g
  cases e with
  | sweep now => simp [handling?] at hh
  | datagram now bytes source =>
    obtain ⟨m, -, hm⟩ := handling?_eq_some hh
    rcases handleMessage_cases hm with ⟨-, hnot⟩ | ⟨-, -, -, hnone⟩ |
        ⟨a', r', hnamed, hcommit, hack⟩
    · exact absurd hk (hnot r hr)
    · rw [hnone] at hr
      cases hr
    · -- the ACK gives the committed address, which the REQUEST named
      rw [hack] at hr
      cases hr
      simp only [Message.ack, Message.yiaddr_reply]
      rw [hs.commit_address hcommit]
      exact hnamed.isUnspecified_eq_false

/-- **No run leases 0.0.0.0.** -/
theorem leased_address_named {c : ServerConfig} {s₀ : Server} (hcreate : create c = .ok s₀)
    (es : List Event) :
    ∀ r ∈ (s₀.run es).pool.records, r.leased = true → r.address.isUnspecified = false := by
  intro r hr hl
  obtain ⟨i, e, -, g, -⟩ := leaseHistory_run hcreate es r hr hl
  exact ((invariant_of_create hcreate).run (es.take i)).grants_named g

/-- A REQUEST from a client with a hardware address, naming this server or none, and naming the
non-zero address `a` in option 50 or, without a non-zero option 50, in `ciaddr`, is one this
server takes up for `a`. -/
theorem takesRequest_of_names {m : Message} {a : Ipv4} (hop : m.op = .request)
    (hne : m.chaddr.isEmpty = false) (hkind : m.kind = .ok (some .request))
    (hsid : m.options.serverIdentifier = .ok none ∨
      m.options.serverIdentifier = .ok (some s.config.serverIp))
    (hreq : m.options.requestedAddress = .ok (some a) ∨
      ((m.options.requestedAddress = .ok none ∨
        m.options.requestedAddress = .ok (some .unspecified)) ∧ m.ciaddr = a))
    (ha : a.isUnspecified = false) : s.TakesRequest m a where
  op := hop
  chaddr := hne
  notRelease := Message.isRelease_eq_false_of_kind hkind (by decide)
  kind := hkind
  server := by
    rcases hsid with h | h
    · exact ⟨none, h, fun _ hx => by cases hx⟩
    · exact ⟨_, h, fun _ hx => (Option.some.inj hx).symm⟩
  names := by
    rcases hreq with h | ⟨h | h, hci⟩
    · exact ⟨some a, h, by simp [given, ha]⟩
    · exact ⟨none, h, by simp [given, hci, ha]⟩
    · exact ⟨some .unspecified, h, by rw [given_unspecified]; simp [given, hci, ha]⟩

/-- **Renewal is idempotent.** In every state a run reaches from a server created on a valid
configuration, take an address leased to `h`, and a REQUEST from `h` that names this server or
no server and names the address, in option 50 or, with option 50 absent or zero, in `ciaddr`.
The server answers with an ACK, never a NAK, of that address, for the request's transaction and
the configured lease time. The lease then runs until the request's time plus the lease time,
and every other record is as it was. The lease may have run out without being swept. -/
theorem renewal_acknowledged {c : ServerConfig} {s₀ : Server} (hcreate : create c = .ok s₀)
    (es : List Event) {h : HardwareAddress} {a : Ipv4}
    (hheld : ∃ r ∈ (s₀.run es).pool.records, r.address = a ∧ r.isLeasedTo h = true)
    {m : Message} (hop : m.op = .request) (hch : m.chaddr = h)
    (hkind : m.kind = .ok (some .request))
    (hsid : m.options.serverIdentifier = .ok none ∨
      m.options.serverIdentifier = .ok (some c.serverIp))
    (hreq : m.options.requestedAddress = .ok (some a) ∨
      ((m.options.requestedAddress = .ok none ∨
        m.options.requestedAddress = .ok (some .unspecified)) ∧ m.ciaddr = a))
    (now : Int)
    (hcal : earliestInstant ≤ now + (c.leaseDurationSeconds.toNat : Int) * 1000 ∧
      now + (c.leaseDurationSeconds.toNat : Int) * 1000 ≤ latestInstant) :
    ∃ hd r, (s₀.run es).handleMessage now m = .ok hd ∧ hd.reply = some r ∧
      r.kind = .ok (some .ack) ∧ r.yiaddr = a ∧ r.xid = m.xid ∧
      r.options.leaseTime = .ok (some c.leaseDurationSeconds) ∧
      hd.pool.HoldsUntil h a (now + (c.leaseDurationSeconds.toNat : Int) * 1000) ∧
      hd.pool.records = (s₀.run es).pool.records.map fun x =>
        if x.address = a then
          { x with expiresAt := now + (c.leaseDurationSeconds.toNat : Int) * 1000 }
        else x := by
  have hs : (s₀.run es).Invariant := (invariant_of_create hcreate).run es
  have hconf : (s₀.run es).config = c := by rw [config_run, config_of_create hcreate]
  have hmillis : (s₀.run es).leaseMillis = (c.leaseDurationSeconds.toNat : Int) * 1000 := by
    rw [leaseMillis, hconf]
  obtain ⟨r, hr, ha, hl⟩ := hheld
  subst hch
  have hleased : r.leased = true ∧ r.owner = m.chaddr := by
    simpa [LeaseRecord.isLeasedTo] using hl
  -- the holder has a hardware address, and the address it holds is not 0.0.0.0
  have hne : m.chaddr.isEmpty = false := hleased.2 ▸ hs.sound.owned r hr hleased.1
  have hzero : a.isUnspecified = false := ha ▸ leased_address_named hcreate es r hr hleased.1
  have htakes : (s₀.run es).TakesRequest m a :=
    takesRequest_of_names hop hne hkind (hconf ▸ hsid) hreq hzero
  -- the ownership check lets the holder through
  have hfound : (s₀.run es).pool.recordFor? a = some r :=
    ha ▸ hs.sound.recordFor?_of_mem hs.valid hr
  have hcommit := LeasePool.commit_of_recordFor? hne hfound (fun _ => hleased.2)
    (hmillis ▸ hcal)
  refine ⟨_, _, handleMessage_of_takesRequest htakes hcommit, rfl, Message.kind_ack, ?_, rfl,
    ?_, ?_, ?_⟩
  · simp [Message.ack, ha]
  · simp [Message.ack, Message.leaseTime_reply, config_of_create hcreate]
  · exact hmillis ▸ hs.sound.holdsUntil_commit hcommit
  · rw [← hmillis]
    exact hs.sound.grant_holder hs.valid hr ha hl now _

/-- The first client of the handover renews its address a second after it was granted. -/
def handoverRenewal : Message :=
  .request (.ofMac 2 0 0 0 0 1) 7 handoverConfig.poolStart handoverConfig.serverIp
    handoverConfig.poolStart

theorem renewal_acknowledged_handover :
    ∃ hd r, (handoverServer.run (handoverEvents.take 1)).handleMessage 1000 handoverRenewal =
        .ok hd ∧ hd.reply = some r ∧ r.kind = .ok (some .ack) ∧
      r.yiaddr = handoverConfig.poolStart := by
  have hcreate : create handoverConfig = .ok handoverServer := create_eq_ok (by decide)
  have hreq := Message.decode_wire (Message.encodable_request (.ofMac 2 0 0 0 0 1) 1
    handoverConfig.poolStart handoverConfig.serverIp .unspecified)
  -- the first event grants the address to the first client
  have hgrant : handoverServer.handling? handoverEvents[0] = some
      ⟨⟨[⟨handoverConfig.poolStart, true, .ofMac 2 0 0 0 0 1, 3600000⟩]⟩,
        some ((Message.request (.ofMac 2 0 0 0 0 1) 1 handoverConfig.poolStart
          handoverConfig.serverIp .unspecified).ack handoverConfig.poolStart
          handoverConfig.serverIp 3600), some 0⟩ :=
    handling?_datagram hreq (by rfl) fun r hr => by
      cases hr
      exact ⟨_, Message.encode_eq_ok (Message.encodable_reply (by decide) _ _ _ _)⟩
  have hrun : handoverServer.run (handoverEvents.take 1) =
      { handoverServer with pool := ⟨[⟨handoverConfig.poolStart, true, .ofMac 2 0 0 0 0 1,
        3600000⟩]⟩ } := by
    simp only [run]
    exact step_of_handling? hgrant
  obtain ⟨hd, r, hh, hr, hk, hy, -⟩ := renewal_acknowledged hcreate (handoverEvents.take 1)
    (h := .ofMac 2 0 0 0 0 1) (a := handoverConfig.poolStart) (by rw [hrun]; simp [LeaseRecord.isLeasedTo])
    rfl rfl (Message.kind_request _ _ _) (.inr (Message.serverIdentifier_request _ _ _))
    (.inl (Message.requestedAddress_request _ _ _ _ _)) 1000 (by decide)
  exact ⟨hd, r, hh, hr, hk, hy⟩

end Server

end AddressLeasing
