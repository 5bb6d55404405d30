import AddressLeasing.Proofs.ServerReplies
/-!
# What changes the pool

A datagram changes the pool in two cases only, both for a request from a client with a
hardware address: a RELEASE, after which the pool is `release` of the sender's lease; and a
REQUEST that this server takes up (`Server.TakesRequest`) and whose commit succeeds, after
which the pool is the committed one. Every other datagram leaves the pool as it was: one that
does not decode, one whose option 50, 53 or 54 is malformed, a reply, one without a hardware
address, a DISCOVER, a REQUEST for another server or one refused with a NAK, and any other
kind.

Both directions are stated: each of the two cases does change the pool as said
(`step_pool_of_release`, `step_pool_of_takesRequest`), and nothing else changes it
(`step_pool_cases`). A failure never comes after a change, since the only failure past the
handling, writing the reply out, cannot happen (`handleDatagram_error`).

The accept loop passes over every failure, so what it leaves is the fold of these steps over
the queue it took, up to the first datagram whose offer wait outlasts the run
(`operateFrom_fold`).
-/

set_option autoImplicit false

namespace AddressLeasing

namespace Server

variable {s : Server} {now : Int} {m : Message} {hd : Handling}

/-! ## One message -/

/-- A REQUEST this server takes up for address `a`: from a client with a hardware address, not
a RELEASE, of kind REQUEST, naming this server or no server, and naming `a`. -/
structure TakesRequest (s : Server) (m : Message) (a : Ipv4) : Prop where
  op : m.op = .request
  chaddr : m.chaddr.isEmpty = false
  notRelease : m.isRelease = false
  kind : m.kind = .ok (some .request)
  server : ∃ sid, m.options.serverIdentifier = .ok sid ∧
    ∀ x, sid = some x → x = s.config.serverIp
  names : RequestsAddress m a

/-- A REQUEST that names another server is ignored; any other that is handled names this server
or none. -/
theorem request_silent_or_for_this_server (h : s.request now m = .ok hd) :
    hd = s.silent ∨
      ∃ sid, m.options.serverIdentifier = .ok sid ∧
        ∀ x, sid = some x → x = s.config.serverIp := by
  unfold request at h
  obtain ⟨sid, hsid, h⟩ := bind_eq_ok_iff.mp h
  cases sid with
  | none => exact .inr ⟨none, hsid, fun y hy => by cases hy⟩
  | some x =>
    by_cases hx : x = s.config.serverIp
    · exact .inr ⟨some x, hsid, fun y hy => by cases hy; exact hx⟩
    · -- another server's identifier: silence
      simp only [hx, bne_iff_ne, ne_eq, not_false_eq_true, if_true] at h
      rw [pure_eq_ok_iff] at h
      exact .inl h.symm

/-- **A grant, forward.** A REQUEST this server takes up, whose commit succeeds, is answered
with an ACK of the committed record, and the pool becomes the committed one. -/
theorem handleMessage_of_takesRequest {a : Ipv4} {p : LeasePool} {r : LeaseRecord}
    (ht : s.TakesRequest m a) (hc : s.pool.commit m.chaddr a now s.leaseMillis = .ok (p, r)) :
    s.handleMessage now m =
      .ok ⟨p, some (m.ack r.address s.config.serverIp s.config.leaseDurationSeconds),
        some 0⟩ := by
  obtain ⟨sid, hsid, hfor⟩ := ht.server
  obtain ⟨req, hreq, hnamed⟩ := ht.names
  have hrequest : s.request now m =
      .ok ⟨p, some (m.ack r.address s.config.serverIp s.config.leaseDurationSeconds),
        some 0⟩ := by
    unfold request
    cases sid with
    | none => simp [hsid, hreq, hnamed, hc, bind, Except.bind, pure, Except.pure]
    | some x =>
      have hx : x = s.config.serverIp := hfor x rfl
      simp [hsid, hreq, hnamed, hc, hx, bind, Except.bind, pure, Except.pure]
  simp [handleMessage, ht.op, ht.chaddr, ht.notRelease, ht.kind, hrequest, bind, Except.bind]

/-- **A step, backward.** Handling a message leaves the pool alone, or ends the lease of the
client whose RELEASE it is, or commits an address of a REQUEST this server takes up. -/
theorem handleMessage_pool (h : s.handleMessage now m = .ok hd) :
    hd.pool = s.pool ∨
      (m.isRelease = true ∧ m.chaddr.isEmpty = false ∧
        hd.pool = (s.pool.release m.chaddr now).1) ∨
      ∃ a r, s.TakesRequest m a ∧
        s.pool.commit m.chaddr a now s.leaseMillis = .ok (hd.pool, r) := by
  unfold handleMessage at h
  split at h
  · rw [pure_eq_ok_iff] at h
    exact .inl (h ▸ rfl)
  rename_i haddressed
  simp only [bne_iff_ne, ne_eq, Bool.or_eq_true, not_or, Bool.not_eq_true, not_not] at haddressed
  split at h
  · rw [pure_eq_ok_iff] at h
    subst h
    exact .inr (.inl ⟨‹_›, haddressed.2, rfl⟩)
  rename_i hnotRelease
  obtain ⟨k, hk, h⟩ := bind_eq_ok_iff.mp h
  split at h
  · exact .inl (discover_eq_ok h).1
  · rcases request_eq_ok h with ⟨hpool, -⟩ | ⟨a, r, hnamed, hcommit, hack⟩
    · exact .inl hpool
    -- an acknowledged REQUEST is not the silence another server's identifier draws
    rcases request_silent_or_for_this_server h with hsilent | hserver
    · rw [hsilent] at hack
      cases hack
    · exact .inr (.inr ⟨a, r, ⟨haddressed.1, haddressed.2, by simpa using hnotRelease, hk,
        hserver, hnamed⟩, hcommit⟩)
  · rw [pure_eq_ok_iff] at h
    exact .inl (h ▸ rfl)

/-! ## One datagram -/

variable {d : List UInt8} {source : Endpoint}

/-- The server fails on a datagram only where it cannot decode it, or where handling its
message fails, which builds no pool: the reply it builds always encodes. -/
theorem handleDatagram_error {e : Error} (h : s.handleDatagram now d source = .error e) :
    Message.decode d = .error e ∨
      ∃ m, Message.decode d = .ok m ∧ s.handleMessage now m = .error e := by
  cases hdec : Message.decode d with
  | error e' =>
    simp [handleDatagram, hdec, bind, Except.bind] at h
    exact .inl (congrArg Except.error h)
  | ok m =>
    cases hm : s.handleMessage now m with
    | error e' =>
      simp [handleDatagram, hdec, hm, bind, Except.bind] at h
      exact .inr ⟨m, rfl, hm.trans (congrArg Except.error h)⟩
    | ok hd =>
      -- past a handling, only writing the reply out could fail, and it does not
      exfalso
      cases hr : hd.reply with
      | none => simp [handleDatagram, hdec, hm, hr, bind, Except.bind, pure, Except.pure] at h
      | some r =>
        have henc := Message.encode_eq_ok (reply_encodable hdec hm hr)
        simp [handleDatagram, hdec, hm, hr, henc, bind, Except.bind, pure, Except.pure] at h

theorem step_pool_of_release (hdec : Message.decode d = .ok m) (hrel : m.isRelease = true)
    (hne : m.chaddr.isEmpty = false) :
    (s.step (.datagram now d source)).pool = (s.pool.release m.chaddr now).1 := by
  rw [step_of_releases ⟨now, d, source, m, rfl, hdec, hrel, rfl⟩, hne]
  rfl

theorem step_pool_of_takesRequest {a : Ipv4} {p : LeasePool} {r : LeaseRecord}
    (hdec : Message.decode d = .ok m) (ht : s.TakesRequest m a)
    (hc : s.pool.commit m.chaddr a now s.leaseMillis = .ok (p, r)) :
    (s.step (.datagram now d source)).pool = p := by
  have hm := handleMessage_of_takesRequest ht hc
  have hh : s.handling? (.datagram now d source) = some _ := handling?_datagram hdec hm
    (fun r hr => ⟨_, Message.encode_eq_ok (reply_encodable hdec hm hr)⟩)
  rw [step_of_handling? hh]

theorem step_pool_cases (s : Server) (now : Int) (d : List UInt8) (source : Endpoint) :
    (s.step (.datagram now d source)).pool = s.pool ∨
      (∃ m, Message.decode d = .ok m ∧ m.isRelease = true ∧ m.chaddr.isEmpty = false ∧
        (s.step (.datagram now d source)).pool = (s.pool.release m.chaddr now).1) ∨
      ∃ m a r, Message.decode d = .ok m ∧ s.TakesRequest m a ∧
        s.pool.commit m.chaddr a now s.leaseMillis =
          .ok ((s.step (.datagram now d source)).pool, r) := by
  rcases step_datagram s now d source with hsame | ⟨m, hd, hdec, hm, hstep⟩
  · exact .inl (by rw [hsame])
  rw [hstep]
  rcases handleMessage_pool hm with hpool | ⟨hrel, hne, hpool⟩ | ⟨a, r, ht, hc⟩
  · exact .inl hpool
  · exact .inr (.inl ⟨m, hdec, hrel, hne, hpool⟩)
  · exact .inr (.inr ⟨m, a, r, hdec, ht, hc⟩)

end Server

/-! ## The accept loop -/

/-- The event a queued datagram is, at wall-clock time `now`; a failed receive is none. -/
def Inbound.toEvent (now : Int) : Inbound → Option Server.Event
  | .datagram bytes source => some (.datagram now bytes source)
  | .failure => none

namespace Server

/-- The accept loop stops at a datagram only when the server fails on it with an error the
program stops on, or handles it and has to wait for a free address: for ever, or past the end
of the run. -/
def StopsAt (s : Server) (now : Int) : Inbound → Prop
  | .datagram bytes source =>
    (∃ e, s.handleDatagram now bytes source = .error e ∧ e.stops = true) ∨
      ∃ hd out, s.handleDatagram now bytes source = .ok (hd, out) ∧ hd.waited ≠ some 0
  | .failure => False

/-- **The accept loop is a fold of steps.** Over any queue, the loop ends with the server that
the steps of its first `k` items reach, where a failed receive is no step and a datagram the
server fails on is a step that changes nothing; it stops before the rest only at a datagram
whose handling waits or fails with an error the program stops on. -/
theorem operateFrom_fold (now : Int) (runMs : Nat) :
    ∀ (s : Server) (clock : Nat) (queue : List Inbound), clock ≤ runMs →
      ∃ k, (operateFrom now runMs s clock queue).1 =
          s.run ((queue.take k).filterMap (Inbound.toEvent now)) ∧
        ∀ i ∈ queue[k]?, (s.run ((queue.take k).filterMap (Inbound.toEvent now))).StopsAt now i
  | s, _, [], _ => ⟨0, rfl, by simp⟩
  | s, clock, .failure :: rest, hclock => by
    obtain ⟨k, hrun, hstop⟩ := operateFrom_fold now runMs s clock rest hclock
    exact ⟨k + 1, by simpa [operateFrom, List.filterMap_cons, Inbound.toEvent] using hrun,
      by simpa [List.filterMap_cons, Inbound.toEvent] using hstop⟩
  | s, clock, .datagram bytes source :: rest, hclock => by
    unfold operateFrom
    cases hdg : s.handleDatagram now bytes source with
    | error err =>
      simp only
      split
      · -- an error the program stops on ends the loop here
        rename_i hst
        refine ⟨0, rfl, fun i hi => ?_⟩
        obtain rfl : Inbound.datagram bytes source = i := by simpa using hi
        exact .inl ⟨err, hdg, hst⟩
      -- any other datagram the server fails on is a step that changes nothing
      have hstep : s.step (.datagram now bytes source) = s := by simp [step, handling?, hdg]
      obtain ⟨k, hrun, hstop⟩ := operateFrom_fold now runMs s clock rest hclock
      refine ⟨k + 1, ?_, ?_⟩
      · simpa [List.filterMap_cons, Inbound.toEvent, hstep] using hrun
      · simpa [List.filterMap_cons, Inbound.toEvent, hstep] using hstop
    | ok res =>
      obtain ⟨hd, out⟩ := res
      simp only
      split
      · -- an offer wait that never ends stops the loop here
        rename_i hw
        refine ⟨0, rfl, fun i hi => ?_⟩
        obtain rfl : Inbound.datagram bytes source = i := by simpa using hi
        exact .inr ⟨hd, out, hdg, by simp [hw]⟩
      · rename_i w hw
        split
        · -- so does one that ends after the run; it took time, as the clock had not run out
          rename_i hlate
          refine ⟨0, rfl, fun i hi => ?_⟩
          obtain rfl : Inbound.datagram bytes source = i := by simpa using hi
          exact .inr ⟨hd, out, hdg, by simp [hw]; omega⟩
        · rename_i hin
          have hstep : s.step (.datagram now bytes source) = { s with pool := hd.pool } := by
            simp [step, handling?, hdg]
          obtain ⟨k, hrun, hstop⟩ :=
            operateFrom_fold now runMs { s with pool := hd.pool } (clock + w) rest (by omega)
          refine ⟨k + 1, ?_, ?_⟩
          · simpa [List.filterMap_cons, Inbound.toEvent, hstep] using hrun
          · simpa [List.filterMap_cons, Inbound.toEvent, hstep] using hstop

end Server

open Server in
/-- **The pool changes only on grants and releases.** For every server, datagram and source: a
RELEASE from a client with a hardware address leaves exactly `release` of its lease; a REQUEST
the server takes up whose commit succeeds leaves exactly the committed pool; every other
datagram leaves the pool as it was; and a failure happens only in decoding or in handling,
never after a change. The accept loop ends with the fold of these steps over the queue it took,
stopping early only at a datagram whose offer wait outlasts the run. -/
theorem pool_changes_only_on_grant_or_release :
    (∀ (s : Server) (now : Int) (d : List UInt8) (source : Endpoint),
      (∀ m, Message.decode d = .ok m → m.isRelease = true → m.chaddr.isEmpty = false →
        (s.step (.datagram now d source)).pool = (s.pool.release m.chaddr now).1) ∧
      (∀ m a p r, Message.decode d = .ok m → s.TakesRequest m a →
        s.pool.commit m.chaddr a now s.leaseMillis = .ok (p, r) →
        (s.step (.datagram now d source)).pool = p) ∧
      ((s.step (.datagram now d source)).pool = s.pool ∨
        (∃ m, Message.decode d = .ok m ∧ m.isRelease = true ∧ m.chaddr.isEmpty = false ∧
          (s.step (.datagram now d source)).pool = (s.pool.release m.chaddr now).1) ∨
        ∃ m a r, Message.decode d = .ok m ∧ s.TakesRequest m a ∧
          s.pool.commit m.chaddr a now s.leaseMillis =
            .ok ((s.step (.datagram now d source)).pool, r)) ∧
      ∀ e, s.handleDatagram now d source = .error e →
        Message.decode d = .error e ∨
          ∃ m, Message.decode d = .ok m ∧ s.handleMessage now m = .error e) ∧
    ∀ (s : Server) (now : Int) (runMs : Nat) (queue : List Inbound),
      ∃ k, (s.operate now runMs queue).1 =
          s.run ((queue.take k).filterMap (Inbound.toEvent now)) ∧
        ∀ i ∈ queue[k]?,
          (s.run ((queue.take k).filterMap (Inbound.toEvent now))).StopsAt now i :=
  ⟨fun s now d source =>
    ⟨fun _ hdec hrel hne => step_pool_of_release hdec hrel hne,
      fun _ _ _ _ hdec ht hc => step_pool_of_takesRequest hdec ht hc,
      step_pool_cases s now d source,
      fun _ h => handleDatagram_error h⟩,
    fun s now runMs queue => operateFrom_fold now runMs s 0 queue (Nat.zero_le _)⟩

open Server in
/-- A RELEASE on the one-address server ends its sender's lease, as the first part says. -/
theorem pool_changes_release_witness :
    Message.decode (Message.release (.ofMac 2 0 0 0 0 1) 2 handoverConfig.poolStart).wire =
        .ok (Message.release (.ofMac 2 0 0 0 0 1) 2 handoverConfig.poolStart) ∧
      (Message.release (.ofMac 2 0 0 0 0 1) 2 handoverConfig.poolStart).isRelease = true ∧
      (Message.release (.ofMac 2 0 0 0 0 1) 2 handoverConfig.poolStart).chaddr.isEmpty =
        false ∧
      (handoverServer.step (.datagram 0
          (Message.release (.ofMac 2 0 0 0 0 1) 2 handoverConfig.poolStart).wire
          (.v4 .unspecified 68))).pool =
        (handoverServer.pool.release (.ofMac 2 0 0 0 0 1) 0).1 := by
  have hdec := Message.decode_wire (Message.encodable_release (.ofMac 2 0 0 0 0 1) 2
    handoverConfig.poolStart)
  have hrel : (Message.release (.ofMac 2 0 0 0 0 1) 2 handoverConfig.poolStart).isRelease =
      true := by
    rfl
  have hne : (Message.release (.ofMac 2 0 0 0 0 1) 2
      handoverConfig.poolStart).chaddr.isEmpty = false := by
    decide
  exact ⟨hdec, hrel, hne,
    (pool_changes_only_on_grant_or_release.1 handoverServer 0 _ (.v4 .unspecified 68)).1 _
      hdec hrel hne⟩

end AddressLeasing
