import AddressLeasing.Client.Session
/-!
# How each client operation ends

Equations for the client's operations, one for each way a step can end, so that later proofs
follow a run without unfolding the recursions:

* a wait ends at a deadline, at a link failure, or at a datagram it takes, and it goes on past
  a datagram it drops (`awaitReply_deadline`, `awaitReply_failure`, `awaitReply_datagram`);
* binding to a reply either takes the lease the ACK gives, or fails, dropping the lease only
  on a NAK (`bindReply_eq_ok`, `bindReply_error_client`, `bindReply_eq_error`);
* an acquisition attempt leaves the client bound to the lease it returns, or without a lease
  (`tryAcquire_client`), and acquisition goes on to the next attempt exactly when one fails
  (`acquireWithin_ok`, `acquireWithin_bound`, `acquireWithin_zero_error`,
  `acquireWithin_succ_error`).
-/

set_option autoImplicit false

namespace AddressLeasing

variable {σ : Type}

namespace Link

section Equations

variable {link : Link σ} {xid : UInt32} {hw : HardwareAddress} {accept : MessageKind → Bool}
  {s s' : σ}

-- `awaitReply` recurses through a `match` on the reception it names; each equation below
-- splits that match once and rules out the two receptions it is not about.

theorem awaitReply_deadline (h : link.receive s = (.deadline, s')) :
    link.awaitReply xid hw accept s = (.ok none, s') := by
  rw [Link.awaitReply]
  split
  · simp [h]
  all_goals
    rename_i harr
    simp [h] at harr

theorem awaitReply_failure {e : Error} (h : link.receive s = (.failure e, s')) :
    link.awaitReply xid hw accept s = (.error e, s') := by
  rw [Link.awaitReply]
  split
  · rename_i harr
    simp [h] at harr
  · rename_i harr
    simp only [h, Reception.failure.injEq] at harr
    simp [h, harr]
  · rename_i harr
    simp [h] at harr

/-- A datagram the wait takes ends it. -/
theorem awaitReply_taken {b : List UInt8} {source : Endpoint} {r : Message}
    (h : link.receive s = (.datagram b source, s')) (hdec : Message.decode b = .ok r)
    (hans : r.answers xid hw accept = true) :
    link.awaitReply xid hw accept s = (.ok (some r), s') := by
  rw [Link.awaitReply]
  split
  · rename_i harr
    simp [h] at harr
  · rename_i harr
    simp [h] at harr
  · rename_i harr
    simp only [h, Reception.datagram.injEq] at harr
    obtain ⟨rfl, rfl⟩ := harr
    simp [h, hdec, hans]

/-- A datagram the wait drops leaves it waiting. -/
theorem awaitReply_dropped {b : List UInt8} {source : Endpoint}
    (h : link.receive s = (.datagram b source, s'))
    (hdrop : ∀ r, Message.decode b = .ok r → r.answers xid hw accept = false) :
    link.awaitReply xid hw accept s = link.awaitReply xid hw accept s' := by
  rw [Link.awaitReply]
  split
  · rename_i harr
    simp [h] at harr
  · rename_i harr
    simp [h] at harr
  · rename_i harr
    simp only [h, Reception.datagram.injEq] at harr
    obtain ⟨rfl, rfl⟩ := harr
    cases hdec : Message.decode b with
    | ok r => simp [h, hdrop r hdec]
    | error e => simp [h]

/-- A datagram either ends the wait with the reply it decodes to, or is dropped. -/
theorem awaitReply_datagram {b : List UInt8} {source : Endpoint}
    (h : link.receive s = (.datagram b source, s')) :
    (∃ r, Message.decode b = .ok r ∧ r.answers xid hw accept = true ∧
      link.awaitReply xid hw accept s = (.ok (some r), s')) ∨
    ((∀ r, Message.decode b = .ok r → r.answers xid hw accept = false) ∧
      link.awaitReply xid hw accept s = link.awaitReply xid hw accept s') := by
  by_cases htaken : ∃ r, Message.decode b = .ok r ∧ r.answers xid hw accept = true
  · obtain ⟨r, hdec, hans⟩ := htaken
    exact .inl ⟨r, hdec, hans, awaitReply_taken h hdec hans⟩
  · have hdrop : ∀ r, Message.decode b = .ok r → r.answers xid hw accept = false := by
      intro r hdec
      simpa using fun hans => htaken ⟨r, hdec, hans⟩
    exact .inr ⟨hdrop, awaitReply_dropped h hdrop⟩

/-- A delivered datagram leaves the link holding fewer: what a wait's recursion descends on. -/
theorem pending_lt_of_receive {b : List UInt8} {source : Endpoint}
    (h : link.receive s = (.datagram b source, s')) : link.pending s' < link.pending s := by
  have hlt := link.pending_receive s b source (by rw [h])
  rwa [h] at hlt

end Equations

end Link

/-- A reply answers a transaction when it is a server's reply, echoes the transaction id and
the hardware address, and has a kind that the waiter takes. -/
theorem Message.answers_eq_true {r : Message} {xid : UInt32} {hw : HardwareAddress}
    {accept : MessageKind → Bool} :
    r.answers xid hw accept = true ↔
      r.op = .reply ∧ r.xid = xid ∧ r.chaddr = hw ∧
        ∃ k, r.kind = .ok (some k) ∧ accept k = true := by
  unfold Message.answers
  split <;> simp_all [and_assoc]

theorem MessageKind.answersRequest_eq_true {k : MessageKind} :
    k.answersRequest = true ↔ k = .ack ∨ k = .nak := by
  cases k <;> decide

namespace OptionList

variable {l : OptionList}

theorem leaseTime_of_require {w : UInt32}
    (h : (l.require OptionCode.leaseTime.toByte >>= LeaseOption.asWord32) = .ok w) :
    l.leaseTime = .ok (some w) := by
  unfold require at h
  unfold leaseTime typed
  cases hget : l.get? OptionCode.leaseTime.toByte with
  | none => simp [hget] at h; cases h
  | some o =>
    rw [hget] at h
    have ho : o.asWord32 = .ok w := h
    simp [ho, Except.map]

/-- Reading the lease time fails because it is missing or not four bytes, never with a NAK. -/
theorem require_leaseTime_ne_nak {e : Error}
    (h : (l.require OptionCode.leaseTime.toByte >>= LeaseOption.asWord32) = .error e)
    (server requested : Ipv4) : e ≠ .nak server requested := by
  unfold require at h
  cases hget : l.get? OptionCode.leaseTime.toByte with
  | none =>
    simp only [hget] at h
    cases h
    simp
  | some o =>
    rw [hget] at h
    have ho : o.asWord32 = .error e := h
    unfold LeaseOption.asWord32 at ho
    split at ho
    · cases ho
    · cases ho
      simp

end OptionList

namespace Client

section Bind

variable {c c' : Client} {reply : Message} {server requested : Ipv4}

/-- A reply that binds the client is no NAK, carries the lease time, and gives its address. -/
theorem bindReply_eq_ok {l : ClientLease} (h : c.bindReply reply server requested = (.ok l, c')) :
    reply.kind ≠ .ok (some .nak) ∧ reply.options.leaseTime = .ok (some l.durationSeconds) ∧
      l = ⟨reply.yiaddr, server, l.durationSeconds⟩ ∧
      c' = { c with lease := some l, phase := .bound } := by
  unfold bindReply at h
  split at h
  · cases h
  · cases h
  · rename_i k hnak hkind
    split at h
    · cases h
    · rename_i seconds hsec
      simp only [Prod.mk.injEq, Except.ok.injEq] at h
      obtain ⟨rfl, rfl⟩ := h
      refine ⟨fun h => hnak ?_, OptionList.leaseTime_of_require hsec, rfl, rfl⟩
      simpa [hkind] using h

/-- A reply the client cannot bind to leaves it as it was, except a NAK, which ends its lease. -/
theorem bindReply_error_client {e : Error}
    (h : c.bindReply reply server requested = (.error e, c')) :
    c' = c ∨ (e = .nak server requested ∧ c' = { c with lease := none, phase := .init }) := by
  unfold bindReply at h
  split at h
  · exact .inl (Prod.mk.inj h).2.symm
  · simp only [Prod.mk.injEq, Except.error.injEq] at h
    exact .inr ⟨h.1.symm, h.2.symm⟩
  · split at h
    · exact .inl (Prod.mk.inj h).2.symm
    · cases h

/-- For a reply of a known kind, the failure is a NAK exactly when the lease ends. -/
theorem bindReply_eq_error {e : Error} {k : Option MessageKind} (hkind : reply.kind = .ok k)
    (h : c.bindReply reply server requested = (.error e, c')) :
    (e = .nak server requested ∧ c' = { c with lease := none, phase := .init }) ∨
      ((∀ a b, e ≠ .nak a b) ∧ c' = c) := by
  unfold bindReply at h
  split at h
  · rename_i e' hk
    rw [hkind] at hk
    cases hk
  · simp only [Prod.mk.injEq, Except.error.injEq] at h
    exact .inl ⟨h.1.symm, h.2.symm⟩
  · split at h
    · rename_i e' htime
      simp only [Prod.mk.injEq, Except.error.injEq] at h
      obtain ⟨rfl, rfl⟩ := h
      exact .inr ⟨OptionList.require_leaseTime_ne_nak htime, rfl⟩
    · cases h

end Bind

/-- Drawing a transaction id takes the next random number and changes only the count of draws
and the last id drawn. -/
theorem eq_of_drawXid {c c' : Client} {x : UInt32} (h : c.drawXid = (x, c')) :
    x = c.random c.draws ∧ c' = { c with draws := c.draws + 1, lastXid := x } := by
  simp only [drawXid, Prod.mk.injEq] at h
  obtain ⟨rfl, rfl⟩ := h
  exact ⟨rfl, rfl⟩

variable (link : Link σ)

/-- How an attempt leaves the client: bound to the lease it returns, or without a lease. Only
the phase and the lease change. -/
theorem tryAcquire_client (c : Client) (xid : UInt32) (s : σ) :
    (∃ l, (tryAcquire link c xid s).result = .ok l ∧
      (tryAcquire link c xid s).client = { c with phase := .bound, lease := some l }) ∨
    (∃ e ph, (tryAcquire link c xid s).result = .error e ∧
      (tryAcquire link c xid s).client = { c with phase := ph, lease := none }) := by
  simp only [tryAcquire]
  rcases link.exchange _ _ _ _ s with ⟨_ | offer, s₁⟩ <;> dsimp only
  · exact .inr ⟨_, _, rfl, rfl⟩
  · rcases offer.options.serverIdentifier with e | identifier <;> dsimp only
    · exact .inr ⟨_, _, rfl, rfl⟩
    · rcases link.exchange _ _ _ _ s₁ with ⟨_ | reply, s₂⟩ <;> dsimp only
      · exact .inr ⟨_, _, rfl, rfl⟩
      · rcases hb : Client.bindReply _ reply (identifier.getD offer.siaddr) offer.yiaddr with
          ⟨_ | l, c'⟩ <;> dsimp only
        · -- the requesting client already has no lease; a NAK only resets its phase
          rcases bindReply_error_client hb with rfl | ⟨-, rfl⟩
          · exact .inr ⟨_, _, rfl, rfl⟩
          · exact .inr ⟨_, _, rfl, rfl⟩
        · obtain ⟨-, -, -, rfl⟩ := bindReply_eq_ok hb
          exact .inl ⟨l, rfl, rfl⟩

section Attempts

variable {c c' c'' : Client} {x : UInt32} {s s' : σ}

theorem tryAcquire_ok_client {l : ClientLease} (h : (tryAcquire link c x s).result = .ok l) :
    (tryAcquire link c x s).client = { c with phase := .bound, lease := some l } := by
  rcases tryAcquire_client link c x s with ⟨l', hl', hc⟩ | ⟨e, ph, he, -⟩
  · rw [h, Except.ok.injEq] at hl'
    rw [hc, hl']
  · rw [h] at he
    cases he

theorem tryAcquire_error_client {e : Error} (h : (tryAcquire link c x s).result = .error e) :
    ∃ ph, (tryAcquire link c x s).client = { c with phase := ph, lease := none } := by
  rcases tryAcquire_client link c x s with ⟨l, hl, -⟩ | ⟨e', ph, -, hc⟩
  · rw [h] at hl
    cases hl
  · exact ⟨ph, hc⟩

theorem acquireWithin_ok {restarts : Nat} {held : ClientLease} (hdraw : c.drawXid = (x, c'))
    (h : tryAcquire link c' x s = ⟨.ok held, c'', s'⟩) :
    acquireWithin link restarts c s = ⟨.ok held, c'', s'⟩ := by
  rw [acquireWithin, hdraw]
  simp only [h]

/-- An attempt that binds ends acquisition, with the client bound to the lease it took. -/
theorem acquireWithin_bound {restarts : Nat} {held : ClientLease} (hdraw : c.drawXid = (x, c'))
    (h : (tryAcquire link c' x s).result = .ok held) :
    acquireWithin link restarts c s =
      ⟨.ok held, { c' with phase := .bound, lease := some held },
        (tryAcquire link c' x s).link⟩ := by
  apply acquireWithin_ok link hdraw
  rw [← h, ← tryAcquire_ok_client link h]

theorem acquireWithin_zero_error {e : Error} (hdraw : c.drawXid = (x, c'))
    (h : tryAcquire link c' x s = ⟨.error e, c'', s'⟩) :
    acquireWithin link 0 c s =
      ⟨.error (.acquisitionFailed c''.attempts e), { c'' with phase := .init }, s'⟩ := by
  rw [acquireWithin, hdraw]
  simp only [h]

theorem acquireWithin_succ_error {restarts : Nat} {e : Error} (hdraw : c.drawXid = (x, c'))
    (h : tryAcquire link c' x s = ⟨.error e, c'', s'⟩) :
    acquireWithin link (restarts + 1) c s = acquireWithin link restarts c'' s' := by
  rw [acquireWithin, hdraw]
  simp only [h]

end Attempts

end Client

end AddressLeasing
