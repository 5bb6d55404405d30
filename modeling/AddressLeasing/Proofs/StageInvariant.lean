import AddressLeasing.Proofs.LeaseNetwork
/-!
# What a client's stage asks of the network

A client on a network holds an address safely when the server's pool holds it for the client
and no datagram of the client still in flight can take it away. `Stage.Safe` says, for each
stage, what the pool, the client's own datagrams on their way to the server (`sent`, oldest
first) and the datagrams on their way back (`down`) must satisfy:

* between operations, the pool holds the client's lease and every datagram in flight keeps it;
* in an acquisition, no reply in flight acknowledges the transaction yet, except while the
  REQUEST is out: then every ACK for the transaction grants the requested address, and once
  one is in flight the pool holds that address and only copies of the REQUEST are left in
  flight, all behind any older datagram;
* in a renewal, the pool holds the lease, every datagram in flight keeps it, and every ACK
  for the transaction grants it again.

Each client transition keeps `Safe` (`safe_started`, `safe_afterSend`, `safe_afterWait`, …),
given that a transaction id it draws is fresh: no datagram in flight belongs to it
(`FreshDraw`). So
does the server taking a datagram of the client (`Safe.serve_own`), provided that datagram is
the client's oldest in flight: this is where the order of the network enters. The server
taking another client's datagram, the network losing one, and a sweep that frees nothing keep
it too.
-/

set_option autoImplicit false

namespace AddressLeasing

open Server (Acks Keeps AcksOnly NoAck)

namespace Client

variable (c : Client)

theorem drawXid_fst : c.drawXid.1 = c.random c.draws := rfl

@[simp] theorem drawXid_snd_hardware : c.drawXid.2.hardware = c.hardware := rfl

@[simp] theorem drawXid_snd_lease : c.drawXid.2.lease = c.lease := rfl

/-- The transaction ids the client has drawn, in the order it drew them. -/
def drawn : List UInt32 := (List.range c.draws).map c.random

/-- A draw appends the id drawn to the ids drawn. -/
theorem drawn_drawXid : c.drawXid.2.drawn = c.drawn ++ [c.drawXid.1] := by
  simp only [drawn, drawXid, List.range_succ, List.map_append, List.map_singleton]

/-- `c'` is `c` after a transition: the same hardware, and the same transaction, or a newly
drawn one appended to the ids drawn. -/
def Follows (c' c : Client) : Prop :=
  c'.hardware = c.hardware ∧
    (c'.drawn = c.drawn ∧ c'.lastXid = c.lastXid ∨ c'.drawn = c.drawn ++ [c'.lastXid])

section Follows

variable {c c' c'' : Client}

theorem Follows.of_eq (hh : c'.hardware = c.hardware) (hd : c'.drawn = c.drawn)
    (hx : c'.lastXid = c.lastXid) : c'.Follows c :=
  ⟨hh, .inl ⟨hd, hx⟩⟩

theorem Follows.trans_eq (h : c''.Follows c') (hh : c'.hardware = c.hardware)
    (hd : c'.drawn = c.drawn) (hx : c'.lastXid = c.lastXid) : c''.Follows c := by
  obtain ⟨h₁, h₂⟩ := h
  exact ⟨h₁.trans hh, hd ▸ hx ▸ h₂⟩

/-- The ids drawn before a transition are still drawn after it. -/
theorem Follows.mem_drawn (h : c'.Follows c) {x : UInt32} (hx : x ∈ c.drawn) : x ∈ c'.drawn := by
  rcases h.2 with ⟨hd, -⟩ | hd <;> rw [hd]
  · exact hx
  · exact List.mem_append_left _ hx

/-- Ids drawn pairwise different after a transition were so before it. -/
theorem Follows.nodup (h : c'.Follows c) (hnd : c'.drawn.Nodup) : c.drawn.Nodup := by
  rcases h.2 with ⟨hd, -⟩ | hd <;> rw [hd] at hnd
  · exact hnd
  · exact hnd.sublist (List.sublist_append_left _ _)

end Follows

/-- A reply changes only the client's phase and lease. -/
theorem bindReply_snd (reply : Message) (server requested : Ipv4) :
    ∃ ph l, (c.bindReply reply server requested).2 = { c with phase := ph, lease := l } := by
  unfold bindReply
  split
  · exact ⟨c.phase, c.lease, rfl⟩
  · exact ⟨_, _, rfl⟩
  · split
    · exact ⟨c.phase, c.lease, rfl⟩
    · exact ⟨_, _, rfl⟩

variable {c} {reply : Message} {server requested : Ipv4}

@[simp] theorem hardware_bindReply :
    (c.bindReply reply server requested).2.hardware = c.hardware := by
  obtain ⟨ph, l, h⟩ := c.bindReply_snd reply server requested
  rw [h]

@[simp] theorem lastXid_bindReply : (c.bindReply reply server requested).2.lastXid = c.lastXid := by
  obtain ⟨ph, l, h⟩ := c.bindReply_snd reply server requested
  rw [h]

@[simp] theorem drawn_bindReply : (c.bindReply reply server requested).2.drawn = c.drawn := by
  obtain ⟨ph, l, h⟩ := c.bindReply_snd reply server requested
  rw [h]
  rfl

/-- A reply leaves the client with a lease only if it is not a NAK, and then the lease is for
the address the reply gives, unless the client kept its own. -/
theorem lease_bindReply {l : ClientLease}
    (h : (c.bindReply reply server requested).2.lease = some l) :
    c.lease = some l ∨ (l.address = reply.yiaddr ∧ reply.kind ≠ .ok (some .nak)) := by
  unfold bindReply at h
  split at h
  · exact .inl h
  · cases h
  · rename_i k hne hkind
    split at h
    · exact .inl h
    · cases h
      exact .inr ⟨rfl, fun hk => hne (Except.ok.inj (hkind.symm.trans hk))⟩

end Client

@[simp] theorem Script.client_settleRenewal (o : Except Error ClientLease × Client) :
    (Script.settleRenewal o).2.lease = o.2.lease ∧
      (Script.settleRenewal o).2.hardware = o.2.hardware ∧
      (Script.settleRenewal o).2.lastXid = o.2.lastXid ∧
      (Script.settleRenewal o).2.drawn = o.2.drawn := by
  rcases o with ⟨(_ | _) | _, c⟩ <;> simp [Script.settleRenewal, Client.drawn]

/-- An accepted reply to a REQUEST that binds the client to a new lease is an ACK of it. -/
theorem acks_of_answers {d : List UInt8} {c : Client} {reply : Message} {h : HardwareAddress}
    {x : UInt32} {server requested : Ipv4} {l : ClientLease} (hd : Message.decode d = .ok reply)
    (hans : reply.answers x h MessageKind.answersRequest = true)
    (hl : (c.bindReply reply server requested).2.lease = some l) :
    c.lease = some l ∨ (l.address = reply.yiaddr ∧ Acks d h x reply.yiaddr) := by
  refine (Client.lease_bindReply hl).imp_right fun ⟨haddr, hnak⟩ => ⟨haddr, reply, hd, ?_⟩
  simp only [Message.answers, Bool.and_eq_true, beq_iff_eq] at hans
  obtain ⟨⟨⟨-, hx⟩, hh⟩, hk⟩ := hans
  refine ⟨hx, hh, ?_, rfl⟩
  -- of the two kinds a REQUEST takes, the NAK binds nothing
  split at hk
  · rename_i k hkind
    cases k <;> simp_all [MessageKind.answersRequest]
  · cases hk

namespace Stage

variable {pool pool' : LeasePool} {h : HardwareAddress} {sent sent' down down' : List (List UInt8)}
  {st : Stage}

/-- What the stage of a client with hardware address `h` needs of the pool, of the client's
datagrams in flight to the server (`sent`, oldest first) and of the datagrams in flight back
(`down`). -/
def Safe (pool : LeasePool) (h : HardwareAddress) (sent down : List (List UInt8)) : Stage → Prop
  | idle c => ∀ l, c.lease = some l → pool.Holds h l.address ∧ ∀ b ∈ sent, Keeps h l.address b
  | discovering c _ _ =>
    c.lease = none ∧ (∀ b ∈ sent, NoAck h c.lastXid b) ∧ ∀ d ∈ down, ∀ a, ¬ Acks d h c.lastXid a
  | requesting c server requested _ _ =>
    c.lease = none ∧
      ∃ pre k, sent = pre ++ List.replicate k (c.requestMessage server requested).wire ∧
        (∀ b ∈ pre, NoAck h c.lastXid b) ∧
        (∀ d ∈ down, ∀ a, Acks d h c.lastXid a → a = requested) ∧
        ((∃ d ∈ down, ∃ a, Acks d h c.lastXid a) → pool.Holds h requested ∧ pre = [])
  | renewing c held _ _ =>
    c.lease = some held ∧ pool.Holds h held.address ∧
      (∀ b ∈ sent, Keeps h held.address b ∧ AcksOnly h c.lastXid held.address b) ∧
      ∀ d ∈ down, ∀ a, Acks d h c.lastXid a → a = held.address
  | releasing c _ => c.lease = none

/-- No datagram in flight belongs to transaction `x` of `h`: the one a client is about to draw. -/
def Fresh (h : HardwareAddress) (x : UInt32) (sent down : List (List UInt8)) : Prop :=
  (∀ b ∈ sent, NoAck h x b) ∧ ∀ d ∈ down, ∀ a, ¬ Acks d h x a

/-- What a transition from client `c` to `c'` draws is fresh: every id it appends to the ids
drawn. -/
def FreshDraw (h : HardwareAddress) (c' c : Client) (sent down : List (List UInt8)) : Prop :=
  ∀ x, c'.drawn = c.drawn ++ [x] → Fresh h x sent down

/-- **A safe client holds its lease.** -/
theorem Safe.holds (hs : st.Safe pool h sent down) {l : ClientLease}
    (hl : st.client.lease = some l) : pool.Holds h l.address := by
  cases st with
  | idle c => exact (hs l hl).1
  | renewing c held server t =>
    obtain ⟨hheld, hold, -⟩ := hs
    simp only [client, hheld, Option.some.injEq] at hl
    exact hl ▸ hold
  | discovering c _ _ | requesting c _ _ _ _ =>
    simp only [client, hs.1] at hl
    cases hl
  | releasing c _ =>
    have hnone : c.lease = none := hs
    simp only [client, hnone] at hl
    cases hl

theorem safe_withTries (hs : st.Safe pool h sent down) (t : Tries) :
    (st.withTries t).Safe pool h sent down := by
  cases st <;> exact hs

/-! ## Losing datagrams -/

/-- What is left of the copies of a REQUEST behind older datagrams, once some are lost. -/
theorem exists_of_sublist_append_replicate {pre l : List (List UInt8)} {k : Nat}
    {b : List UInt8} (hsub : l.Sublist (pre ++ List.replicate k b)) :
    ∃ pre' k', l = pre' ++ List.replicate k' b ∧ pre'.Sublist pre := by
  obtain ⟨r₁, r₂, rfl, h₁, h₂⟩ := List.sublist_append_iff.mp hsub
  obtain ⟨k', -, rfl⟩ := List.sublist_replicate_iff.mp h₂
  exact ⟨r₁, k', rfl, h₁⟩

theorem Safe.mono_sent (hs : st.Safe pool h sent down) (hsub : sent'.Sublist sent) :
    st.Safe pool h sent' down := by
  cases st with
  | idle c =>
    intro l hl
    obtain ⟨hold, hkeep⟩ := hs l hl
    exact ⟨hold, fun b hb => hkeep b (hsub.subset hb)⟩
  | discovering c r t =>
    obtain ⟨hlease, hno, hdown⟩ := hs
    exact ⟨hlease, fun b hb => hno b (hsub.subset hb), hdown⟩
  | requesting c server requested r t =>
    obtain ⟨hlease, pre, k, rfl, hpre, hacks, hfirst⟩ := hs
    obtain ⟨pre', k', rfl, hpre'⟩ := exists_of_sublist_append_replicate hsub
    refine ⟨hlease, pre', k', rfl, fun b hb => hpre b (hpre'.subset hb), hacks, fun hack => ?_⟩
    obtain ⟨hold, rfl⟩ := hfirst hack
    exact ⟨hold, List.sublist_nil.mp hpre'⟩
  | renewing c held server t =>
    obtain ⟨hlease, hold, hsent, hdown⟩ := hs
    exact ⟨hlease, hold, fun b hb => hsent b (hsub.subset hb), hdown⟩
  | releasing c held => exact hs

theorem Safe.mono_down (hs : st.Safe pool h sent down) (hsub : ∀ d ∈ down', d ∈ down) :
    st.Safe pool h sent down' := by
  cases st with
  | idle c => exact hs
  | discovering c r t =>
    obtain ⟨hlease, hno, hdown⟩ := hs
    exact ⟨hlease, hno, fun d hd => hdown d (hsub d hd)⟩
  | requesting c server requested r t =>
    obtain ⟨hlease, pre, k, hsent, hpre, hacks, hfirst⟩ := hs
    exact ⟨hlease, pre, k, hsent, hpre, fun d hd => hacks d (hsub d hd),
      fun ⟨d, hd, a, ha⟩ => hfirst ⟨d, hsub d hd, a, ha⟩⟩
  | renewing c held server t =>
    obtain ⟨hlease, hold, hsent, hdown⟩ := hs
    exact ⟨hlease, hold, hsent, fun d hd => hdown d (hsub d hd)⟩
  | releasing c held => exact hs

/-! ## The server takes a datagram -/

/-- The server taking a datagram of another client: every hold of `h` stays, and no answer
acknowledges anything to `h`. -/
theorem Safe.serve_other (hs : st.Safe pool h sent down)
    (hkeep : ∀ a, pool.Holds h a → pool'.Holds h a) {extra : List (List UInt8)}
    (hnew : ∀ d ∈ extra, ∀ x a, ¬ Acks d h x a) : st.Safe pool' h sent (down ++ extra) := by
  have old : ∀ {x a d}, d ∈ down ++ extra → Acks d h x a → d ∈ down := fun hd hack =>
    (List.mem_append.mp hd).resolve_right fun he => hnew _ he _ _ hack
  cases st with
  | idle c =>
    intro l hl
    obtain ⟨hold, hsent⟩ := hs l hl
    exact ⟨hkeep _ hold, hsent⟩
  | discovering c r t =>
    obtain ⟨hlease, hno, hdown⟩ := hs
    exact ⟨hlease, hno, fun d hd a hack => hdown d (old hd hack) a hack⟩
  | requesting c server requested r t =>
    obtain ⟨hlease, pre, k, hsent, hpre, hacks, hfirst⟩ := hs
    refine ⟨hlease, pre, k, hsent, hpre, fun d hd a hack => hacks d (old hd hack) a hack,
      fun ⟨d, hd, a, hack⟩ => ?_⟩
    obtain ⟨hold, hnil⟩ := hfirst ⟨d, old hd hack, a, hack⟩
    exact ⟨hkeep _ hold, hnil⟩
  | renewing c held server t =>
    obtain ⟨hlease, hold, hsent, hdown⟩ := hs
    exact ⟨hlease, hkeep _ hold, hsent, fun d hd a hack => hdown d (old hd hack) a hack⟩
  | releasing c held => exact hs

section ServeOwn

variable {s : Server} {now : Int} {source : Endpoint} {b : List UInt8} {rest : List (List UInt8)}

/-- A REQUEST copy in flight: it keeps its address and is acknowledged only with it. -/
theorem requestMessage_facts (c : Client) (server requested : Ipv4) :
    Keeps c.hardware requested (c.requestMessage server requested).wire ∧
      AcksOnly c.hardware c.lastXid requested (c.requestMessage server requested).wire :=
  ⟨Server.keeps_request (.inl rfl), Server.acksOnly_request (.inl rfl)⟩

/-- **The server takes the client's oldest datagram in flight.** The stage stays safe: the
datagram keeps what the client holds, and what it acknowledges is what the stage expects. -/
theorem Safe.serve_own (hs : st.Safe s.pool h (b :: rest) down) (hsI : s.Invariant)
    (hh : st.client.hardware = h) :
    st.Safe (s.step (.datagram now b source)).pool h (b :: rest)
      (down ++ s.answer now b source) := by
  cases st with
  | idle c =>
    intro l hl
    obtain ⟨hold, hkeep⟩ := hs l hl
    exact ⟨hkeep b List.mem_cons_self s hsI now source hold, hkeep⟩
  | discovering c r t =>
    obtain ⟨hlease, hno, hdown⟩ := hs
    refine ⟨hlease, hno, fun d hd a hack => ?_⟩
    rcases List.mem_append.mp hd with hd | hd
    · exact hdown d hd a hack
    · exact hno b List.mem_cons_self s hsI now source d hd a hack
  | requesting c server requested r t =>
    obtain ⟨hlease, pre, k, hsent, hpre, hacks, hfirst⟩ := hs
    refine ⟨hlease, pre, k, hsent, hpre, ?_⟩
    cases pre with
    | nil =>
      -- the oldest datagram is a copy of the REQUEST
      cases k with
      | zero => cases hsent
      | succ k =>
        rw [List.nil_append, List.replicate_succ, List.cons.injEq] at hsent
        obtain ⟨rfl, -⟩ := hsent
        subst hh
        obtain ⟨hkeep, hacked⟩ := requestMessage_facts c server requested
        refine ⟨fun d hd a hack => ?_, fun ⟨d, hd, a, hack⟩ => ⟨?_, rfl⟩⟩
        · rcases List.mem_append.mp hd with hd | hd
          · exact hacks d hd a hack
          · exact (hacked s hsI now source d hd a hack).1
        · rcases List.mem_append.mp hd with hd | hd
          · exact hkeep s hsI now source (hfirst ⟨d, hd, a, hack⟩).1
          · exact (hacked s hsI now source d hd a hack).2
    | cons p pre =>
      -- an older datagram goes first and acknowledges nothing of this transaction
      rw [List.cons_append, List.cons.injEq] at hsent
      obtain ⟨rfl, -⟩ := hsent
      have hno := hpre b List.mem_cons_self s hsI now source
      have old : ∀ {a d}, d ∈ down ++ s.answer now b source → Acks d h c.lastXid a →
          d ∈ down :=
        fun hd hack => (List.mem_append.mp hd).resolve_right fun he => hno _ he _ hack
      refine ⟨fun d hd a hack => hacks d (old hd hack) a hack, fun ⟨d, hd, a, hack⟩ => ?_⟩
      exact absurd (hfirst ⟨d, old hd hack, a, hack⟩).2 (List.cons_ne_nil _ _)
  | renewing c held server t =>
    obtain ⟨hlease, hold, hsent, hdown⟩ := hs
    obtain ⟨hkeep, hacked⟩ := hsent b List.mem_cons_self
    refine ⟨hlease, hkeep s hsI now source hold, hsent, fun d hd a hack => ?_⟩
    rcases List.mem_append.mp hd with hd | hd
    · exact hdown d hd a hack
    · exact (hacked s hsI now source d hd a hack).1
  | releasing c held => exact hs

end ServeOwn

/-! ## The client's own transitions -/

/-- The client sends the stage's message: it joins the datagrams in flight. -/
theorem Safe.append_message (hs : st.Safe pool h sent down) {m : Message}
    (hm : st.message = some m) (hh : st.client.hardware = h) :
    st.Safe pool h (sent ++ [m.wire]) down := by
  cases st with
  | idle c => cases hm
  | discovering c r t =>
    cases hm
    obtain ⟨hlease, hno, hdown⟩ := hs
    refine ⟨hlease, fun b hb => ?_, hdown⟩
    rcases List.mem_append.mp hb with hb | hb
    · exact hno b hb
    · rw [List.mem_singleton.mp hb]
      exact Server.noAck_discover _ _ _
  | requesting c server requested r t =>
    cases hm
    obtain ⟨hlease, pre, k, rfl, hpre, hacks, hfirst⟩ := hs
    refine ⟨hlease, pre, k + 1, ?_, hpre, hacks, hfirst⟩
    rw [List.replicate_succ', List.append_assoc]
  | renewing c held server t =>
    cases hm
    obtain ⟨hlease, hold, hsent, hdown⟩ := hs
    refine ⟨hlease, hold, fun b hb => ?_, hdown⟩
    rcases List.mem_append.mp hb with hb | hb
    · exact hsent b hb
    · rw [List.mem_singleton.mp hb, ← hh]
      exact ⟨Server.keeps_request (.inr rfl), Server.acksOnly_request (.inr rfl)⟩
  | releasing c held => exact hs

/-- How an acquisition attempt ends keeps the stage safe: with a lease the pool holds and the
datagrams in flight keep, or with none; or with the next attempt, on a fresh transaction. -/
theorem safe_attemptEnded (restarts : Nat) (o : Except Error ClientLease × Client)
    (hfresh : FreshDraw h (attemptEnded restarts o).client o.2 sent down)
    (hok : ∀ l, o.2.lease = some l →
      pool.Holds h l.address ∧ ∀ b ∈ sent, Keeps h l.address b) :
    (attemptEnded restarts o).Safe pool h sent down := by
  rcases o with ⟨_ | held, c⟩
  · cases restarts with
    | zero => exact hok
    | succ r => exact ⟨rfl, hfresh _ (Client.drawn_drawXid c)⟩
  · exact hok

/-- A reply the stage takes: it came in flight, and answers the stage's transaction. -/
def Taken (h : HardwareAddress) (down : List (List UInt8)) (st : Stage) (r : Message) : Prop :=
  ∃ d ∈ down, Message.decode d = .ok r ∧ r.answers st.client.lastXid h st.accept = true

/-- **An exchange ends.** With a reply the stage took, or with an error, the stage that
follows is safe; a new attempt needs the transaction id it draws to be fresh. -/
theorem safe_ended (hs : st.Safe pool h sent down) (hh : st.client.hardware = h)
    {res : Except Error Message} (hfresh : FreshDraw h (st.ended res).client st.client sent down)
    (hres : ∀ r, res = .ok r → Taken h down st r) :
    (st.ended res).Safe pool h sent down := by
  cases st with
  | idle c => cases res <;> exact hs
  | releasing c held => cases res <;> exact hs
  | discovering c r t =>
    obtain ⟨hlease, hno, hdown⟩ := hs
    have hfail : ∀ e, FreshDraw h (attemptEnded r (.error e, c)).client c sent down →
        (attemptEnded r (.error e, c)).Safe pool h sent down := fun e hfresh =>
      safe_attemptEnded r (.error e, c) hfresh fun l hl => by simp [hlease] at hl
    cases res with
    | error e => exact hfail e hfresh
    | ok offer =>
      rcases hid : offer.options.serverIdentifier with e | identifier
      · simp only [ended, hid] at hfresh ⊢
        exact hfail e hfresh
      · -- the REQUEST exchange starts: nothing of it is in flight yet
        simp only [ended, hid]
        refine ⟨hlease, sent, 0, by simp, hno,
          fun d hd a hack => absurd hack (hdown d hd a), ?_⟩
        rintro ⟨d, hd, a, hack⟩
        exact absurd hack (hdown d hd a)
  | requesting c server requested r t =>
    obtain ⟨hlease, pre, k, hsent, hpre, hacks, hfirst⟩ := hs
    cases res with
    | error e => exact safe_attemptEnded r (.error e, c) hfresh fun l hl => by simp [hlease] at hl
    | ok reply =>
      subst hh
      refine safe_attemptEnded r (c.bindReply reply server requested)
        (fun x hx => hfresh x (hx.trans (congrArg (· ++ [x]) Client.drawn_bindReply)))
        fun l hl => ?_
      obtain ⟨d, hd, hdec, hans⟩ := hres reply rfl
      rcases acks_of_answers hdec hans hl with hl' | ⟨haddr, hack⟩
      · simp [hlease] at hl'
      -- an ACK is in flight: the pool holds the requested address and only REQUEST copies
      -- are left in flight
      obtain rfl := hacks d hd _ hack
      obtain ⟨hold, rfl⟩ := hfirst ⟨d, hd, _, hack⟩
      rw [haddr]
      refine ⟨hold, fun b hb => ?_⟩
      rw [hsent, List.nil_append] at hb
      rw [List.eq_of_mem_replicate hb]
      exact (requestMessage_facts c server reply.yiaddr).1
  | renewing c held server t =>
    obtain ⟨hlease, hold, hsent, hdown⟩ := hs
    have hheld : ∀ l, c.lease = some l →
        pool.Holds h l.address ∧ ∀ b ∈ sent, Keeps h l.address b :=
      fun l hl => by
        rw [hlease, Option.some.injEq] at hl
        exact hl ▸ ⟨hold, fun b hb => (hsent b hb).1⟩
    cases res with
    | error e =>
      intro l hl
      exact hheld l (by simpa using hl)
    | ok reply =>
      intro l hl
      obtain ⟨d, hd, hdec, hans⟩ := hres reply rfl
      rcases acks_of_answers hdec hans (by simpa using hl) with hl' | ⟨haddr, hack⟩
      · exact hheld l hl'
      · -- the ACK grants the held address again
        rw [haddr, hdown d hd _ hack]
        exact hheld held hlease

/-- The outcome of a send. -/
theorem safe_afterSend (hs : st.Safe pool h sent down) (hh : st.client.hardware = h)
    (res : Except Error Unit) (hfresh : FreshDraw h (st.afterSend res).client st.client sent down) :
    (st.afterSend res).Safe pool h sent down := by
  cases st with
  | releasing c held =>
    -- the client is between operations again, without a lease
    intro l hl
    have hnone : c.lease = none := hs
    exact absurd hl (by simp [hnone])
  | idle c => cases res <;> exact hs
  | discovering c r t | requesting c _ _ r t | renewing c _ _ t =>
    rcases res with e | ⟨⟩
    · rw [afterSend_error rfl] at hfresh ⊢
      exact safe_ended hs hh hfresh fun r hr => by cases hr
    · simp only [afterSend, tries]
      split
      · exact safe_withTries hs _
      · exact hs

/-- Where a wait ends: the same exchange with a try less, or the end of the exchange, with a
reply only if the wait ended with one. -/
theorem afterWait_cases (st : Stage) (res : Except Error (Option Message)) :
    (∃ t, st.afterWait res = st.withTries t) ∨
      ∃ r, st.afterWait res = st.ended r ∧ ∀ m, r = .ok m → res = .ok (some m) := by
  unfold afterWait
  split
  · exact .inr ⟨_, rfl, fun m hm => by cases hm; rfl⟩
  · exact .inl ⟨_, rfl⟩
  · exact .inr ⟨_, rfl, fun m hm => by cases hm⟩
  · exact .inr ⟨_, rfl, fun m hm => by cases hm⟩

/-- The outcome of a wait: a reply the stage took, the deadline, or a failure. -/
theorem safe_afterWait (hs : st.Safe pool h sent down) (hh : st.client.hardware = h)
    {res : Except Error (Option Message)}
    (hfresh : FreshDraw h (st.afterWait res).client st.client sent down)
    (hres : ∀ r, res = .ok (some r) → Taken h down st r) :
    (st.afterWait res).Safe pool h sent down := by
  rcases afterWait_cases st res with ⟨t, heq⟩ | ⟨r, heq, hr⟩
  · rw [heq]
    exact safe_withTries hs t
  · rw [heq] at hfresh ⊢
    exact safe_ended hs hh hfresh fun m hm => hres m (hr m hm)

/-- **An operation starts safely** from a safe client, on a fresh transaction. -/
theorem safe_started {c : Client} (hs : (idle c).Safe pool h sent down) (op : Operation)
    (hfresh : FreshDraw h (started op c).client c sent down) :
    (started op c).Safe pool h sent down := by
  cases op with
  | acquire => exact ⟨rfl, hfresh _ (Client.drawn_drawXid c)⟩
  | renew server =>
    cases hl : c.lease with
    | none =>
      simp only [started, hl]
      exact hs
    | some held =>
      simp only [started, hl] at hfresh ⊢
      obtain ⟨hold, hkeep⟩ := hs held hl
      have hnew := hfresh _ (Client.drawn_drawXid c)
      exact ⟨by simpa using hl, hold, fun b hb => ⟨hkeep b hb, (hnew.1 b hb).acksOnly _⟩,
        fun d hd a hack => absurd hack (hnew.2 d hd a)⟩
  | release =>
    simp only [started]
    split
    · exact hs
    · exact Client.drawXid_snd_lease _

/-- An operation leaves the client between operations, or starts on a newly drawn transaction
id. -/
theorem started_cases (op : Operation) (c : Client) :
    started op c = .idle c ∨
      (started op c).client.hardware = c.hardware ∧
        (started op c).client.drawn = c.drawn ++ [(started op c).client.lastXid] := by
  cases op with
  | acquire => exact .inr ⟨rfl, Client.drawn_drawXid c⟩
  | renew server =>
    cases hl : c.lease with
    | none => exact .inl (by simp only [started, hl])
    | some held =>
      simp only [started, hl]
      exact .inr ⟨rfl, Client.drawn_drawXid c⟩
  | release =>
    cases hl : c.lease with
    | none => exact .inl (by simp only [started, hl])
    | some held =>
      simp only [started, hl]
      exact .inr ⟨rfl, Client.drawn_drawXid { c with lease := none, phase := .releasing }⟩

/-- An operation that sends anything starts on a newly drawn transaction id. -/
theorem drawn_started (op : Operation) (c : Client) (hm : (started op c).message.isSome) :
    (started op c).client.drawn = c.drawn ++ [(started op c).client.lastXid] := by
  rcases started_cases op c with hidle | ⟨-, hdrawn⟩
  · rw [hidle] at hm
    exact absurd hm Bool.false_ne_true
  · exact hdrawn

/-! ## What a transition does to the client's identity -/

/-- The message a stage sends is its client's, in its client's transaction. -/
theorem message_facts {m : Message} (hm : st.message = some m) :
    m.Encodable ∧ m.chaddr = st.client.hardware ∧ m.xid = st.client.lastXid := by
  cases st <;> cases hm
  · exact ⟨Message.encodable_discover _ _ _, rfl, rfl⟩
  · exact ⟨Message.encodable_request _ _ _ _ _, rfl, rfl⟩
  · exact ⟨Message.encodable_request _ _ _ _ _, rfl, rfl⟩
  · exact ⟨Message.encodable_release _ _ _, rfl, rfl⟩

theorem follows_attemptEnded (restarts : Nat) (o : Except Error ClientLease × Client) :
    (attemptEnded restarts o).client.Follows o.2 := by
  rcases o with ⟨_ | held, c⟩
  · cases restarts with
    | zero => exact .of_eq rfl rfl rfl
    | succ r =>
      -- the next attempt draws the next transaction id
      exact ⟨rfl, .inr (Client.drawn_drawXid c)⟩
  · exact .of_eq rfl rfl rfl

theorem follows_ended (st : Stage) (res : Except Error Message) :
    (st.ended res).client.Follows st.client := by
  cases st with
  | idle c => cases res <;> exact .of_eq rfl rfl rfl
  | releasing c held => cases res <;> exact .of_eq rfl rfl rfl
  | discovering c r t =>
    cases res with
    | error e => exact follows_attemptEnded r (.error e, c)
    | ok offer =>
      simp only [ended]
      split
      · exact .of_eq rfl rfl rfl
      · exact follows_attemptEnded r (.error _, c)
  | requesting c server requested r t =>
    cases res with
    | error e => exact follows_attemptEnded r (.error e, c)
    | ok reply =>
      exact (follows_attemptEnded r (c.bindReply reply server requested)).trans_eq
        Client.hardware_bindReply Client.drawn_bindReply Client.lastXid_bindReply
  | renewing c held server t =>
    cases res <;> exact .of_eq (by simp [ended, client]) (by simp [ended, client])
      (by simp [ended, client])

theorem follows_afterSend (st : Stage) (res : Except Error Unit) :
    (st.afterSend res).client.Follows st.client := by
  cases st with
  | releasing c held => exact .of_eq rfl rfl rfl
  | idle c => cases res <;> exact .of_eq rfl rfl rfl
  | discovering c r t | requesting c _ _ r t | renewing c _ _ t =>
    rcases res with e | ⟨⟩
    · rw [afterSend_error rfl]
      exact follows_ended _ _
    · simp only [afterSend, tries]
      split
      · exact .of_eq (by simp) (by simp) (by simp)
      · exact .of_eq rfl rfl rfl

theorem follows_afterWait (st : Stage) (res : Except Error (Option Message)) :
    (st.afterWait res).client.Follows st.client := by
  rcases afterWait_cases st res with ⟨t, heq⟩ | ⟨r, heq, -⟩ <;> rw [heq]
  · exact .of_eq (by simp) (by simp) (by simp)
  · exact follows_ended _ _

theorem follows_started (op : Operation) (c : Client) : (started op c).client.Follows c := by
  rcases started_cases op c with hidle | ⟨hh, hdrawn⟩
  · rw [hidle]
    exact .of_eq rfl rfl rfl
  · exact ⟨hh, .inr hdrawn⟩

end Stage

end AddressLeasing
