import AddressLeasing.Proofs.ClientPhases
import AddressLeasing.Proofs.ClientScript
/-!
# How often a client sends

A client's patience is bounded twice over. An exchange sends its message at most one more time
than the retry limit, waiting once for the reply after each sending; an acquisition runs at
most `Client.attempts` attempts of at most two exchanges each. So over any link one acquisition
sends at most `attempts · 2 · (maxRetries + 1)` datagrams, and one renewal at most
`maxRetries + 1`, every one of them the same REQUEST (`acquireWithin_sends`, `renew_sends`).

When nothing answers, the bounds are reached. Suppose that in every state the link reaches
from its start (`Link.Henceforth`) no sending and no wait fails (`Link.Unfailing`). Then each
exchange either gets its reply or runs every wait to its deadline (`exchange_unfailing`). So an
acquisition whose log shows no DISCOVER answered by an OFFER (`Link.Answered`) sends each
attempt's DISCOVER `maxRetries + 1` times, under the next transaction id it draws per attempt,
and fails after `attempts` attempts (`Client.Unoffered`); a renewal whose REQUEST is not answered
sends it `maxRetries + 1` times and times out (`Link.Unanswered`).

A run never leaves the states its link reaches, and its log holds only receptions the link
delivered there (`Link.Reaches.logged`): a link that delivers nothing readable answers nothing.
-/

set_option autoImplicit false

namespace AddressLeasing

namespace LinkEvent

/-- The datagram an event sent, with its destination. -/
def sentDatagram : LinkEvent → Option (List UInt8 × Endpoint)
  | .sent bytes destination => some (bytes, destination)
  | .received _ => none

/-- The datagrams a log shows sent, in order, with their destinations. -/
def sends (evs : List LinkEvent) : List (List UInt8 × Endpoint) := evs.filterMap sentDatagram

@[simp] theorem sends_nil : sends [] = [] := rfl

@[simp] theorem sends_append (evs evs' : List LinkEvent) :
    sends (evs ++ evs') = sends evs ++ sends evs' :=
  List.filterMap_append

@[simp] theorem sends_sent_cons (bytes : List UInt8) (destination : Endpoint)
    (evs : List LinkEvent) :
    sends (.sent bytes destination :: evs) = (bytes, destination) :: sends evs :=
  rfl

@[simp] theorem sends_received_cons (r : Reception) (evs : List LinkEvent) :
    sends (.received r :: evs) = sends evs :=
  rfl

end LinkEvent

open LinkEvent

namespace Link

variable {σ : Type}

/-- The states `link` passes through from `s`, sending and waiting. -/
inductive Reaches (link : Link σ) (s : σ) : σ → Prop
  | refl : link.Reaches s s
  | send {t : σ} (bytes : List UInt8) (destination : Endpoint) :
      link.Reaches s t → link.Reaches s (link.send bytes destination t).2
  | receive {t : σ} : link.Reaches s t → link.Reaches s (link.receive t).2

/-- `P` holds of every state that `link` reaches from `s`. -/
def Henceforth (link : Link σ) (P : σ → Prop) (s : σ) : Prop :=
  ∀ t, link.Reaches s t → P t

/-- A link state in which no sending fails and no wait fails. -/
structure Unfailing (link : Link σ) (s : σ) : Prop where
  send : ∀ bytes destination, (link.send bytes destination s).1 = .ok ()
  receive : ∀ e, (link.receive s).1 ≠ .failure e

/-- Somewhere in the log `evs` a reply of a kind `accept` takes answered `m`, sent to
`destination` by `hw`: a sending of `m`, only datagrams the wait dropped, then the reply. -/
def Answered (m : Message) (destination : Endpoint) (hw : HardwareAddress)
    (accept : MessageKind → Bool) (evs : List LinkEvent) : Prop :=
  ∃ pre post r, evs = pre ++ post ∧ Exchanged m destination hw accept r pre

/-- `evs` shows `n` sendings of `bytes` to `destination`, each followed by a wait for the reply
to transaction `xid` of `hw` that dropped whatever arrived until its deadline passed. -/
inductive Unanswered (bytes : List UInt8) (destination : Endpoint) (xid : UInt32)
    (hw : HardwareAddress) (accept : MessageKind → Bool) : Nat → List LinkEvent → Prop
  | nil : Unanswered bytes destination xid hw accept 0 []
  | cons {n : Nat} {drops evs : List LinkEvent} (dropped : ∀ d ∈ drops, Dropped xid hw accept d)
      (rest : Unanswered bytes destination xid hw accept n evs) :
      Unanswered bytes destination xid hw accept (n + 1)
        (.sent bytes destination :: drops ++ .received .deadline :: evs)

section Reaching

variable {link : Link σ} {s t u : σ} {P : σ → Prop}

theorem Reaches.trans (h₁ : link.Reaches s t) (h₂ : link.Reaches t u) : link.Reaches s u := by
  induction h₂ with
  | refl => exact h₁
  | send bytes destination _ ih => exact .send bytes destination ih
  | receive _ ih => exact .receive ih

theorem reaches_of_send {bytes : List UInt8} {destination : Endpoint} {r : Except Error Unit}
    (h : link.send bytes destination s = (r, t)) : link.Reaches s t := by
  have hr : link.Reaches s (link.send bytes destination s).2 := .send bytes destination .refl
  rwa [h] at hr

theorem reaches_of_receive {r : Reception} (h : link.receive s = (r, t)) : link.Reaches s t := by
  have hr : link.Reaches s (link.receive s).2 := .receive .refl
  rwa [h] at hr

theorem Henceforth.now (h : link.Henceforth P s) : P s := h s .refl

theorem Henceforth.later (h : link.Henceforth P s) (ht : link.Reaches s t) :
    link.Henceforth P t :=
  fun u hu => h u (ht.trans hu)

end Reaching

/-- Dropped events are receptions: a log of them sends nothing. -/
theorem sends_of_dropped {xid : UInt32} {hw : HardwareAddress} {accept : MessageKind → Bool} :
    ∀ {drops : List LinkEvent}, (∀ d ∈ drops, Dropped xid hw accept d) → sends drops = []
  | [], _ => rfl
  | .sent _ _ :: _, h => (h _ List.mem_cons_self).elim
  | .received _ :: drops, h => by
    rw [sends_received_cons]
    exact sends_of_dropped fun d hd => h d (List.mem_cons_of_mem _ hd)

theorem Unanswered.sends {bytes : List UInt8} {destination : Endpoint} {xid : UInt32}
    {hw : HardwareAddress} {accept : MessageKind → Bool} {n : Nat} {evs : List LinkEvent}
    (h : Unanswered bytes destination xid hw accept n evs) :
    LinkEvent.sends evs = List.replicate n (bytes, destination) := by
  induction h with
  | nil => rfl
  | cons dropped _ ih => simp [sends_of_dropped dropped, ih, List.replicate_succ]

section Answers

variable {m : Message} {destination : Endpoint} {hw : HardwareAddress}
  {accept : MessageKind → Bool} {evs : List LinkEvent}

theorem Exchanged.answered {r : Message} (h : Exchanged m destination hw accept r evs) :
    Answered m destination hw accept evs :=
  ⟨evs, [], r, by simp, h⟩

theorem Answered.prepend (h : Answered m destination hw accept evs) (pre : List LinkEvent) :
    Answered m destination hw accept (pre ++ evs) := by
  obtain ⟨pre', post, r, rfl, hex⟩ := h
  exact ⟨pre ++ pre', post, r, by simp, hex.prepend pre⟩

theorem Answered.append (h : Answered m destination hw accept evs) (post : List LinkEvent) :
    Answered m destination hw accept (evs ++ post) := by
  obtain ⟨pre, post', r, rfl, hex⟩ := h
  exact ⟨pre, post' ++ post, r, by simp, hex⟩

/-- An answer is a datagram in the log that reads as a reply to the message's transaction. -/
theorem Answered.received (h : Answered m destination hw accept evs) :
    ∃ b source r, .received (.datagram b source) ∈ evs ∧ Message.decode b = .ok r ∧
      r.answers m.xid hw accept = true := by
  obtain ⟨pre, post, r, rfl, -, -, ⟨pre', drops, b, source, rfl, -, hdec⟩, hans⟩ := h
  exact ⟨b, source, r, by simp, hdec, hans⟩

end Answers

section Logged

variable (link : Link σ) (xid : UInt32) (hw : HardwareAddress) (accept : MessageKind → Bool)

theorem logged_receive_of {s s' : σ} {x : Reception} (h : link.receive s = (x, s'))
    (t : List LinkEvent) : link.logged.receive (s, t) = (x, (s', t ++ [.received x])) := by
  rw [logged_receive, h]

/-- What a logged link reaches from `(s, t)`: a state the link reaches from `s`, with `t`
followed by events whose receptions the link delivered in states it reaches from `s`. -/
theorem Reaches.logged {s : σ} {t : List LinkEvent} {st : σ × List LinkEvent}
    (h : link.logged.Reaches (s, t) st) :
    link.Reaches s st.1 ∧ ∃ evs, st.2 = t ++ evs ∧
      ∀ r, .received r ∈ evs → ∃ u, link.Reaches s u ∧ (link.receive u).1 = r := by
  induction h with
  | refl => exact ⟨.refl, [], by simp, by simp⟩
  | send bytes destination _ ih =>
    obtain ⟨hs, evs, heq, hdelivered⟩ := ih
    refine ⟨.send bytes destination hs, evs ++ [.sent bytes destination], ?_, ?_⟩
    · simp [Link.logged, heq]
    · intro r hr
      simp only [List.mem_append, List.mem_singleton, reduceCtorEq, or_false] at hr
      exact hdelivered r hr
  | @receive st' _ ih =>
    obtain ⟨hs, evs, heq, hdelivered⟩ := ih
    refine ⟨.receive hs, evs ++ [.received (link.receive st'.1).1], ?_, ?_⟩
    · simp [Link.logged, heq]
    · intro r hr
      rcases List.mem_append.mp hr with hr | hr
      · exact hdelivered r hr
      · -- the new reception, delivered in the state just reached
        simp only [List.mem_singleton, LinkEvent.received.injEq] at hr
        exact ⟨st'.1, hs, hr.symm⟩

/-- A wait ends in a state the link reaches. -/
theorem awaitReply_reaches (s : σ) : link.Reaches s (link.awaitReply xid hw accept s).2 := by
  -- on the datagrams the link still holds, which every reception lowers
  induction hn : link.pending s using Nat.strong_induction_on generalizing s with
  | _ n ih =>
    rcases hrec : link.receive s with ⟨_ | _ | e, s'⟩
    · rcases awaitReply_datagram hrec with ⟨r, -, -, htaken⟩ | ⟨-, hdropped⟩
      · rw [htaken]
        exact reaches_of_receive hrec
      · rw [hdropped]
        exact (reaches_of_receive hrec).trans (ih _ (hn ▸ pending_lt_of_receive hrec) s' rfl)
    · rw [awaitReply_deadline hrec]
      exact reaches_of_receive hrec
    · rw [awaitReply_failure hrec]
      exact reaches_of_receive hrec

/-- A wait only receives: it sends nothing. -/
theorem awaitReply_sends (s : σ) (t : List LinkEvent) :
    ∃ evs, (link.logged.awaitReply xid hw accept (s, t)).2.2 = t ++ evs ∧ sends evs = [] := by
  -- on the datagrams the link still holds, which every reception lowers
  induction hn : link.pending s using Nat.strong_induction_on generalizing s t with
  | _ n ih =>
    rcases hrec : link.receive s with ⟨_ | _ | e, s'⟩
    · rename_i b source
      rcases awaitReply_datagram (logged_receive_of link hrec t) with
        ⟨r, -, -, htaken⟩ | ⟨-, hdropped⟩
      · exact ⟨[.received (.datagram b source)], by rw [htaken], rfl⟩
      · obtain ⟨evs, heq, hsends⟩ :=
          ih _ (hn ▸ pending_lt_of_receive hrec) s' (t ++ [.received (.datagram b source)]) rfl
        exact ⟨.received (.datagram b source) :: evs, by rw [hdropped, heq]; simp, by simpa⟩
    · exact ⟨[.received .deadline], by rw [awaitReply_deadline (logged_receive_of link hrec t)],
        rfl⟩
    · exact ⟨[.received (.failure e)], by rw [awaitReply_failure (logged_receive_of link hrec t)],
        rfl⟩

/-- Over a link that fails nothing, a wait either takes a reply or drops what arrives until
its deadline. -/
theorem awaitReply_unfailing {s : σ} (hu : link.Henceforth link.Unfailing s)
    (t : List LinkEvent) :
    (∃ drops s', (∀ d ∈ drops, Dropped xid hw accept d) ∧ link.Reaches s s' ∧
      link.logged.awaitReply xid hw accept (s, t) =
        (.ok none, (s', t ++ drops ++ [.received .deadline]))) ∨
    ∃ r, (link.logged.awaitReply xid hw accept (s, t)).1 = .ok (some r) := by
  -- on the datagrams the link still holds, which every reception lowers
  induction hn : link.pending s using Nat.strong_induction_on generalizing s t with
  | _ n ih =>
    rcases hrec : link.receive s with ⟨_ | _ | e, s'⟩
    · rename_i b source
      have hreach := reaches_of_receive hrec
      rcases awaitReply_datagram (logged_receive_of link hrec t) with
        ⟨r, -, -, htaken⟩ | ⟨hdrop, hdropped⟩
      · exact .inr ⟨r, by rw [htaken]⟩
      · -- a dropped datagram: the wait goes on, logged after it
        rw [hdropped]
        rcases ih _ (hn ▸ pending_lt_of_receive hrec) (hu.later hreach)
          (t ++ [.received (.datagram b source)]) rfl with ⟨drops, s'', hdrops, hs'', heq⟩ | hreply
        · refine .inl ⟨.received (.datagram b source) :: drops, s'', ?_, hreach.trans hs'', ?_⟩
          · rintro d (_ | ⟨_, hd⟩)
            · exact hdrop
            · exact hdrops d hd
          · rw [heq]
            simp
        · exact .inr hreply
    · refine .inl ⟨[], s', by simp, reaches_of_receive hrec, ?_⟩
      rw [awaitReply_deadline (logged_receive_of link hrec t)]
      simp
    · exact absurd (by rw [hrec]) (hu.now.receive e)

/-- A resending sends its bytes to its destination at most `tries` times, and nothing else. -/
theorem resend_sends (c : Client) (bytes : List UInt8) (destination : Endpoint) (tries : Nat)
    (s : σ) (t : List LinkEvent) :
    ∃ evs k, (link.logged.resend c bytes destination xid accept tries (s, t)).2.2 = t ++ evs ∧
      k ≤ tries ∧ sends evs = List.replicate k (bytes, destination) := by
  -- on the tries left; each try sends once and waits once
  induction tries generalizing s t with
  | zero => exact ⟨[], 0, by simp [Link.resend], le_refl 0, rfl⟩
  | succ tries ih =>
    rcases hs : link.send bytes destination s with ⟨_ | ⟨⟩, s'⟩
    · exact ⟨[.sent bytes destination], 1, by simp [Link.resend, logged_send, hs], by omega, rfl⟩
    · obtain ⟨evs, hwait, hnone⟩ :=
        awaitReply_sends link xid c.hardware accept s' (t ++ [.sent bytes destination])
      rcases hw : link.logged.awaitReply xid c.hardware accept (s', t ++ [.sent bytes destination])
        with ⟨_ | _ | r, s'', t''⟩ <;> rw [hw] at hwait <;> dsimp only at hwait
      · exact ⟨.sent bytes destination :: evs, 1,
          by simp [Link.resend, logged_send, hs, hw, hwait], by omega, by simp [hnone]⟩
      · -- the deadline passed: the next try, logged after this one
        subst hwait
        obtain ⟨evs', k, hnext, hk, hsends⟩ := ih s'' (t ++ .sent bytes destination :: evs)
        refine ⟨.sent bytes destination :: evs ++ evs', k + 1, ?_, by omega, ?_⟩
        · simp [Link.resend, logged_send, hs, hw, hnext]
        · simp [hnone, hsends, List.replicate_succ]
      · exact ⟨.sent bytes destination :: evs, 1,
          by simp [Link.resend, logged_send, hs, hw, hwait], by omega, by simp [hnone]⟩

/-- Over a link that fails nothing, a resending either gets its reply, or sends its bytes
`tries` times, each time waiting until the deadline, and times out. -/
theorem resend_unfailing (c : Client) (bytes : List UInt8) (destination : Endpoint)
    (tries : Nat) {s : σ} (hu : link.Henceforth link.Unfailing s) (t : List LinkEvent) :
    (∃ evs s', Unanswered bytes destination xid c.hardware accept tries evs ∧ link.Reaches s s' ∧
      link.logged.resend c bytes destination xid accept tries (s, t) =
        (.error c.timeout, (s', t ++ evs))) ∨
    ∃ r, (link.logged.resend c bytes destination xid accept tries (s, t)).1 = .ok r := by
  -- on the tries left; each try sends, then its wait takes a reply or reaches the deadline
  induction tries generalizing s t with
  | zero => exact .inl ⟨[], s, .nil, .refl, by simp [Link.resend]⟩
  | succ tries ih =>
    obtain ⟨s₁, hs⟩ : ∃ s₁, link.send bytes destination s = (.ok (), s₁) :=
      ⟨_, Prod.ext (hu.now.send bytes destination) rfl⟩
    have h₁ := reaches_of_send hs
    rcases awaitReply_unfailing link xid c.hardware accept (hu.later h₁)
      (t ++ [.sent bytes destination]) with ⟨drops, s₂, hdrops, h₂, hwait⟩ | ⟨r, hr⟩
    · have h₁₂ := h₁.trans h₂
      rcases ih (hu.later h₁₂) (t ++ .sent bytes destination :: (drops ++ [.received .deadline]))
        with ⟨evs, s₃, hrest, h₃, hnext⟩ | ⟨r, hr⟩
      · refine .inl ⟨.sent bytes destination :: drops ++ .received .deadline :: evs, s₃,
          .cons hdrops hrest, h₁₂.trans h₃, ?_⟩
        simp [Link.resend, logged_send, hs, hwait, hnext]
      · exact .inr ⟨r, by simp [Link.resend, logged_send, hs, hwait, hr]⟩
    · refine .inr ⟨r, ?_⟩
      rcases hw : link.logged.awaitReply xid c.hardware accept (s₁, t ++ [.sent bytes destination])
        with ⟨res, st⟩
      rw [hw] at hr
      subst hr
      simp [Link.resend, logged_send, hs, hw]

/-- An exchange sends its message to its destination at most one more time than the retry
limit, and nothing else. -/
theorem exchange_sends (c : Client) {m : Message} (hm : m.Encodable) (destination : Endpoint)
    (s : σ) (t : List LinkEvent) :
    ∃ evs k, (link.logged.exchange c m destination accept (s, t)).2.2 = t ++ evs ∧
      k ≤ c.maxRetries.toNat + 1 ∧ sends evs = List.replicate k (m.wire, destination) := by
  unfold Link.exchange
  rw [Message.encode_eq_ok hm]
  exact resend_sends link m.xid accept c m.wire destination _ s t

/-- Over a link that fails nothing, an exchange either shows its reply in the log, or sends its
message one more time than the retry limit, each time waiting until the deadline, and times
out. -/
theorem exchange_unfailing (c : Client) {m : Message} (hm : m.Encodable) (destination : Endpoint)
    {s : σ} (hu : link.Henceforth link.Unfailing s) (t : List LinkEvent) :
    (∃ evs s', Unanswered m.wire destination m.xid c.hardware accept (c.maxRetries.toNat + 1)
        evs ∧ link.Reaches s s' ∧
      link.logged.exchange c m destination accept (s, t) = (.error c.timeout, (s', t ++ evs))) ∨
    ∃ evs r, (link.logged.exchange c m destination accept (s, t)).2.2 = t ++ evs ∧
      Exchanged m destination c.hardware accept r evs := by
  obtain ⟨evs, hrun, hshow⟩ := link.exchange_logged accept c m destination s t
  have hresend : link.logged.exchange c m destination accept (s, t) =
      link.logged.resend c m.wire destination m.xid accept (c.maxRetries.toNat + 1) (s, t) := by
    unfold Link.exchange
    rw [Message.encode_eq_ok hm]
  rcases resend_unfailing link m.xid accept c m.wire destination _ hu t with
    ⟨evs', s', hun, hs', heq⟩ | ⟨r, hr⟩
  · exact .inl ⟨evs', s', hun, hs', hresend.trans heq⟩
  · -- the logged exchange returns what the exchange returns, so its reply shows in its log
    have hreply : (link.exchange c m destination accept s).1 = .ok r := by
      rw [← hr, ← hresend, hrun]
    exact .inr ⟨evs, r, by rw [hrun], hshow r hreply⟩

end Logged

/-- A run of a script ends in a state its link reaches. -/
theorem reaches_run {α : Type} (link : Link σ) (p : Script α) (s : σ) :
    link.Reaches s (p.run link s).2 := by
  induction p generalizing s with
  | pure a => exact .refl
  | send c bytes destination next ih =>
    rw [Script.run_send]
    exact (Reaches.send bytes destination .refl).trans (ih _ _)
  | await c xid accept next ih =>
    rw [Script.run_await]
    exact (awaitReply_reaches link xid c.hardware accept s).trans (ih _ _)

/-- What a logged run of a script records receiving, its link delivered in a state it reaches. -/
theorem received_run {α : Type} (link : Link σ) (p : Script α) (s : σ) {r : Reception}
    (h : .received r ∈ (p.run link.logged (s, [])).2.2) :
    ∃ u, link.Reaches s u ∧ (link.receive u).1 = r := by
  obtain ⟨-, evs, heq, hdelivered⟩ := (reaches_run link.logged p (s, [])).logged
  rw [heq, List.nil_append] at h
  exact hdelivered r h

end Link

namespace Client

/-- `evs` shows `n` acquisition attempts by a client of hardware address `hw` that draws its
transaction ids from `random` and has drawn `k` of them: each attempt draws the next id and sends
its DISCOVER to `server` `tries` times, each time waiting until the deadline with no OFFER for
that id arriving. -/
inductive Unoffered (hw : HardwareAddress) (server : Endpoint) (maxSize : UInt16) (tries : Nat)
    (random : Nat → UInt32) : Nat → Nat → List LinkEvent → Prop
  | nil (k : Nat) : Unoffered hw server maxSize tries random 0 k []
  | cons {n k : Nat} {evs rest : List LinkEvent}
      (attempt : Link.Unanswered (Message.discover hw (random k) maxSize).wire server (random k)
        hw (· == .offer) tries evs)
      (later : Unoffered hw server maxSize tries random n (k + 1) rest) :
      Unoffered hw server maxSize tries random (n + 1) k (evs ++ rest)

/-- The attempts' DISCOVERs, in order: `tries` copies each, under the ids drawn at positions
`k`, `k + 1`, … of the source. -/
theorem Unoffered.sends {hw : HardwareAddress} {server : Endpoint} {maxSize : UInt16}
    {tries : Nat} {random : Nat → UInt32} {n k : Nat} {evs : List LinkEvent}
    (h : Unoffered hw server maxSize tries random n k evs) :
    LinkEvent.sends evs = ((List.range' k n).map random).flatMap fun y =>
      List.replicate tries ((Message.discover hw y maxSize).wire, server) := by
  induction h with
  | nil k => rfl
  | cons attempt _ ih =>
    rw [sends_append, attempt.sends, ih, List.range'_succ, List.map_cons, List.flatMap_cons]

/-- The id a client draws, named, so that proofs keep it a variable and never unfold the
draw. -/
theorem exists_drawXid (c : Client) :
    ∃ x, x = c.random c.draws ∧ c.drawXid = (x, { c with draws := c.draws + 1, lastXid := x }) :=
  ⟨_, rfl, rfl⟩

theorem attempts_pos (c : Client) : 0 < c.attempts :=
  Nat.lt_min.mpr ⟨Nat.succ_pos _, by decide⟩

variable {σ : Type} (link : Link σ)

/-- An attempt's log is its DISCOVER exchange's log followed by the rest of the attempt, each
part sending at most one more time than the retry limit. -/
theorem tryAcquire_log (c : Client) (xid : UInt32) (s : σ) (t : List LinkEvent) :
    ∃ evs₁ evs₂, (link.logged.exchange { c with phase := .selecting, lease := none }
        (.discover c.hardware xid c.maxMessageSize) c.server (· == .offer) (s, t)).2.2 =
          t ++ evs₁ ∧
      (tryAcquire link.logged c xid (s, t)).link.2 = t ++ evs₁ ++ evs₂ ∧
      (sends evs₁).length ≤ c.maxRetries.toNat + 1 ∧
      (sends evs₂).length ≤ c.maxRetries.toNat + 1 := by
  obtain ⟨evs₁, k₁, hx₁, hk₁, hs₁⟩ := link.exchange_sends (· == .offer)
    { c with phase := .selecting, lease := none }
    (Message.encodable_discover c.hardware xid c.maxMessageSize) c.server s t
  have hlen₁ : (sends evs₁).length ≤ c.maxRetries.toNat + 1 := by
    rw [hs₁, List.length_replicate]
    exact hk₁
  refine ⟨evs₁, ?_⟩
  simp only [tryAcquire]
  rcases h₁ : link.logged.exchange { c with phase := .selecting, lease := none }
    (.discover c.hardware xid c.maxMessageSize) c.server (· == .offer) (s, t) with
    ⟨_ | offer, s₁, t₁⟩ <;> rw [h₁] at hx₁ <;> dsimp only at hx₁ ⊢
  · exact ⟨[], hx₁, by simp [hx₁], hlen₁, by simp⟩
  · rcases offer.options.serverIdentifier with e | identifier <;> dsimp only
    · exact ⟨[], hx₁, by simp [hx₁], hlen₁, by simp⟩
    · -- the REQUEST exchange, logged after the DISCOVER one
      obtain ⟨evs₂, k₂, hx₂, hk₂, hs₂⟩ := link.exchange_sends MessageKind.answersRequest
        { c with phase := .requesting, lease := none }
        (Message.encodable_request c.hardware xid offer.yiaddr (identifier.getD offer.siaddr)
          .unspecified) c.server s₁ t₁
      have hlen₂ : (sends evs₂).length ≤ c.maxRetries.toNat + 1 := by
        rw [hs₂, List.length_replicate]
        exact hk₂
      rcases h₂ : link.logged.exchange { c with phase := .requesting, lease := none }
        (.request c.hardware xid offer.yiaddr (identifier.getD offer.siaddr) .unspecified)
        c.server MessageKind.answersRequest (s₁, t₁) with ⟨_ | reply, s₂, t₂⟩ <;>
        rw [h₂] at hx₂ <;> dsimp only at hx₂ ⊢
      all_goals exact ⟨evs₂, hx₁, by rw [hx₂, hx₁], hlen₁, hlen₂⟩

/-- An acquisition attempt sends at most twice one more than the retry limit. -/
theorem tryAcquire_sends (c : Client) (xid : UInt32) (s : σ) (t : List LinkEvent) :
    ∃ evs, (tryAcquire link.logged c xid (s, t)).link.2 = t ++ evs ∧
      (sends evs).length ≤ 2 * (c.maxRetries.toNat + 1) := by
  obtain ⟨evs₁, evs₂, -, hlog, hlen₁, hlen₂⟩ := tryAcquire_log link c xid s t
  refine ⟨evs₁ ++ evs₂, by rw [hlog, List.append_assoc], ?_⟩
  rw [sends_append, List.length_append]
  omega

/-- Acquisition with `restarts` restarts left runs at most `restarts + 1` attempts. -/
theorem acquireWithin_sends (restarts : Nat) (c : Client) (s : σ) (t : List LinkEvent) :
    ∃ evs, (acquireWithin link.logged restarts c (s, t)).link.2 = t ++ evs ∧
      (sends evs).length ≤ (restarts + 1) * (2 * (c.maxRetries.toNat + 1)) := by
  -- on the restarts left; an attempt keeps the retry limit, so every attempt has one bound
  induction restarts generalizing c s t with
  | zero =>
    obtain ⟨x, -, hdraw⟩ := exists_drawXid c
    obtain ⟨evs, htry, hlen⟩ :=
      tryAcquire_sends link { c with draws := c.draws + 1, lastXid := x } x s t
    have hlen' : (sends evs).length ≤ 2 * (c.maxRetries.toNat + 1) := hlen
    rcases hres : tryAcquire link.logged { c with draws := c.draws + 1, lastXid := x } x (s, t)
      with ⟨_ | held, c'', s', t'⟩ <;> rw [hres] at htry <;> dsimp only at htry
    · rw [acquireWithin_zero_error link.logged hdraw hres]
      exact ⟨evs, htry, by omega⟩
    · rw [acquireWithin_ok link.logged hdraw hres]
      exact ⟨evs, htry, by omega⟩
  | succ restarts ih =>
    obtain ⟨x, -, hdraw⟩ := exists_drawXid c
    obtain ⟨evs, htry, hlen⟩ :=
      tryAcquire_sends link { c with draws := c.draws + 1, lastXid := x } x s t
    have hlen' : (sends evs).length ≤ 2 * (c.maxRetries.toNat + 1) := hlen
    rcases hres : tryAcquire link.logged { c with draws := c.draws + 1, lastXid := x } x (s, t)
      with ⟨_ | held, c'', s', t'⟩ <;> rw [hres] at htry <;> dsimp only at htry
    · -- a failed attempt leaves a client of the same retry limit for the next one
      obtain ⟨ph, hc⟩ := tryAcquire_error_client link.logged
        (show (tryAcquire link.logged _ x (s, t)).result = _ by rw [hres])
      rw [hres] at hc
      have hretries : c''.maxRetries = c.maxRetries := by
        subst hc
        rfl
      rw [acquireWithin_succ_error link.logged hdraw hres]
      obtain ⟨evs', hnext, hlen''⟩ := ih c'' s' t'
      rw [hretries] at hlen''
      refine ⟨evs ++ evs', by rw [hnext, htry, List.append_assoc], ?_⟩
      rw [sends_append, List.length_append, Nat.add_one_mul (restarts + 1)]
      omega
    · rw [acquireWithin_ok link.logged hdraw hres]
      refine ⟨evs, htry, ?_⟩
      rw [Nat.add_one_mul (restarts + 1)]
      omega

/-- Over a link that fails nothing, an attempt either shows an OFFER for its DISCOVER in its
log, or sends its DISCOVER one more time than the retry limit, each time waiting until the
deadline, and times out. -/
theorem tryAcquire_unfailing (c : Client) (xid : UInt32) {s : σ}
    (hu : link.Henceforth link.Unfailing s) (t : List LinkEvent) :
    (∃ evs s', Link.Unanswered (Message.discover c.hardware xid c.maxMessageSize).wire c.server
        xid c.hardware (· == .offer) (c.maxRetries.toNat + 1) evs ∧ link.Reaches s s' ∧
      tryAcquire link.logged c xid (s, t) =
        ⟨.error c.timeout, { c with phase := .selecting, lease := none }, (s', t ++ evs)⟩) ∨
    ∃ evs, (tryAcquire link.logged c xid (s, t)).link.2 = t ++ evs ∧
      Link.Answered (.discover c.hardware xid c.maxMessageSize) c.server c.hardware (· == .offer)
        evs := by
  rcases link.exchange_unfailing (· == .offer) { c with phase := .selecting, lease := none }
    (Message.encodable_discover c.hardware xid c.maxMessageSize) c.server hu t with
    ⟨evs, s', hevs, hs', hx⟩ | ⟨evs, r, hx, hoffer⟩
  · refine .inl ⟨evs, s', hevs, hs', ?_⟩
    simp only [tryAcquire]
    rw [hx]
    rfl
  · -- the OFFER shows in the DISCOVER exchange's log, which the attempt's log begins with
    obtain ⟨evs₁, evs₂, hx₁, hlog, -, -⟩ := tryAcquire_log link c xid s t
    rw [hx, List.append_cancel_left_eq] at hx₁
    subst hx₁
    exact .inr ⟨evs ++ evs₂, by rw [hlog, List.append_assoc], hoffer.answered.append evs₂⟩

/-- Over a link that fails nothing, an acquisition either shows in its log a DISCOVER answered
by an OFFER, or runs all its attempts, each under the next id drawn and timing out, and fails
with the last attempt's timeout. -/
theorem acquireWithin_unfailing (restarts : Nat) (c : Client) {s : σ}
    (hu : link.Henceforth link.Unfailing s) (t : List LinkEvent) :
    (∃ evs s', Unoffered c.hardware c.server c.maxMessageSize (c.maxRetries.toNat + 1) c.random
        (restarts + 1) c.draws evs ∧
      (acquireWithin link.logged restarts c (s, t)).result =
        .error (.acquisitionFailed c.attempts c.timeout) ∧
      (acquireWithin link.logged restarts c (s, t)).link = (s', t ++ evs)) ∨
    ∃ evs, (acquireWithin link.logged restarts c (s, t)).link.2 = t ++ evs ∧
      ∃ x, Link.Answered (.discover c.hardware x c.maxMessageSize) c.server c.hardware
        (· == .offer) evs := by
  -- on the restarts left; attempt `i` draws the id at position `c.draws + i` of the source
  induction restarts generalizing c s t with
  | zero =>
    obtain ⟨x, hx, hdraw⟩ := exists_drawXid c
    rcases tryAcquire_unfailing link { c with draws := c.draws + 1, lastXid := x } x hu t with
      ⟨evs, s', hevs, -, htry⟩ | ⟨evs, hlog, hoffer⟩
    · dsimp only at hevs
      rw [hx] at hevs
      refine .inl ⟨evs ++ [], s', .cons hevs (.nil _), ?_⟩
      rw [acquireWithin_zero_error link.logged hdraw htry, List.append_nil]
      exact ⟨rfl, rfl⟩
    · -- an OFFER arrived: whatever the attempt ended with, its log is the acquisition's
      refine .inr ⟨evs, ?_, x, hoffer⟩
      rcases hres : tryAcquire link.logged { c with draws := c.draws + 1, lastXid := x } x (s, t)
        with ⟨_ | held, c'', s', t'⟩ <;> rw [hres] at hlog
      · rw [acquireWithin_zero_error link.logged hdraw hres]
        exact hlog
      · rw [acquireWithin_ok link.logged hdraw hres]
        exact hlog
  | succ restarts ih =>
    obtain ⟨x, hx, hdraw⟩ := exists_drawXid c
    rcases tryAcquire_unfailing link { c with draws := c.draws + 1, lastXid := x } x hu t with
      ⟨evs, s', hevs, hs', htry⟩ | ⟨evs, hlog, hoffer⟩
    · rw [acquireWithin_succ_error link.logged hdraw htry]
      rcases ih { c with draws := c.draws + 1, lastXid := x, phase := .selecting, lease := none }
        (hu.later hs') (t ++ evs) with ⟨evs', s'', hrest, hres, hlink⟩ | ⟨evs', hlog', x', hoffer'⟩
      · dsimp only at hevs hrest
        rw [hx] at hevs
        refine .inl ⟨evs ++ evs', s'', .cons hevs hrest, ?_⟩
        rw [hres, hlink, List.append_assoc]
        exact ⟨rfl, rfl⟩
      · exact .inr ⟨evs ++ evs', by rw [hlog', List.append_assoc], x', hoffer'.prepend evs⟩
    · -- an OFFER arrived: the acquisition's log begins with this attempt's
      rcases hres : tryAcquire link.logged { c with draws := c.draws + 1, lastXid := x } x (s, t)
        with ⟨_ | held, c'', s', t'⟩ <;> rw [hres] at hlog <;> dsimp only at hlog
      · rw [acquireWithin_succ_error link.logged hdraw hres]
        obtain ⟨evs', hnext, -⟩ := acquireWithin_sends link restarts c'' s' t'
        exact .inr ⟨evs ++ evs', by rw [hnext, hlog, List.append_assoc], x,
          hoffer.append evs'⟩
      · rw [acquireWithin_ok link.logged hdraw hres]
        exact .inr ⟨evs, hlog, x, hoffer⟩

/-- A renewal of a held lease leaves the link as its REQUEST exchange leaves it. -/
theorem renew_link_of_held {c : Client} {held : ClientLease} (hlease : c.lease = some held)
    {x : UInt32} (hdraw : c.drawXid = (x, { c with draws := c.draws + 1, lastXid := x }))
    (server : Ipv4) (s : σ) (t : List LinkEvent) :
    (renew link.logged c server (s, t)).link =
      (link.logged.exchange { c with draws := c.draws + 1, lastXid := x, phase := .requesting }
        (.request c.hardware x held.address server held.address)
        ({ c with draws := c.draws + 1, lastXid := x, phase := .requesting }.destinationFor server)
        MessageKind.answersRequest (s, t)).2 := by
  unfold renew
  rw [hlease]
  dsimp only
  rw [hdraw]
  dsimp only
  -- the drawn client brings `c.lease` back into the exchange: name it as the statement does
  rw [← hlease]
  rcases link.logged.exchange _ _ _ _ (s, t) with ⟨_ | reply, st⟩ <;> dsimp only
  · split <;> rfl
  · rcases Client.bindReply _ reply server held.address with ⟨_ | l, c''⟩ <;> dsimp only
    split <;> rfl

/-- A renewal of a held lease runs one exchange of its REQUEST: it sends that REQUEST at most
one more time than the retry limit, and nothing else. -/
theorem renew_sends {c : Client} {held : ClientLease} (hlease : c.lease = some held)
    (server : Ipv4) (s : σ) (t : List LinkEvent) :
    ∃ evs k, (renew link.logged c server (s, t)).link.2 = t ++ evs ∧
      k ≤ c.maxRetries.toNat + 1 ∧
      sends evs = List.replicate k ((Message.request c.hardware (c.random c.draws) held.address
        server held.address).wire, c.destinationFor server) := by
  obtain ⟨x, hx, hdraw⟩ := exists_drawXid c
  obtain ⟨evs, k, hx₁, hk, hs⟩ := link.exchange_sends MessageKind.answersRequest
    { c with draws := c.draws + 1, lastXid := x, phase := .requesting }
    (Message.encodable_request c.hardware x held.address server held.address)
    ({ c with draws := c.draws + 1, lastXid := x, phase := .requesting }.destinationFor server) s t
  refine ⟨evs, k, ?_, hk, by rw [← hx]; exact hs⟩
  rw [renew_link_of_held link hlease hdraw, hx₁]

/-- Over a link that fails nothing, a renewal of a held lease either shows an ACK or NAK for
its REQUEST in its log, or sends that REQUEST one more time than the retry limit, each time
waiting until the deadline, and times out. -/
theorem renew_unfailing {c : Client} {held : ClientLease} (hlease : c.lease = some held)
    (server : Ipv4) {s : σ} (hu : link.Henceforth link.Unfailing s) (t : List LinkEvent) :
    (∃ evs s', Link.Unanswered (Message.request c.hardware (c.random c.draws) held.address server
        held.address).wire (c.destinationFor server) (c.random c.draws) c.hardware
        MessageKind.answersRequest (c.maxRetries.toNat + 1) evs ∧
      (renew link.logged c server (s, t)).result = .error c.timeout ∧
      (renew link.logged c server (s, t)).link = (s', t ++ evs)) ∨
    ∃ evs, (renew link.logged c server (s, t)).link.2 = t ++ evs ∧
      Link.Answered (.request c.hardware (c.random c.draws) held.address server held.address)
        (c.destinationFor server) c.hardware MessageKind.answersRequest evs := by
  obtain ⟨x, hx, hdraw⟩ := exists_drawXid c
  rw [← hx]
  rcases link.exchange_unfailing MessageKind.answersRequest
    { c with draws := c.draws + 1, lastXid := x, phase := .requesting }
    (Message.encodable_request c.hardware x held.address server held.address)
    ({ c with draws := c.draws + 1, lastXid := x, phase := .requesting }.destinationFor server) hu t
    with ⟨evs, s', hevs, -, hx₁⟩ | ⟨evs, r, hx₁, hack⟩
  · refine .inl ⟨evs, s', hevs, ?_, by rw [renew_link_of_held link hlease hdraw, hx₁]⟩
    unfold renew
    rw [hlease]
    dsimp only
    rw [hdraw]
    dsimp only
    rw [hx₁]
    rfl
  · exact .inr ⟨evs, by rw [renew_link_of_held link hlease hdraw, hx₁], hack.answered⟩

/-- What an acquisition logs was delivered by its link, in a state the link reaches. -/
theorem received_acquireLog {c : Client} {s : σ} {r : Reception}
    (h : .received r ∈ acquireLog link c s) : ∃ u, link.Reaches s u ∧ (link.receive u).1 = r := by
  refine Link.received_run link (Script.acquire c) s ?_
  rwa [Script.run_acquire]

/-- What a renewal logs was delivered by its link, in a state the link reaches. -/
theorem received_renewLog {c : Client} {server : Ipv4} {s : σ} {r : Reception}
    (h : .received r ∈ renewLog link c server s) :
    ∃ u, link.Reaches s u ∧ (link.receive u).1 = r := by
  refine Link.received_run link (Script.renew c server) s ?_
  rwa [Script.run_renew]

/-- What one acquisition and one renewal by `c` over `link` from state `s` send, and how they
end when nothing answers them. -/
structure SendBounds (link : Link σ) (c : Client) (s : σ) : Prop where
  /-- An acquisition sends at most `attempts · 2 · (maxRetries + 1)` datagrams. -/
  acquireAtMost :
    (sends (acquireLog link c s)).length ≤ c.attempts * 2 * (c.maxRetries.toNat + 1)
  /-- A renewal of a held lease sends its REQUEST, at most `maxRetries + 1` times. -/
  renewAtMost : ∀ server held, c.lease = some held → ∃ k ≤ c.maxRetries.toNat + 1,
    sends (renewLog link c server s) = List.replicate k ((Message.request c.hardware
      (c.random c.draws) held.address server held.address).wire, c.destinationFor server)
  /-- A renewal without a lease sends nothing. -/
  renewUnbound : ∀ server, c.lease = none → renewLog link c server s = []
  /-- Over a link that fails nothing, an acquisition whose log shows no DISCOVER answered by an
  OFFER fails after all its attempts, having sent each attempt's DISCOVER `maxRetries + 1`
  times, each time waiting until the deadline, under the next id drawn from the source. -/
  acquireUnoffered : link.Henceforth link.Unfailing s →
    (¬ ∃ x, Link.Answered (.discover c.hardware x c.maxMessageSize) c.server c.hardware
      (· == .offer) (acquireLog link c s)) →
    (acquire link c s).result =
        .error (.acquisitionFailed c.attempts (.timeout c.replyTimeoutMillis)) ∧
      Unoffered c.hardware c.server c.maxMessageSize (c.maxRetries.toNat + 1) c.random c.attempts
        c.draws (acquireLog link c s) ∧
      sends (acquireLog link c s) =
        ((List.range' c.draws c.attempts).map c.random).flatMap (fun y =>
          List.replicate (c.maxRetries.toNat + 1)
            ((Message.discover c.hardware y c.maxMessageSize).wire, c.server))
  /-- Over a link that fails nothing, a renewal of a held lease whose log shows no ACK or NAK
  for its REQUEST sends that REQUEST `maxRetries + 1` times, each time waiting until the
  deadline, and times out. -/
  renewUnanswered : ∀ server held, c.lease = some held → link.Henceforth link.Unfailing s →
    (¬ Link.Answered (.request c.hardware (c.random c.draws) held.address server held.address)
      (c.destinationFor server) c.hardware MessageKind.answersRequest (renewLog link c server s)) →
    (renew link c server s).result = .error (.timeout c.replyTimeoutMillis) ∧
      Link.Unanswered (Message.request c.hardware (c.random c.draws) held.address server
        held.address).wire (c.destinationFor server) (c.random c.draws) c.hardware
        MessageKind.answersRequest (c.maxRetries.toNat + 1) (renewLog link c server s)

/-- **Retries are bounded.** Over any link, one acquisition sends at most
`attempts · 2 · (maxRetries + 1)` datagrams and one renewal at most `maxRetries + 1`, all of them
its REQUEST. When nothing fails and nothing answers, both bounds are reached: the acquisition
sends `maxRetries + 1` copies of a DISCOVER per attempt, each attempt under the next id drawn
from the client's source and each copy followed by a wait to the deadline, and fails after
`attempts` attempts with the reply timeout; the renewal sends `maxRetries + 1` copies of its
REQUEST and times out. -/
theorem client_retry_bounds (link : Link σ) (c : Client) (s : σ) : c.SendBounds link s := by
  have hA : c.attempts - 1 + 1 = c.attempts := Nat.sub_add_cancel (attempts_pos c)
  obtain ⟨evs, hacq, -⟩ := acquire_logged link c s []
  have hresult : (acquire link c s).result = (acquire link.logged c (s, [])).result := by
    rw [hacq]
  refine ⟨?_, fun server held hlease => ?_, fun server hlease => ?_, fun hu hoffer => ?_,
    fun server held hlease hu hack => ?_⟩
  · obtain ⟨evs, hlog, hlen⟩ := acquireWithin_sends link (c.attempts - 1) c s []
    rw [acquireLog, acquire, hlog, List.nil_append, Nat.mul_assoc]
    rwa [hA] at hlen
  · obtain ⟨evs, k, hlog, hk, hsends⟩ := renew_sends link hlease server s []
    exact ⟨k, hk, by rw [renewLog, hlog, List.nil_append, hsends]⟩
  · rw [renewLog, renew_of_lease_none link.logged hlease]
  · rcases acquireWithin_unfailing link (c.attempts - 1) c hu [] with
      ⟨evs, s', hevs, hres, hlink⟩ | ⟨evs, hlink, hanswered⟩
    · rw [hA] at hevs
      have hlog : acquireLog link c s = evs := by
        rw [acquireLog, acquire, hlink, List.nil_append]
      rw [hlog]
      exact ⟨hresult.trans hres, hevs, hevs.sends⟩
    · -- the log shows an OFFER, which the hypothesis rules out
      refine absurd ?_ hoffer
      rwa [acquireLog, acquire, hlink, List.nil_append]
  · obtain ⟨evs', hren, -⟩ := renew_logged link c server s []
    rcases renew_unfailing link hlease server hu [] with
      ⟨evs, s', hevs, hres, hlink⟩ | ⟨evs, hlink, hanswered⟩
    · have hlog : renewLog link c server s = evs := by
        rw [renewLog, hlink, List.nil_append]
      rw [hren] at hres
      exact ⟨hres, hlog ▸ hevs⟩
    · refine absurd ?_ hack
      rwa [renewLog, hlink, List.nil_append]

end Client

/-- A link that holds `n` datagrams too short to read and delivers one per wait, the deadlines
passing once it has none left; every sending goes out. -/
def strayLink : Link Nat where
  send _ _ n := (.ok (), n)
  receive n := if n = 0 then (.deadline, 0) else (.datagram [] (.v4 .unspecified 67), n - 1)
  pending n := n
  pending_receive := by
    intro n bytes source h
    by_cases hn : n = 0
    · simp [hn] at h
    · simp only [hn, if_false]
      omega

/-- A client of three attempts that sends each message twice. -/
def patientClient : Client := { cycleClient with maxRetries := 1, maxRestarts := 2 }

/-- `strayLink` fails no sending and no wait. -/
theorem strayLink_unfailing (n : Nat) : strayLink.Henceforth strayLink.Unfailing n :=
  fun t _ => ⟨fun _ _ => rfl, fun e h => by by_cases ht : t = 0 <;> simp [strayLink, ht] at h⟩

/-- What `strayLink` delivers never reads as a message. -/
theorem strayLink_undecodable {t : Nat} {b : List UInt8} {source : Endpoint}
    (h : (strayLink.receive t).1 = .datagram b source) (r : Message) :
    Message.decode b ≠ .ok r := by
  by_cases ht : t = 0
  · simp [strayLink, ht] at h
  · simp only [strayLink, ht, if_false, Reception.datagram.injEq] at h
    rw [← h.1]
    intro hdec
    cases hdec

/-- A log of what `strayLink` delivered shows no answer to anything. -/
theorem strayLink_answers_nothing {n : Nat} {m : Message} {destination : Endpoint}
    {hw : HardwareAddress} {accept : MessageKind → Bool} {evs : List LinkEvent}
    (h : ∀ r, .received r ∈ evs → ∃ u, strayLink.Reaches n u ∧ (strayLink.receive u).1 = r) :
    ¬ Link.Answered m destination hw accept evs := by
  intro hans
  obtain ⟨b, source, r, hmem, hdec, -⟩ := hans.received
  obtain ⟨u, -, hu⟩ := h _ hmem
  exact strayLink_undecodable hu r hdec

open Client in
/-- Two stray datagrams and no reply: an acquisition by `patientClient` fails after its three
attempts, having sent six DISCOVERs, and its renewal of a lease times out. -/
theorem client_retry_bounds_stray :
    strayLink.Henceforth strayLink.Unfailing 2 ∧
      (¬ ∃ x, Link.Answered (.discover patientClient.hardware x patientClient.maxMessageSize)
        patientClient.server patientClient.hardware (· == .offer)
        (acquireLog strayLink patientClient 2)) ∧
      (acquire strayLink patientClient 2).result =
        .error (.acquisitionFailed 3 (.timeout 1000)) ∧
      (sends (acquireLog strayLink patientClient 2)).length = 6 ∧
      (renew strayLink { patientClient with lease := some ⟨.ofNat 5, .ofNat 1, 3600⟩ } (.ofNat 1)
        2).result = .error (.timeout 1000) := by
  -- nothing in either log reads as a message, so nothing answers
  have hoffer : ¬ ∃ x, Link.Answered (.discover patientClient.hardware x
      patientClient.maxMessageSize) patientClient.server patientClient.hardware (· == .offer)
      (acquireLog strayLink patientClient 2) := by
    rintro ⟨x, hans⟩
    exact strayLink_answers_nothing (fun _ hr => received_acquireLog strayLink hr) hans
  obtain ⟨hres, -, hsends⟩ :=
    (client_retry_bounds strayLink patientClient 2).acquireUnoffered (strayLink_unfailing 2) hoffer
  have hrenew := ((client_retry_bounds strayLink
    { patientClient with lease := some ⟨.ofNat 5, .ofNat 1, 3600⟩ } 2).renewUnanswered (.ofNat 1)
    _ rfl (strayLink_unfailing 2)
    (strayLink_answers_nothing fun _ hr => received_renewLog strayLink hr)).1
  refine ⟨strayLink_unfailing 2, hoffer, hres, ?_, hrenew⟩
  rw [hsends, List.length_flatMap]
  simp only [List.length_replicate]
  decide

end AddressLeasing
