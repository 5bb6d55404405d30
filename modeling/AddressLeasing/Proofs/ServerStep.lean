import AddressLeasing.Proofs.PoolInvariant
import AddressLeasing.Proofs.OptionRegion
import AddressLeasing.Server.Run
/-!
# What one step of a server can do

A running server meets two kinds of event: a datagram arrives, or the expiry sweep runs. Over
the handling of a datagram, the dispatcher has many branches (the direction, the hardware
address, the RELEASE shape, the kind, the server identifier, the requested address, the
commit's checks), but what they can do to the pool comes to three things:

> nothing; a release of the sender's lease; or a commit that the reply acknowledges.

`handleMessage_cases` says that once, and every later proof about the pool cites it rather
than the dispatcher. A grant is told by what the client sees: an ACK for its hardware address
(`Grants`). The other side of the reply is that no branch but the commit answers with an ACK,
because every reply names the kind it was built as (`Message.kind_reply`).

The accept loop of `Server.Run` and the sweeper are runs of these steps (`operate_eq_run`,
`sweepFor_eq_run`), so what holds along every run holds of them.
-/

set_option autoImplicit false

namespace AddressLeasing

namespace Server

variable {s : Server} {now : Int} {m : Message} {hd : Handling}

/-! ## The dispatcher, inverted -/

/-- The answer to a DISCOVER leaves the pool alone, and is silence or an OFFER. -/
theorem discover_eq_ok (h : s.discover m = .ok hd) :
    hd.pool = s.pool ∧
      (hd.reply = none ∨ ∃ a, hd.reply = some (m.offer a s.config.serverIp
        s.config.leaseDurationSeconds)) := by
  unfold discover at h
  split at h
  · rw [pure_eq_ok_iff] at h
    subst h
    exact ⟨rfl, .inl rfl⟩
  obtain ⟨requested, -, h⟩ := bind_eq_ok_iff.mp h
  rw [pure_eq_ok_iff] at h
  subst h
  split
  · exact ⟨rfl, .inr ⟨_, rfl⟩⟩
  · exact ⟨rfl, .inl rfl⟩
  · exact ⟨rfl, .inl rfl⟩

/-- The address a REQUEST names: option 50, else `ciaddr`, each only when it is not zero. -/
def RequestsAddress (m : Message) (a : Ipv4) : Prop :=
  ∃ req, m.options.requestedAddress = .ok req ∧ (given req).or (given (some m.ciaddr)) = some a

/-- The answer to a REQUEST either leaves the pool alone, with silence or a NAK, or is a commit
of the address the request names, acknowledged with an ACK of the committed record. -/
theorem request_eq_ok (h : s.request now m = .ok hd) :
    (hd.pool = s.pool ∧ (hd.reply = none ∨ hd.reply = some (m.nak s.config.serverIp))) ∨
    ∃ a r, RequestsAddress m a ∧ s.pool.commit m.chaddr a now s.leaseMillis = .ok (hd.pool, r) ∧
      hd.reply = some (m.ack r.address s.config.serverIp s.config.leaseDurationSeconds) := by
  unfold request at h
  obtain ⟨sid, -, h⟩ := bind_eq_ok_iff.mp h
  split at h
  split at h
  case h_1.isTrue =>
    rw [pure_eq_ok_iff] at h
    subst h
    exact .inl ⟨rfl, .inl rfl⟩
  -- Past the server check, both ways run the same address step.
  all_goals
    obtain ⟨requested, hrequested, h⟩ := bind_eq_ok_iff.mp h
    split at h
    · rw [pure_eq_ok_iff] at h
      subst h
      exact .inl ⟨rfl, .inr rfl⟩
    · rename_i a hnamed
      split at h
      · rename_i granted
        rw [pure_eq_ok_iff] at h
        subst h
        exact .inr ⟨_, _, ⟨requested, hrequested, hnamed⟩, granted, rfl⟩
      all_goals first
        | (rw [pure_eq_ok_iff] at h; subst h; exact .inl ⟨rfl, .inr rfl⟩)
        | cases h

/-- **What handling a message can do.** It leaves the pool alone and sends no ACK; or it takes
a RELEASE from a client with a hardware address and ends that client's lease, sending nothing;
or it commits the address the sender names to it and acknowledges the committed record. -/
theorem handleMessage_cases (h : s.handleMessage now m = .ok hd) :
    (hd.pool = s.pool ∧ ∀ r, hd.reply = some r → r.kind ≠ .ok (some .ack)) ∨
    (m.isRelease = true ∧ m.chaddr.isEmpty = false ∧
      hd.pool = (s.pool.release m.chaddr now).1 ∧ hd.reply = none) ∨
    ∃ a r, RequestsAddress m a ∧ s.pool.commit m.chaddr a now s.leaseMillis = .ok (hd.pool, r) ∧
      hd.reply = some (m.ack r.address s.config.serverIp s.config.leaseDurationSeconds) := by
  have silent (h : pure s.silent = (.ok hd : Except Error Handling)) :
      hd.pool = s.pool ∧ ∀ r, hd.reply = some r → r.kind ≠ .ok (some .ack) := by
    rw [pure_eq_ok_iff] at h
    subst h
    exact ⟨rfl, fun r hr => by cases hr⟩
  unfold handleMessage at h
  split at h
  · exact .inl (silent h)
  rename_i haddressed
  split at h
  · rw [pure_eq_ok_iff] at h
    subst h
    simp only [bne_iff_ne, ne_eq, Bool.or_eq_true, not_or, Bool.not_eq_true] at haddressed
    exact .inr (.inl ⟨‹_›, haddressed.2, rfl, rfl⟩)
  obtain ⟨k, -, h⟩ := bind_eq_ok_iff.mp h
  split at h
  · obtain ⟨hpool, hreply⟩ := discover_eq_ok h
    refine .inl ⟨hpool, fun r hr => ?_⟩
    rcases hreply with hnone | ⟨a, hoffer⟩
    · rw [hnone] at hr
      cases hr
    · rw [hoffer] at hr
      cases hr
      simp
  · rcases request_eq_ok h with ⟨hpool, hreply⟩ | hgrant
    · refine .inl ⟨hpool, fun r hr => ?_⟩
      rcases hreply with hnone | hnak
      · rw [hnone] at hr
        cases hr
      · rw [hnak] at hr
        cases hr
        simp
    · exact .inr (.inr hgrant)
  · exact .inl (silent h)

/-- A RELEASE ends the lease of the client that sent it, and is not answered. -/
theorem handleMessage_of_isRelease (hr : m.isRelease = true) :
    s.handleMessage now m =
      .ok ⟨if m.chaddr.isEmpty then s.pool else (s.pool.release m.chaddr now).1, none, some 0⟩ := by
  have hop : m.op = .request := by
    simp only [Message.isRelease, Bool.and_eq_true, beq_iff_eq] at hr
    exact hr.1
  unfold handleMessage
  by_cases he : m.chaddr.isEmpty = true
  · simp [hop, he, silent]
    rfl
  · simp [hop, he, hr]
    rfl

theorem handleDatagram_eq_ok {bytes : List UInt8} {source : Endpoint} {out : Option Outbound}
    (h : s.handleDatagram now bytes source = .ok (hd, out)) :
    ∃ m, Message.decode bytes = .ok m ∧ s.handleMessage now m = .ok hd := by
  unfold handleDatagram at h
  obtain ⟨m, hm, h⟩ := bind_eq_ok_iff.mp h
  obtain ⟨hd', hh, h⟩ := bind_eq_ok_iff.mp h
  refine ⟨m, hm, ?_⟩
  split at h
  · rw [pure_eq_ok_iff] at h
    cases h
    exact hh
  · obtain ⟨bytes', -, h⟩ := bind_eq_ok_iff.mp h
    rw [pure_eq_ok_iff] at h
    cases h
    exact hh

/-! ## Events, steps and runs -/

/-- What happens to a running server: a datagram from `source` arrives at time `now`, or the
expiry sweep runs at `now`. -/
inductive Event where
  | datagram (now : Int) (bytes : List UInt8) (source : Endpoint)
  | sweep (now : Int)

/-- When the event happens. -/
def Event.time : Event → Int
  | .datagram now .. => now
  | .sweep now => now

/-- How the server handles the datagram of an event, when it does not fail on it. -/
def handling? (s : Server) : Event → Option Handling
  | .datagram now bytes source =>
    match s.handleDatagram now bytes source with
    | .ok (h, _) => some h
    | .error _ => none
  | .sweep _ => none

/-- The server after an event. A datagram that the server fails on changes nothing, as in the
accept loop, which passes over it. -/
def step (s : Server) (e : Event) : Server :=
  match e with
  | .sweep now => { s with pool := (s.pool.sweepExpired now).1 }
  | .datagram .. =>
    match s.handling? e with
    | some h => { s with pool := h.pool }
    | none => s

/-- A datagram that decodes, is handled, and whose reply encodes, is handled that way. -/
theorem handling?_datagram {bytes : List UInt8} {source : Endpoint}
    (hdec : Message.decode bytes = .ok m) (hm : s.handleMessage now m = .ok hd)
    (henc : ∀ r, hd.reply = some r → ∃ b, r.encode = .ok b) :
    s.handling? (.datagram now bytes source) = some hd := by
  simp only [handling?, handleDatagram, hdec, hm, bind, Except.bind]
  cases hr : hd.reply with
  | none => rfl
  | some r =>
    obtain ⟨b, hb⟩ := henc r hr
    simp [hb, pure, Except.pure]

/-- Only datagrams are handled, and the server moves to the handling's pool. -/
theorem step_of_handling? {e : Event} (h : s.handling? e = some hd) :
    s.step e = { s with pool := hd.pool } := by
  cases e with
  | datagram now bytes source => simp [step, h]
  | sweep now => simp [handling?] at h

/-- The server after the events `es`, in order. -/
def run (s : Server) (es : List Event) : Server := es.foldl step s

@[simp] theorem run_nil (s : Server) : s.run [] = s := rfl

@[simp] theorem run_cons (s : Server) (e : Event) (es : List Event) :
    s.run (e :: es) = (s.step e).run es := rfl

theorem run_append (s : Server) (es es' : List Event) :
    s.run (es ++ es') = (s.run es).run es' := List.foldl_append

@[simp] theorem config_step (s : Server) (e : Event) : (s.step e).config = s.config := by
  unfold step
  split
  · rfl
  · split <;> rfl

@[simp] theorem config_run (s : Server) (es : List Event) : (s.run es).config = s.config := by
  induction es generalizing s with
  | nil => rfl
  | cons e es ih => rw [run_cons, ih, config_step]

/-- The server acknowledges `a` to `h` on event `e`: its reply is an ACK for the hardware
address `h` that gives it `a`. -/
def Grants (s : Server) (e : Event) (h : HardwareAddress) (a : Ipv4) : Prop :=
  ∃ hd r, s.handling? e = some hd ∧ hd.reply = some r ∧ r.kind = .ok (some .ack) ∧
    r.chaddr = h ∧ r.yiaddr = a

/-- Event `e` brings a RELEASE from `h`. -/
def Releases (e : Event) (h : HardwareAddress) : Prop :=
  ∃ now bytes source m, e = .datagram now bytes source ∧ Message.decode bytes = .ok m ∧
    m.isRelease = true ∧ m.chaddr = h

/-- One event grants at most one address, to one client. -/
theorem Grants.unique {e : Event} {h h' : HardwareAddress} {a a' : Ipv4}
    (g : s.Grants e h a) (g' : s.Grants e h' a') : h = h' ∧ a = a' := by
  obtain ⟨hd, r, hh, hr, -, rfl, rfl⟩ := g
  obtain ⟨hd', r', hh', hr', -, rfl, rfl⟩ := g'
  rw [hh] at hh'
  cases hh'
  rw [hr] at hr'
  cases hr'
  exact ⟨rfl, rfl⟩

/-- **What a step can do to the pool.** Nothing, and grant nothing; end the lease of the
client whose RELEASE it brings, and grant nothing; commit the address it grants; or sweep. -/
theorem step_cases (s : Server) (e : Event) :
    ((s.step e).pool = s.pool ∧ ∀ h a, ¬ s.Grants e h a) ∨
    (∃ h, Releases e h ∧ h.isEmpty = false ∧ (s.step e).pool = (s.pool.release h e.time).1 ∧
      ∀ h a, ¬ s.Grants e h a) ∨
    (∃ h a r, s.Grants e h r.address ∧
      s.pool.commit h a e.time s.leaseMillis = .ok ((s.step e).pool, r)) ∨
    ∃ now, e = .sweep now ∧ (s.step e).pool = (s.pool.sweepExpired now).1 := by
  cases e with
  | sweep now => exact .inr (.inr (.inr ⟨now, rfl, rfl⟩))
  | datagram now bytes source =>
    cases hdg : s.handleDatagram now bytes source with
    | error err =>
      have hnone : s.handling? (.datagram now bytes source) = none := by simp [handling?, hdg]
      refine .inl ⟨by simp [step, hnone], fun h a ⟨hd, r, hh, _⟩ => ?_⟩
      rw [hnone] at hh
      cases hh
    | ok res =>
      obtain ⟨hd, out⟩ := res
      have hsome : s.handling? (.datagram now bytes source) = some hd := by simp [handling?, hdg]
      have hstep : (s.step (.datagram now bytes source)).pool = hd.pool := by simp [step, hsome]
      have noAck (hnot : ∀ r, hd.reply = some r → r.kind ≠ .ok (some .ack)) :
          ∀ h a, ¬ s.Grants (.datagram now bytes source) h a := by
        rintro h a ⟨hd', r, hh, hr, hk, -⟩
        rw [hsome] at hh
        cases hh
        exact hnot r hr hk
      obtain ⟨m, hm, hmsg⟩ := handleDatagram_eq_ok hdg
      rcases handleMessage_cases hmsg with ⟨hpool, hnot⟩ | ⟨hrel, hne, hpool, hnone⟩ |
          ⟨a, r, -, hcommit, hack⟩
      · exact .inl ⟨hstep.trans hpool, noAck hnot⟩
      · refine .inr (.inl ⟨m.chaddr, ⟨now, bytes, source, m, rfl, hm, hrel, rfl⟩, hne,
          hstep.trans hpool, noAck fun r hr => ?_⟩)
        rw [hnone] at hr
        cases hr
      · refine .inr (.inr (.inl ⟨m.chaddr, a, r, ⟨hd, _, hsome, hack, by simp, rfl, rfl⟩, ?_⟩))
        rw [hstep]
        exact hcommit

/-- A RELEASE from a client with a hardware address ends that client's lease; one without
changes nothing. -/
theorem step_of_releases {e : Event} {h : HardwareAddress} (hr : Releases e h) :
    (s.step e).pool = if h.isEmpty then s.pool else (s.pool.release h e.time).1 := by
  obtain ⟨now, bytes, source, m, rfl, hm, hrel, rfl⟩ := hr
  have hdg : s.handleDatagram now bytes source =
      .ok (⟨if m.chaddr.isEmpty then s.pool else (s.pool.release m.chaddr now).1, none, some 0⟩,
        none) := by
    simp [handleDatagram, hm, handleMessage_of_isRelease hrel, bind, Except.bind, pure,
      Except.pure]
  simp [step, handling?, hdg, Event.time]

/-! ## The accept loop and the sweeper are runs -/

/-- Whatever the accept loop does over a queue, the server it ends with is one reached by a run
of datagram events at the loop's wall-clock time. -/
theorem operateFrom_eq_run (now : Int) (runMs : Nat) :
    ∀ (s : Server) (clock : Nat) (queue : List Inbound),
      ∃ es : List Event, (∀ e ∈ es, e.time = now) ∧ (operateFrom now runMs s clock queue).1 = s.run es
  | s, _, [] => ⟨[], by simp, rfl⟩
  | s, clock, .failure :: rest => by
    simpa [operateFrom] using operateFrom_eq_run now runMs s clock rest
  | s, clock, .datagram bytes source :: rest => by
    unfold operateFrom
    cases hdg : s.handleDatagram now bytes source with
    | error err =>
      simp only
      split
      · exact ⟨[], by simp, rfl⟩
      · exact operateFrom_eq_run now runMs s clock rest
    | ok res =>
      obtain ⟨hd, out⟩ := res
      simp only
      split
      · exact ⟨[], by simp, rfl⟩
      · split
        · exact ⟨[], by simp, rfl⟩
        · obtain ⟨es, htime, heq⟩ :=
            operateFrom_eq_run now runMs { s with pool := hd.pool } (clock + ‹Nat›) rest
          refine ⟨.datagram now bytes source :: es, ?_, ?_⟩
          · intro e he
            rcases List.mem_cons.mp he with rfl | he
            · rfl
            · exact htime e he
          · have hstep : s.step (.datagram now bytes source) = { s with pool := hd.pool } := by
              simp [step, handling?, hdg]
            rw [run_cons, hstep, ← heq]

theorem operate_eq_run (s : Server) (now : Int) (runMs : Nat) (queue : List Inbound) :
    ∃ es : List Event, (∀ e ∈ es, e.time = now) ∧ (s.operate now runMs queue).1 = s.run es :=
  operateFrom_eq_run now runMs s 0 queue

/-- The sweeper is a run of sweeps at its wall-clock time. -/
theorem sweepFor_eq_run (s : Server) (now : Int) (runMs : Nat) :
    s.sweepFor now runMs =
      s.run (List.replicate (runMs / max 1 s.config.sweepInterval + 1) (.sweep now)) := by
  unfold sweepFor run
  dsimp only
  generalize runMs / max 1 s.config.sweepInterval + 1 = n
  induction n generalizing s with
  | zero => rfl
  | succ n ih =>
    rw [List.range_succ_eq_map, List.foldl_cons, List.foldl_map, List.replicate_succ,
      List.foldl_cons]
    exact ih _

end Server

end AddressLeasing
