import AddressLeasing.Proofs.LeaseProvenance
/-!
# The client's phase between operations

Between operations a client is `bound` exactly when it holds a lease, and in `init` otherwise
(`Client.Settled`). Every operation run to its end keeps that, whatever the link delivers
(`Operation.settled_perform`), so it holds after every operation of every session that starts from a
created client (`settled_session`). What the next operation then does
(`Client.PhaseContract`):

* a failed acquisition leaves the client in `init` without a lease;
* a renewal without a lease fails with `notBound` and changes nothing;
* a renewal refused with a NAK leaves the client in `init` without a lease;
* a renewal that fails otherwise leaves the client bound to the lease it held;
* a release leaves the client in `init` without a lease, also when its datagram is not sent.

A renewal tells a refusal from a failure by its error, and a NAK is the error of a refusal. So
the renewal facts ask of the link that its own failures are never a NAK (`Link.NakFree`), as
the failures of a socket are not.
-/

set_option autoImplicit false

namespace AddressLeasing

variable {σ : Type}

namespace Link

/-- A link whose failures are its own: no sending and no wait fails with the error of a
server's refusal. -/
def NakFree (link : Link σ) : Prop :=
  (∀ bytes destination s a b, (link.send bytes destination s).1 ≠ .error (.nak a b)) ∧
    ∀ s a b, (link.receive s).1 ≠ .failure (.nak a b)

variable {link : Link σ} {xid : UInt32} {hw : HardwareAddress} {accept : MessageKind → Bool}

theorem NakFree.awaitReply (hlink : link.NakFree) (s : σ) (a b : Ipv4) :
    (link.awaitReply xid hw accept s).1 ≠ .error (.nak a b) := by
  -- on the datagrams the link still holds, which every reception lowers
  induction hn : link.pending s using Nat.strong_induction_on generalizing s with
  | _ n ih =>
    rcases hrec : link.receive s with ⟨_ | _ | e, s'⟩
    · rcases awaitReply_datagram hrec with ⟨r, -, -, htaken⟩ | ⟨-, hdropped⟩
      · rw [htaken]
        simp
      · rw [hdropped]
        exact ih _ (hn ▸ pending_lt_of_receive hrec) s' rfl
    · simp [awaitReply_deadline hrec]
    · have hfail := hlink.2 s a b
      rw [hrec] at hfail
      simpa [awaitReply_failure hrec] using hfail

theorem NakFree.resend (hlink : link.NakFree) (c : Client) (bytes : List UInt8)
    (destination : Endpoint) (tries : Nat) (s : σ) (a b : Ipv4) :
    (link.resend c bytes destination xid accept tries s).1 ≠ .error (.nak a b) := by
  -- on the tries left: each ends in a failed send, a reply, a failed wait or the next try
  induction tries generalizing s with
  | zero => simp [Link.resend, Client.timeout]
  | succ tries ih =>
    rcases hs : link.send bytes destination s with ⟨_ | ⟨⟩, s'⟩
    · have hsend := hlink.1 bytes destination s a b
      rw [hs] at hsend
      simpa [Link.resend, hs] using hsend
    · have hwait : (link.awaitReply xid c.hardware accept s').1 ≠ .error (.nak a b) :=
        hlink.awaitReply s' a b
      rcases hw : link.awaitReply xid c.hardware accept s' with ⟨_ | _ | r, s''⟩
      · rw [hw] at hwait
        simpa [Link.resend, hs, hw] using hwait
      · simpa [Link.resend, hs, hw] using ih s''
      · simp [Link.resend, hs, hw]

theorem NakFree.exchange (hlink : link.NakFree) {m : Message} (hm : m.Encodable) (c : Client)
    (destination : Endpoint) (s : σ) (a b : Ipv4) :
    (link.exchange c m destination accept s).1 ≠ .error (.nak a b) := by
  unfold Link.exchange
  rw [Message.encode_eq_ok hm]
  exact hlink.resend c m.wire destination _ s a b

/-- An exchange returns only a reply that answers its message. -/
theorem exchange_answers {c : Client} {m r : Message} {destination : Endpoint} {s : σ}
    (h : (link.exchange c m destination accept s).1 = .ok r) :
    r.answers m.xid c.hardware accept = true := by
  obtain ⟨evs, -, hshow⟩ := link.exchange_logged accept c m destination s []
  exact (hshow r h).answers

end Link

namespace Client

/-- Between operations: bound exactly when holding a lease, in `init` otherwise. -/
def Settled (c : Client) : Prop :=
  c.phase = if c.lease.isSome then .bound else .init

theorem settled_create {cfg : ClientConfig} {random : Nat → UInt32} {c : Client}
    (h : create cfg random = .ok c) : c.Settled := by
  unfold create at h
  cases hv : cfg.validate with
  | error e =>
    rw [hv] at h
    cases h
  | ok u =>
    cases hh : cfg.hardware with
    | error e =>
      rw [hv, hh] at h
      cases h
    | ok hardware =>
      simp only [hv, hh, bind, Except.bind, pure, Except.pure, Except.ok.injEq] at h
      subst h
      rfl

variable (link : Link σ)

theorem renew_of_lease_none {c : Client} (h : c.lease = none) (server : Ipv4) (s : σ) :
    renew link c server s = ⟨.error .notBound, c, s⟩ := by
  unfold renew
  rw [h]

/-- How a renewal of a held lease ends, over a link whose failures are no NAKs: bound to the
lease it returns; after a NAK, in `init` without a lease; after any other failure, bound to the
lease it held. Besides these only the transaction id drawn changes. -/
theorem renew_client (hlink : link.NakFree) {c : Client} {held : ClientLease}
    (hlease : c.lease = some held) (server : Ipv4) (s : σ) :
    (∃ l, (renew link c server s).result = .ok l ∧ (renew link c server s).client =
      { c.drawXid.2 with phase := .bound, lease := some l }) ∨
    (∃ a b, (renew link c server s).result = .error (.nak a b) ∧
      (renew link c server s).client = { c.drawXid.2 with phase := .init, lease := none }) ∨
    (∃ e, (renew link c server s).result = .error e ∧ (∀ a b, e ≠ .nak a b) ∧
      (renew link c server s).client = { c.drawXid.2 with phase := .bound }) := by
  unfold renew
  rw [hlease]
  -- name the drawn transaction and client, so that nothing unfolds the draw
  obtain ⟨x, c', hdraw⟩ : ∃ x c', c.drawXid = (x, c') := ⟨_, _, rfl⟩
  rw [hdraw]
  dsimp only
  have hne : ∀ a b, (link.exchange { c' with phase := .requesting }
      (.request c'.hardware x held.address server held.address)
      ({ c' with phase := .requesting }.destinationFor server)
      MessageKind.answersRequest s).1 ≠ .error (.nak a b) :=
    hlink.exchange (Message.encodable_request _ _ _ _ _) _ _ s
  rcases h₁ : link.exchange _ _ _ _ s with ⟨_ | reply, s₁⟩ <;> rw [h₁] at hne <;>
    dsimp only
  · rename_i e
    have he : ∀ a b, e ≠ .nak a b := fun a b h => hne a b (by rw [h])
    split
    · rename_i heq
      exact absurd (Except.error.inj heq) (he _ _)
    · exact .inr (.inr ⟨e, rfl, he, rfl⟩)
    · rename_i heq
      cases heq
  · have hans := Link.exchange_answers (congrArg Prod.fst h₁)
    obtain ⟨-, -, -, k, hk, -⟩ := Message.answers_eq_true.mp hans
    rcases hb : Client.bindReply _ reply server held.address with ⟨_ | l, c''⟩ <;> dsimp only
    · -- the reply refused or could not be bound: a NAK ends the lease, anything else keeps it
      rename_i e
      rcases bindReply_eq_error hk hb with ⟨rfl, rfl⟩ | ⟨he, rfl⟩
      · exact .inr (.inl ⟨server, held.address, rfl, rfl⟩)
      · split
        · rename_i heq
          exact absurd (Except.error.inj heq) (he _ _)
        · exact .inr (.inr ⟨e, rfl, he, rfl⟩)
        · rename_i heq
          cases heq
    · obtain ⟨-, -, -, rfl⟩ := bindReply_eq_ok hb
      exact .inl ⟨l, rfl, rfl⟩

/-- How acquisition leaves the client: bound to the lease it returns, or in `init` without a
lease. -/
theorem acquireWithin_client (restarts : Nat) (c : Client) (s : σ) :
    (∃ l, (acquireWithin link restarts c s).result = .ok l ∧
      (acquireWithin link restarts c s).client.phase = .bound ∧
      (acquireWithin link restarts c s).client.lease = some l) ∨
    (∃ e, (acquireWithin link restarts c s).result = .error e ∧
      (acquireWithin link restarts c s).client.phase = .init ∧
      (acquireWithin link restarts c s).client.lease = none) := by
  -- on the restarts left: the first attempt binds, ends acquisition, or hands over
  induction restarts generalizing c s with
  | zero =>
    obtain ⟨x, c', hdraw⟩ : ∃ x c', c.drawXid = (x, c') := ⟨_, _, rfl⟩
    rcases hres : tryAcquire link c' x s with ⟨_ | held, c'', s'⟩
    · obtain ⟨ph, hc⟩ := tryAcquire_error_client link
        (show (tryAcquire link c' x s).result = _ by rw [hres])
      rw [hres] at hc
      dsimp only at hc
      subst hc
      rw [acquireWithin_zero_error link hdraw hres]
      exact .inr ⟨_, rfl, rfl, rfl⟩
    · rw [acquireWithin_bound link hdraw (by rw [hres])]
      exact .inl ⟨held, rfl, rfl, rfl⟩
  | succ restarts ih =>
    obtain ⟨x, c', hdraw⟩ : ∃ x c', c.drawXid = (x, c') := ⟨_, _, rfl⟩
    rcases hres : tryAcquire link c' x s with ⟨_ | held, c'', s'⟩
    · rw [acquireWithin_succ_error link hdraw hres]
      exact ih c'' s'
    · rw [acquireWithin_bound link hdraw (by rw [hres])]
      exact .inl ⟨held, rfl, rfl, rfl⟩

theorem release_of_lease_none {c : Client} (h : c.lease = none) (s : σ) :
    release link c s = ⟨.error .notBound, c, s⟩ := by
  unfold release
  rw [h]

/-- A release of a held lease leaves the client in `init` without a lease, whether or not its
datagram was sent. -/
theorem release_client {c : Client} {held : ClientLease} (h : c.lease = some held) (s : σ) :
    (release link c s).client =
      { { c with lease := none, phase := .releasing }.drawXid.2 with phase := .init } := by
  unfold release
  rw [h]

section Settled

variable {link} {c : Client}

theorem settled_acquire (c : Client) (s : σ) : (acquire link c s).client.Settled := by
  rcases acquireWithin_client link (c.attempts - 1) c s with ⟨l, -, hp, hl⟩ | ⟨e, -, hp, hl⟩
  · simp [acquire, Settled, hp, hl]
  · simp [acquire, Settled, hp, hl]

theorem Settled.renew (hlink : link.NakFree) (hc : c.Settled) (server : Ipv4) (s : σ) :
    (renew link c server s).client.Settled := by
  cases hlease : c.lease with
  | none =>
    rw [renew_of_lease_none link hlease]
    exact hc
  | some held =>
    rcases renew_client link hlink hlease server s with
      ⟨l, -, hcl⟩ | ⟨a, b, -, hcl⟩ | ⟨e, -, -, hcl⟩ <;> simp [hcl, Settled, hlease]

theorem Settled.release (hc : c.Settled) (s : σ) : (release link c s).client.Settled := by
  cases hlease : c.lease with
  | none =>
    rw [release_of_lease_none link hlease]
    exact hc
  | some held => simp [release_client link hlease, Settled]

end Settled

/-- What a client's next operation over `link` does to its phase and lease. -/
structure PhaseContract (link : Link σ) (c : Client) : Prop where
  bound_iff : c.phase = .bound ↔ c.lease.isSome = true
  acquire_failed : ∀ s e, (acquire link c s).result = .error e →
    (acquire link c s).client.phase = .init ∧ (acquire link c s).client.lease = none
  renew_unbound : c.lease = none →
    ∀ server s, renew link c server s = ⟨.error .notBound, c, s⟩
  renew_refused : ∀ server s a b, (renew link c server s).result = .error (.nak a b) →
    (renew link c server s).client.phase = .init ∧ (renew link c server s).client.lease = none
  renew_failed : ∀ server s e, c.lease.isSome = true →
    (renew link c server s).result = .error e → (∀ a b, e ≠ .nak a b) →
    (renew link c server s).client.phase = .bound ∧ (renew link c server s).client.lease = c.lease
  release_ends : ∀ s,
    (release link c s).client.phase = .init ∧ (release link c s).client.lease = none

/-- A settled client keeps the contract, over a link whose failures are no NAKs. -/
theorem Settled.contract {link : Link σ} (hlink : link.NakFree) {c : Client} (hc : c.Settled) :
    c.PhaseContract link where
  bound_iff := by
    unfold Settled at hc
    cases h : c.lease <;> simp [hc, h]
  acquire_failed s e he := by
    rcases acquireWithin_client link (c.attempts - 1) c s with ⟨l, hl, -⟩ | ⟨e', -, hp, hl⟩
    · rw [acquire, hl] at he
      cases he
    · exact ⟨hp, hl⟩
  renew_unbound h := renew_of_lease_none link h
  renew_refused server s a b hnak := by
    cases hlease : c.lease with
    | none =>
      rw [renew_of_lease_none link hlease] at hnak
      cases hnak
    | some held =>
      rcases renew_client link hlink hlease server s with
        ⟨l, hl, -⟩ | ⟨a', b', -, hcl⟩ | ⟨e, he, hne, -⟩
      · rw [hl] at hnak
        cases hnak
      · simp [hcl]
      · rw [hnak, Except.error.injEq] at he
        exact absurd he.symm (hne a b)
  renew_failed server s e hsome he hne := by
    obtain ⟨held, hlease⟩ := Option.isSome_iff_exists.mp hsome
    rcases renew_client link hlink hlease server s with
      ⟨l, hl, -⟩ | ⟨a, b, hnak, -⟩ | ⟨e', -, -, hcl⟩
    · rw [hl] at he
      cases he
    · rw [hnak, Except.error.injEq] at he
      exact absurd he.symm (hne a b)
    · simp [hcl]
  release_ends s := by
    cases hlease : c.lease with
    | none =>
      rw [release_of_lease_none link hlease]
      unfold Settled at hc
      simp [hc, hlease]
    | some held => simp [release_client link hlease]

end Client

namespace Operation

variable (link : Link σ)

/-- Runs `op` over `link` to its end: the client after it, and the link's state. -/
def perform : Operation → Client → σ → Client × σ
  | acquire, c, s => ((Client.acquire link c s).client, (Client.acquire link c s).link)
  | renew server, c, s =>
    ((Client.renew link c server s).client, (Client.renew link c server s).link)
  | release, c, s => ((Client.release link c s).client, (Client.release link c s).link)

/-- Runs operations one after another over `link`, each to its end. -/
def session : List Operation → Client → σ → Client × σ
  | [], c, s => (c, s)
  | op :: ops, c, s => session ops (op.perform link c s).1 (op.perform link c s).2

variable {link}

/-- One operation keeps the client settled. -/
theorem settled_perform (hlink : link.NakFree) {c : Client} (hc : c.Settled) (op : Operation)
    (s : σ) : (op.perform link c s).1.Settled := by
  cases op with
  | acquire => exact Client.settled_acquire c s
  | renew server => exact hc.renew hlink server s
  | release => exact hc.release s

/-- A session keeps the client settled, after every operation. -/
theorem settled_session (hlink : link.NakFree) {c : Client} (hc : c.Settled)
    (ops : List Operation) (s : σ) : (session link ops c s).1.Settled := by
  -- on the operations, each one step that keeps the client settled
  induction ops generalizing c s with
  | nil => exact hc
  | cons op ops ih => exact ih (settled_perform hlink hc op s) _

end Operation

/-- **The client's phase follows its lease.** For a client created from a configuration that
passes its checks, over any link whose failures are its own, after every operation of every
session the client is bound exactly when it holds a lease, and its next operation keeps the
contract: a failed acquisition ends in `init` without a lease, a renewal without a lease
changes nothing, a refused renewal ends the lease, any other failed renewal keeps it, and a
release ends it. -/
theorem phase_follows_lease {link : Link σ} (hlink : link.NakFree) {cfg : ClientConfig}
    {random : Nat → UInt32} {c₀ : Client} (hcreate : Client.create cfg random = .ok c₀)
    (ops : List Operation) (s : σ) : (Operation.session link ops c₀ s).1.PhaseContract link :=
  (Operation.settled_session hlink (Client.settled_create hcreate) ops s).contract hlink

/-- A link on which nothing ever arrives and every datagram is sent. -/
def silentLink : Link Unit where
  send _ _ s := (.ok (), s)
  receive s := (.deadline, s)
  pending _ := 0
  pending_receive := by
    intro s bytes source h
    cases h

/-- The default client configuration, on a link where nothing arrives, through an
acquisition, a renewal and a release. -/
theorem phase_follows_lease_silent :
    silentLink.NakFree ∧ ∃ c₀, Client.create ClientConfig.default (fun n => n.toUInt32) = .ok c₀ ∧
      (Operation.session silentLink [.acquire, .renew (Ipv4.ofNat 1), .release] c₀ ()).1.PhaseContract
        silentLink := by
  have hlink : silentLink.NakFree := by
    refine ⟨fun bytes destination s a b h => ?_, fun s a b h => ?_⟩ <;> cases h
  obtain ⟨c₀, hcreate⟩ : ∃ c₀, Client.create ClientConfig.default (fun n => n.toUInt32) = .ok c₀ :=
    ⟨_, rfl⟩
  exact ⟨hlink, c₀, hcreate, phase_follows_lease hlink hcreate _ ()⟩

/-- A link on which every send fails with a NAK from `a` for `b`, and nothing arrives. -/
def nakLink (a b : Ipv4) : Link Unit where
  send _ _ s := (.error (.nak a b), s)
  receive s := (.deadline, s)
  pending _ := 0
  pending_receive := by
    intro s bytes source h
    cases h

/-- **Failures that are NAKs break the contract.** Over a link whose sends fail with a NAK, a
renewal of a held lease ends with that NAK, yet leaves the client `requesting` with the lease
it held: neither in `init` without a lease, nor bound. -/
theorem renew_nakLink {c : Client} {held : ClientLease} (hlease : c.lease = some held)
    (server a b : Ipv4) :
    (Client.renew (nakLink a b) c server ()).result = .error (.nak a b) ∧
      (Client.renew (nakLink a b) c server ()).client.phase = .requesting ∧
      (Client.renew (nakLink a b) c server ()).client.lease = some held := by
  unfold Client.renew
  rw [hlease]
  dsimp only
  -- the REQUEST encodes, and its first send fails
  rw [Link.exchange, Message.encode_eq_ok (Message.encodable_request _ _ _ _ _)]
  simp [Link.resend, nakLink, hlease]

end AddressLeasing
