import Mathlib.Data.List.Induction
import Mathlib.Data.Nat.Find
import AddressLeasing.Proofs.ServerStep
import AddressLeasing.Proofs.MessageCodec
/-!
# Leases along a server's run

A server starts from a valid configuration with a fresh pool and then meets any sequence of
events: datagrams with any bytes from any source, and expiry sweeps, at any times. This module
proves what holds after every such run.

* The pool invariant holds throughout (`Invariant.run`): so the records are the configured
  range in order, without the server's own address, every lease has an owner, and no owner
  holds two leases.
* Every lease has a history (`LeaseHistory`): it was last granted, by an ACK to its owner, at a
  step whose time plus the lease duration is its expiry.
* A lease is taken from its holder only by the holder's RELEASE, by a grant of another address
  to the holder, or by a sweep once it has run out (`Invariant.step_lost`). Hence two grants of
  one address to two clients have one of these between them (`grant_exclusive`).

Times need not increase along a run for any of this: nothing here depends on their order.
-/

set_option autoImplicit false

namespace AddressLeasing

namespace Server

/-! ## The invariant of a running server -/

/-- What every server reachable from a valid configuration satisfies. -/
structure Invariant (s : Server) : Prop where
  valid : s.config.Valid
  sound : s.pool.Sound s.config

/-- A valid configuration creates a server with the fresh pool of its range. -/
theorem create_eq_ok {c : ServerConfig} (hc : c.validate = .ok ()) :
    create c = .ok ⟨c, LeasePool.ofRange c.poolStart c.poolSize⟩ := by
  simp [create, hc, LeasePool.ofConfig_eq_ok (ServerConfig.valid_of_validate hc), bind,
    Except.bind, pure, Except.pure]

@[simp] theorem leaseMillis_run (s : Server) (es : List Event) :
    (s.run es).leaseMillis = s.leaseMillis := by
  simp [leaseMillis]

theorem invariant_of_create {c : ServerConfig} {s : Server} (h : create c = .ok s) :
    s.Invariant := by
  unfold create at h
  obtain ⟨u, hv, h⟩ := bind_eq_ok_iff.mp h
  obtain ⟨p, hp, h⟩ := bind_eq_ok_iff.mp h
  rw [pure_eq_ok_iff] at h
  subst h
  have hc := ServerConfig.valid_of_validate hv
  rw [LeasePool.ofConfig_eq_ok hc] at hp
  cases hp
  exact ⟨hc, LeasePool.sound_ofRange c⟩

theorem config_of_create {c : ServerConfig} {s : Server} (h : create c = .ok s) :
    s.config = c := by
  unfold create at h
  obtain ⟨u, -, h⟩ := bind_eq_ok_iff.mp h
  obtain ⟨p, -, h⟩ := bind_eq_ok_iff.mp h
  rw [pure_eq_ok_iff] at h
  subst h
  rfl

section Invariant

variable {s : Server}

theorem Invariant.step (hs : s.Invariant) (e : Event) : (s.step e).Invariant := by
  refine ⟨by rw [config_step]; exact hs.valid, ?_⟩
  rw [config_step]
  rcases step_cases s e with ⟨hpool, -⟩ | ⟨h, -, -, hpool, -⟩ | ⟨h, a, r, -, hcommit⟩ |
      ⟨now, -, hpool⟩
  · rw [hpool]; exact hs.sound
  · rw [hpool]; exact hs.sound.release h e.time
  · exact hs.sound.commit hs.valid hcommit
  · rw [hpool]; exact hs.sound.sweepExpired now

theorem Invariant.run (hs : s.Invariant) (es : List Event) : (s.run es).Invariant := by
  induction es generalizing s with
  | nil => exact hs
  | cons e es ih => exact ih (hs.step e)

/-- The address a commit grants is the one asked for. -/
theorem Invariant.commit_address (hs : s.Invariant) {p' : LeasePool} {h : HardwareAddress}
    {a : Ipv4} {now d : Int} {r : LeaseRecord} (hc : s.pool.commit h a now d = .ok (p', r)) :
    r.address = a := by
  obtain ⟨-, r₀, hr₀, -, -, rfl⟩ := LeasePool.commit_eq_ok hc
  exact (hs.sound.recordFor?_eq_some hr₀).2

/-- A step that grants `a` to `h` commits `a` to `h` at the event's time. -/
theorem Invariant.commit_of_grants (hs : s.Invariant) {e : Event} {h : HardwareAddress} {a : Ipv4}
    (g : s.Grants e h a) :
    ∃ r, s.pool.commit h a e.time s.leaseMillis = .ok ((s.step e).pool, r) := by
  rcases step_cases s e with ⟨-, hno⟩ | ⟨-, -, -, -, hno⟩ | ⟨h', a', r, g', hcommit⟩ |
      ⟨now, rfl, -⟩
  · exact absurd g (hno h a)
  · exact absurd g (hno h a)
  · obtain ⟨rfl, rfl⟩ := g'.unique g
    rw [← hs.commit_address hcommit] at hcommit
    exact ⟨r, hcommit⟩
  · obtain ⟨hd, -, hh, -⟩ := g
    cases hh

end Invariant

/-! ## What ends a hold -/

/-- **The only three ways a client loses an address it holds:** its own RELEASE, a grant of an
address to it (which returns the other to the pool), or a sweep at or after the expiry. -/
theorem Invariant.step_lost {s : Server} (hs : s.Invariant) {e : Event} {h : HardwareAddress}
    {a : Ipv4} {x : Int} (hold : s.pool.HoldsUntil h a x)
    (lost : ¬ (s.step e).pool.HoldsUntil h a x) :
    Releases e h ∨ (∃ b, s.Grants e h b) ∨ ∃ t, e = .sweep t ∧ x ≤ t := by
  rcases step_cases s e with ⟨hpool, -⟩ | ⟨h', hrel, -, hpool, -⟩ | ⟨h', a', r, g, hcommit⟩ |
      ⟨t, rfl, hpool⟩
  · rw [hpool] at lost
    exact absurd hold lost
  · rw [hpool] at lost
    obtain rfl := hs.sound.holdsUntil_release hs.valid hold lost
    exact .inl hrel
  · obtain rfl := hs.sound.holdsUntil_commit_lost hs.valid hcommit hold lost
    exact .inr (.inl ⟨_, g⟩)
  · rw [hpool] at lost
    exact .inr (.inr ⟨t, rfl, LeasePool.holdsUntil_sweepExpired hold lost⟩)

/-! ## Positions in a run -/

/-- Step `i` of the run of `es` from `s` grants `a` to `h`. -/
def GrantsAt (s : Server) (es : List Event) (i : Nat) (h : HardwareAddress) (a : Ipv4) : Prop :=
  ∃ e, es[i]? = some e ∧ (s.run (es.take i)).Grants e h a

theorem run_take_succ (s : Server) {es : List Event} {i : Nat} {e : Event} (he : es[i]? = some e) :
    s.run (es.take (i + 1)) = (s.run (es.take i)).step e := by
  rw [List.take_add_one, he, Option.toList_some, run_append]
  rfl

theorem grantsAt_append_left {s : Server} {es : List Event} {e : Event} {i : Nat}
    (hi : i < es.length) {h : HardwareAddress} {a : Ipv4} :
    s.GrantsAt (es ++ [e]) i h a ↔ s.GrantsAt es i h a := by
  simp [GrantsAt, List.getElem?_append_left hi, List.take_append_of_le_length (Nat.le_of_lt hi)]

/-! ## The history of a lease -/

/-- Every lease at the end of the run of `es` from `s` was last granted, to its owner, at a step
whose time plus the lease duration is the lease's expiry; no later step granted its address. -/
def LeaseHistory (s : Server) (es : List Event) : Prop :=
  ∀ r ∈ (s.run es).pool.records, r.leased = true →
    ∃ i e, es[i]? = some e ∧ (s.run (es.take i)).Grants e r.owner r.address ∧
      r.expiresAt = e.time + s.leaseMillis ∧ ∀ j, i < j → ∀ h, ¬ s.GrantsAt es j h r.address

/-- A lease after a step was granted by that step, or was there, untouched, before it. -/
theorem Invariant.leased_step {s : Server} (hs : s.Invariant) (e : Event) {x : LeaseRecord}
    (hx : x ∈ (s.step e).pool.records) (hl : x.leased = true) :
    (s.Grants e x.owner x.address ∧ x.expiresAt = e.time + s.leaseMillis) ∨
    (x ∈ s.pool.records ∧ ∀ h, ¬ s.Grants e h x.address) := by
  rcases step_cases s e with ⟨hpool, hno⟩ | ⟨h, -, -, hpool, hno⟩ | ⟨h, a, r, g, hcommit⟩ |
      ⟨now, rfl, hpool⟩
  · rw [hpool] at hx
    exact .inr ⟨hx, fun h => hno h _⟩
  · rw [hpool] at hx
    refine .inr ⟨?_, fun h => hno h _⟩
    rcases LeasePool.release_cases s.pool h e.time with ⟨-, heq⟩ | ⟨r, -, -, heq⟩
    · rwa [heq] at hx
    · rw [heq] at hx
      exact (LeasePool.onlyFrees_releaseRecord _ _).mem_of_leased hx hl
  · have ha := hs.commit_address hcommit
    rcases LeasePool.leased_of_commit hcommit hx hl with ⟨hxa, hxo, hxe⟩ | ⟨hxa, hmem⟩
    · left
      rw [hxo, hxa, ← ha]
      exact ⟨g, hxe⟩
    · refine .inr ⟨hmem, fun h' g' => hxa ?_⟩
      rw [← ha]
      exact (g'.unique g).2
  · rw [hpool, LeasePool.sweepExpired_records] at hx
    refine .inr ⟨(LeasePool.onlyFrees_sweepRecord now).mem_of_leased hx hl, ?_⟩
    rintro h ⟨hd, -, hh, -⟩
    cases hh

/-- The history of every lease, along every run from a created server. -/
theorem leaseHistory_run {c : ServerConfig} {s : Server} (hcreate : create c = .ok s)
    (es : List Event) : s.LeaseHistory es := by
  have hinit : ∀ r ∈ s.pool.records, r.leased = false := by
    unfold create at hcreate
    obtain ⟨u, hv, hcreate⟩ := bind_eq_ok_iff.mp hcreate
    obtain ⟨p, hp, hcreate⟩ := bind_eq_ok_iff.mp hcreate
    rw [pure_eq_ok_iff] at hcreate
    subst hcreate
    rw [LeasePool.ofConfig_eq_ok (ServerConfig.valid_of_validate hv)] at hp
    cases hp
    intro r hr
    obtain ⟨i, -, rfl⟩ := List.mem_map.mp hr
    rfl
  induction es using List.reverseRecOn with
  | nil =>
    intro r hr hl
    rw [run_nil] at hr
    rw [hinit r hr] at hl
    cases hl
  | append_singleton es e ih =>
    intro x hx hl
    rw [run_append, run_cons, run_nil] at hx
    have hs := (invariant_of_create hcreate).run es
    have hlen : (es ++ [e])[es.length]? = some e := by simp
    have htake : (es ++ [e]).take es.length = es := by simp
    rcases hs.leased_step e hx hl with ⟨g, hexp⟩ | ⟨hmem, hno⟩
    · -- granted by the last step
      refine ⟨es.length, e, hlen, by rwa [htake], by rw [hexp, leaseMillis_run], ?_⟩
      rintro j hj h ⟨e', he', -⟩
      have hj' := (List.getElem?_eq_some_iff.mp he').1
      simp only [List.length_append, List.length_singleton] at hj'
      omega
    · -- there before, and the last step did not grant its address
      obtain ⟨i, e', he', g, hexp, hlater⟩ := ih x hmem hl
      have hi : i < es.length := (List.getElem?_eq_some_iff.mp he').1
      refine ⟨i, e', by rwa [List.getElem?_append_left hi],
        by rwa [List.take_append_of_le_length (Nat.le_of_lt hi)], hexp, ?_⟩
      intro j hj h hgj
      rcases Nat.lt_or_ge j es.length with hjl | hjl
      · exact hlater j hj h ((grantsAt_append_left hjl).mp hgj)
      · obtain ⟨e'', he'', g''⟩ := hgj
        have hj' : j = es.length := by
          have := (List.getElem?_eq_some_iff.mp he'').1
          simp at this
          omega
        subst hj'
        rw [hlen] at he''
        cases he''
        rw [htake] at g''
        exact hno h g''

/-! ## The pool after every run -/

/-- What the pool of a server on configuration `c` satisfies after the run of `es` from `s`. -/
structure RunFacts (c : ServerConfig) (s : Server) (es : List Event) : Prop where
  /-- The records' addresses increase. -/
  ordered : ((s.run es).pool.records.map (·.address)).Pairwise (· < ·)
  /-- They are exactly the addresses from `poolStart` to `poolEnd`. -/
  range : ∀ a, a ∈ (s.run es).pool.records.map (·.address) ↔ c.poolStart ≤ a ∧ a ≤ c.poolEnd
  serverOutside : c.serverIp ∉ (s.run es).pool.records.map (·.address)
  /-- Every lease has an owner. -/
  owned : ∀ r ∈ (s.run es).pool.records, r.leased = true → r.owner.isEmpty = false
  /-- No owner holds two leases. -/
  single : ∀ h, (s.run es).pool.records.countP (·.isLeasedTo h) ≤ 1
  /-- Every lease runs out a lease duration after the step that last granted it, to its
  owner. -/
  history : ∀ r ∈ (s.run es).pool.records, r.leased = true →
    ∃ i e, es[i]? = some e ∧ (s.run (es.take i)).Grants e r.owner r.address ∧
      r.expiresAt = e.time + (c.leaseDurationSeconds.toNat : Int) * 1000 ∧ e.time < r.expiresAt ∧
      ∀ j, i < j → ∀ h, ¬ s.GrantsAt es j h r.address
  /-- A RELEASE leaves its sender with no lease at all. -/
  releaseEnds : ∀ e h, Releases e h → ((s.run es).step e).pool.activeLeaseFor? h = none

/-- A RELEASE leaves its sender with no lease, whichever lease `release` ended. -/
theorem Invariant.activeLeaseFor?_releases {s : Server} (hs : s.Invariant) {e : Event}
    {h : HardwareAddress} (hr : Releases e h) : (s.step e).pool.activeLeaseFor? h = none := by
  rw [step_of_releases hr]
  split
  · rename_i hempty
    simp [LeasePool.activeLeaseFor?, LeasePool.recordForOwner?, hempty]
  · exact hs.sound.activeLeaseFor?_release h e.time

/-- **The pool invariant over every run.** A server created from a valid configuration
exists, and after any sequence of datagrams and sweeps its records are the configured range in
increasing order without the server's address, every lease has an owner, no owner holds two
leases, every lease expires a lease duration after its last grant, and a RELEASE leaves its
sender without a lease. -/
theorem pool_facts_along_runs {c : ServerConfig} (hc : c.validate = .ok ()) :
    ∃ s, create c = .ok s ∧ ∀ es, RunFacts c s es := by
  refine ⟨_, create_eq_ok hc, fun es => ?_⟩
  have hcreate := create_eq_ok hc
  have hinv := (invariant_of_create hcreate).run es
  have hvalid := ServerConfig.valid_of_validate hc
  have haddr := hinv.sound.addresses
  simp only [config_run] at haddr
  have hlease : (0 : Int) < (c.leaseDurationSeconds.toNat : Int) * 1000 := by
    have : c.leaseDurationSeconds.toNat ≠ 0 := by
      have := hvalid.leasePositive
      rwa [ne_eq, ← UInt32.toNat_inj, UInt32.toNat_zero] at this
    omega
  refine ⟨?_, ?_, ?_, hinv.sound.owned, hinv.sound.single, ?_, ?_⟩
  · rw [haddr]
    exact Ipv4.span_pairwise_lt hvalid.span_bound
  · intro a
    rw [haddr]
    exact hvalid.mem_span
  · rw [haddr]
    exact hvalid.serverIp_not_mem_span
  · intro r hr hl
    obtain ⟨i, e, he, g, hexp, hlater⟩ := leaseHistory_run hcreate es r hr hl
    exact ⟨i, e, he, g, hexp, by simp only [hexp, leaseMillis]; omega, hlater⟩
  · intro e h hr
    exact hinv.activeLeaseFor?_releases hr

/-- The default configuration is valid, so its server keeps these facts along every run. -/
theorem pool_facts_default : ServerConfig.default.validate = .ok () ∧
    ∃ s, create .default = .ok s ∧ ∀ es, RunFacts .default s es :=
  ⟨by decide, pool_facts_along_runs (by decide)⟩

/-! ## Two grants of one address -/

/-- A hold lasts, step after step, until one of the three things that end it. -/
theorem holdsUntil_run {s : Server} (hs : s.Invariant) {es : List Event} {h : HardwareAddress}
    {a : Ipv4} {x : Int} {m : Nat} (hold : (s.run (es.take m)).pool.HoldsUntil h a x) :
    ∀ n, m ≤ n → n ≤ es.length →
      (∀ k ek, m ≤ k → k < n → es[k]? = some ek →
        ¬ (Releases ek h ∨ (∃ b, (s.run (es.take k)).Grants ek h b) ∨
          ∃ t, ek = .sweep t ∧ x ≤ t)) →
      (s.run (es.take n)).pool.HoldsUntil h a x := by
  intro n hmn
  induction n, hmn using Nat.le_induction with
  | base => exact fun _ _ => hold
  | succ n hmn ih =>
    intro hlen kept
    have held := ih (by omega) fun k ek h₁ h₂ => kept k ek h₁ (by omega)
    obtain ⟨ek, hek⟩ : ∃ ek, es[n]? = some ek := ⟨es[n], List.getElem?_eq_getElem (by omega)⟩
    rw [run_take_succ s hek]
    by_contra lost
    exact kept n ek hmn (by omega) hek (((hs.run _).step_lost held lost))

/-- **Grant exclusivity.** If step `i` grants `a` to `h` and a later step `j` grants it to
another client, then between `h`'s last grant of `a` before `j` (step `p`) and step `j` there
is a step that ends `h`'s hold: a RELEASE from `h`, a grant of another address to `h`, or a
sweep at or after the time of step `p` plus the lease duration. -/
theorem grant_exclusive {c : ServerConfig} {s : Server} (hcreate : create c = .ok s)
    {es : List Event} {i j : Nat} {h h' : HardwareAddress} {a : Ipv4}
    (hij : i < j) (gi : s.GrantsAt es i h a) (gj : s.GrantsAt es j h' a) (hne : h' ≠ h) :
    ∃ p k ep ek, i ≤ p ∧ p < k ∧ k < j ∧ es[p]? = some ep ∧ es[k]? = some ek ∧
      s.GrantsAt es p h a ∧ (∀ q, p < q → q < j → ¬ s.GrantsAt es q h a) ∧
      (Releases ek h ∨ (∃ b, b ≠ a ∧ s.GrantsAt es k h b) ∨
        ∃ t, ek = .sweep t ∧ ep.time + (c.leaseDurationSeconds.toNat : Int) * 1000 ≤ t) := by
  classical
  have hs := invariant_of_create hcreate
  have hconfig := config_of_create hcreate
  -- the last grant of `a` to `h` before step `j`
  let P := fun q => i ≤ q ∧ s.GrantsAt es q h a
  have hp : P (Nat.findGreatest P (j - 1)) := Nat.findGreatest_spec (m := i) (by omega) ⟨le_rfl, gi⟩
  have hpj : Nat.findGreatest P (j - 1) < j := by
    have := Nat.findGreatest_le (P := P) (j - 1)
    omega
  have hlast : ∀ q, Nat.findGreatest P (j - 1) < q → q < j → ¬ s.GrantsAt es q h a :=
    fun q h₁ h₂ g => Nat.findGreatest_is_greatest h₁ (by omega) ⟨by omega, g⟩
  generalize Nat.findGreatest P (j - 1) = p at hp hpj hlast
  obtain ⟨hip, ep, hep, gp⟩ := hp
  obtain ⟨ej, hej, gj'⟩ := gj
  have hjlen : j < es.length := (List.getElem?_eq_some_iff.mp hej).1
  -- after step `p`, `h` holds `a` until `x`
  let x := ep.time + s.leaseMillis
  have held : (s.run (es.take (p + 1))).pool.HoldsUntil h a x := by
    obtain ⟨r, hcommit⟩ := (hs.run _).commit_of_grants gp
    rw [run_take_succ s hep]
    have := (hs.run _).sound.holdsUntil_commit hcommit
    rwa [leaseMillis_run] at this
  by_contra hnone
  have kept : ∀ k ek, p + 1 ≤ k → k < j → es[k]? = some ek →
      ¬ (Releases ek h ∨ (∃ b, (s.run (es.take k)).Grants ek h b) ∨
        ∃ t, ek = .sweep t ∧ x ≤ t) := by
    rintro k ek hk₁ hk₂ hek (hrel | ⟨b, gb⟩ | ⟨t, rfl, ht⟩)
    · exact hnone ⟨p, k, ep, ek, hip, hk₁, hk₂, hep, hek, ⟨ep, hep, gp⟩, hlast, .inl hrel⟩
    · by_cases hb : b = a
      · subst hb
        exact hlast k hk₁ hk₂ ⟨ek, hek, gb⟩
      · exact hnone ⟨p, k, ep, ek, hip, hk₁, hk₂, hep, hek, ⟨ep, hep, gp⟩, hlast,
          .inr (.inl ⟨b, hb, ek, hek, gb⟩)⟩
    · refine hnone ⟨p, k, ep, .sweep t, hip, hk₁, hk₂, hep, hek, ⟨ep, hep, gp⟩, hlast,
        .inr (.inr ⟨t, rfl, ?_⟩)⟩
      rw [← hconfig]
      exact ht
  -- so `h` still holds `a` at step `j`, where the checks let only `h` commit it
  have held_j := holdsUntil_run hs held j (by omega) (by omega) kept
  obtain ⟨r, hcommit⟩ := (hs.run _).commit_of_grants gj'
  exact hne ((hs.run _).sound.commit_owner_of_holdsUntil (hs.run _).valid hcommit held_j).symm

/-- A pool of one address, `192.168.1.100`. -/
def handoverConfig : ServerConfig :=
  { ServerConfig.default with poolEnd := ServerConfig.default.poolStart }

def handoverServer : Server :=
  ⟨handoverConfig, LeasePool.ofRange handoverConfig.poolStart handoverConfig.poolSize⟩

/-- The first client is granted the address and gives it back; then the second is granted it. -/
def handoverEvents : List Event :=
  [.datagram 0 (Message.request (.ofMac 2 0 0 0 0 1) 1 handoverConfig.poolStart
      handoverConfig.serverIp .unspecified).wire (.v4 .unspecified 68),
    .datagram 1000 (Message.release (.ofMac 2 0 0 0 0 1) 2 handoverConfig.poolStart).wire
      (.v4 .unspecified 68),
    .datagram 2000 (Message.request (.ofMac 2 0 0 0 0 2) 3 handoverConfig.poolStart
      handoverConfig.serverIp .unspecified).wire (.v4 .unspecified 68)]

/-- The handover, with the first client's RELEASE between the two grants. -/
theorem grant_exclusive_handover :
    create handoverConfig = .ok handoverServer ∧ 0 < 2 ∧
      handoverServer.GrantsAt handoverEvents 0 (.ofMac 2 0 0 0 0 1) handoverConfig.poolStart ∧
      handoverServer.GrantsAt handoverEvents 2 (.ofMac 2 0 0 0 0 2) handoverConfig.poolStart ∧
      HardwareAddress.ofMac 2 0 0 0 0 2 ≠ .ofMac 2 0 0 0 0 1 ∧
      ∃ p k ep ek, 0 ≤ p ∧ p < k ∧ k < 2 ∧ handoverEvents[p]? = some ep ∧
        handoverEvents[k]? = some ek ∧
        handoverServer.GrantsAt handoverEvents p (.ofMac 2 0 0 0 0 1) handoverConfig.poolStart ∧
        (∀ q, p < q → q < 2 →
          ¬ handoverServer.GrantsAt handoverEvents q (.ofMac 2 0 0 0 0 1) handoverConfig.poolStart) ∧
        (Releases ek (.ofMac 2 0 0 0 0 1) ∨
          (∃ b, b ≠ handoverConfig.poolStart ∧
            handoverServer.GrantsAt handoverEvents k (.ofMac 2 0 0 0 0 1) b) ∨
          ∃ t, ek = .sweep t ∧
            ep.time + (handoverConfig.leaseDurationSeconds.toNat : Int) * 1000 ≤ t) := by
  have hcreate : create handoverConfig = .ok handoverServer := create_eq_ok (by decide)
  -- the three datagrams decode to the messages they encode
  have hreq₁ := Message.decode_wire (Message.encodable_request (.ofMac 2 0 0 0 0 1) 1
    handoverConfig.poolStart handoverConfig.serverIp .unspecified)
  have hrel := Message.decode_wire (Message.encodable_release (.ofMac 2 0 0 0 0 1) 2
    handoverConfig.poolStart)
  have hreq₂ := Message.decode_wire (Message.encodable_request (.ofMac 2 0 0 0 0 2) 3
    handoverConfig.poolStart handoverConfig.serverIp .unspecified)
  -- an ACK to a REQUEST encodes
  have hack : ∀ (req : Message) (a : Ipv4) (lease : UInt32), req.htype = 1 →
      ∃ b, (req.ack a handoverConfig.serverIp lease).encode = .ok b := fun req a lease h =>
    ⟨_, Message.encode_eq_ok (Message.encodable_reply (by rw [h]; decide) _ _ _ _)⟩
  -- step 0 grants the address to the first client
  have h₀ : handoverServer.handling? handoverEvents[0] = some
      ⟨⟨[⟨handoverConfig.poolStart, true, .ofMac 2 0 0 0 0 1, 3600000⟩]⟩,
        some ((Message.request (.ofMac 2 0 0 0 0 1) 1 handoverConfig.poolStart
          handoverConfig.serverIp .unspecified).ack handoverConfig.poolStart
          handoverConfig.serverIp 3600), some 0⟩ :=
    handling?_datagram hreq₁ (by rfl) (by rintro r ⟨⟩; exact hack _ _ _ rfl)
  -- step 1 is the first client's RELEASE
  have h₁ : (handoverServer.step handoverEvents[0]).handling? handoverEvents[1] = some
      ⟨⟨[⟨handoverConfig.poolStart, false, .ofMac 2 0 0 0 0 1, 1000⟩]⟩, none, some 0⟩ := by
    rw [step_of_handling? h₀]
    exact handling?_datagram hrel (by rfl) (by rintro r ⟨⟩)
  -- step 2 grants it to the second client
  have h₂ : ((handoverServer.step handoverEvents[0]).step handoverEvents[1]).handling?
      handoverEvents[2] = some
      ⟨⟨[⟨handoverConfig.poolStart, true, .ofMac 2 0 0 0 0 2, 3602000⟩]⟩,
        some ((Message.request (.ofMac 2 0 0 0 0 2) 3 handoverConfig.poolStart
          handoverConfig.serverIp .unspecified).ack handoverConfig.poolStart
          handoverConfig.serverIp 3600), some 0⟩ := by
    rw [step_of_handling? h₁, config_step]
    exact handling?_datagram hreq₂ (by rfl) (by rintro r ⟨⟩; exact hack _ _ _ rfl)
  have g₀ : handoverServer.GrantsAt handoverEvents 0 (.ofMac 2 0 0 0 0 1)
      handoverConfig.poolStart :=
    ⟨_, rfl, _, _, h₀, rfl, Message.kind_ack, rfl, rfl⟩
  have g₂ : handoverServer.GrantsAt handoverEvents 2 (.ofMac 2 0 0 0 0 2)
      handoverConfig.poolStart :=
    ⟨_, rfl, _, _, h₂, rfl, Message.kind_ack, rfl, rfl⟩
  have hne : HardwareAddress.ofMac 2 0 0 0 0 2 ≠ .ofMac 2 0 0 0 0 1 := by decide
  exact ⟨hcreate, by decide, g₀, g₂, hne, grant_exclusive hcreate (by decide) g₀ g₂ hne⟩

end Server

end AddressLeasing
