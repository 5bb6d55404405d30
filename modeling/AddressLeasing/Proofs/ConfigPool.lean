import AddressLeasing.Proofs.ReplyCorrelation
/-!
# A configuration and its pool measure one range

The configuration and the pool each say which addresses are leased, by two computations. The
configuration compares 32-bit words: `ipInPool` tests `poolStart ≤ ip ≤ poolEnd`, and
`poolSize` is `poolEnd + 1 - poolStart`, taken on numbers so that neither end of the 32-bit
range overflows it. The pool measures distances: `contains` looks an address up at its distance
from the pool's first address, and finds it when that distance is below the number of records.

Both agree, at every address (`AgreesWith`), for every pool that serves a valid configuration,
so in particular for the fresh pool that `ofConfig` builds; and `ofConfig` fails only where
`validate` does.
-/

set_option autoImplicit false

namespace AddressLeasing

namespace LeasePool

variable {c : ServerConfig} {p : LeasePool} {a : Ipv4}

/-- What the pool says of the configuration's range, in the configuration's own terms. -/
structure AgreesWith (p : LeasePool) (c : ServerConfig) : Prop where
  /-- One record per address of the range. -/
  size : p.size = c.poolSize
  /-- The pool has an address exactly when the configuration puts it in the range. -/
  contains : ∀ ip, p.contains ip = c.ipInPool ip
  /-- The record found for an address is that address's record. -/
  recordFor : ∀ ip r, p.recordFor? ip = some r → r.address = ip
  /-- The server's own address is not in the pool. -/
  serverOutside : p.contains c.serverIp = false

theorem indexOf?_lt_size {i : Nat} (h : p.indexOf? a = some i) : i < p.size := by
  unfold indexOf? at h
  split at h
  · cases h
  split at h
  · rename_i hcond
    cases h
    simp only [Bool.and_eq_true, decide_eq_true_eq] at hcond
    exact hcond.2
  · cases h

theorem contains_of_recordFor? {r : LeaseRecord} (h : p.recordFor? a = some r) :
    p.contains a = true := by
  obtain ⟨i, hi, -⟩ := Option.bind_eq_some_iff.mp h
  simp [contains, hi]

/-- An address a sound pool has a position for is an address of the range. -/
theorem Sound.mem_span_of_contains (hs : Sound c p) (h : p.contains a = true) :
    a ∈ c.poolStart.span c.poolSize := by
  obtain ⟨i, hi⟩ := Option.isSome_iff_exists.mp h
  have hlt : i < c.poolSize := hs.length ▸ indexOf?_lt_size hi
  -- the position is the distance from the first address
  have hpos : c.poolStart.toNat + i = a.toNat := hs.indexOf?_eq_some hi
  exact List.mem_map.mpr ⟨i, List.mem_range.mpr hlt, by rw [hpos, Ipv4.ofNat_toNat]⟩

/-- In a sound pool of a valid configuration, `contains` is the configuration's range test. -/
theorem Sound.contains_iff (hs : Sound c p) (hc : c.Valid) :
    p.contains a = true ↔ c.ipInPool a = true := by
  have hrange : c.ipInPool a = true ↔ a ∈ c.poolStart.span c.poolSize := by
    rw [hc.mem_span]
    simp [ServerConfig.ipInPool]
  rw [hrange]
  refine ⟨hs.mem_span_of_contains, fun hmem => ?_⟩
  -- an address of the range has its record, which `recordFor?` finds
  rw [← hs.addresses] at hmem
  obtain ⟨r, hr, rfl⟩ := List.mem_map.mp hmem
  exact contains_of_recordFor? (hs.recordFor?_of_mem hc hr)

/-- Every pool serving a valid configuration agrees with it. -/
theorem Sound.agreesWith (hs : Sound c p) (hc : c.Valid) : p.AgreesWith c where
  size := hs.length
  contains ip := Bool.eq_iff_iff.mpr (hs.contains_iff hc)
  recordFor ip r h := (hs.recordFor?_eq_some h).2
  serverOutside := Bool.eq_false_iff.mpr fun h => by
    have := hc.serverOutside
    rw [(hs.contains_iff hc).mp h] at this
    cases this

/-- **A configuration and its pool agree.** A configuration that `validate` accepts yields a
pool with one record per address of its range, which has exactly the addresses the
configuration puts in the range, finds each at its own record, and leaves the server's address
out; and building the pool fails only for configurations that `validate` refuses. -/
theorem pool_agrees_with_config (c : ServerConfig) :
    (c.validate = .ok () → ∃ p, LeasePool.ofConfig c = .ok p ∧ p.AgreesWith c) ∧
      ∀ e, LeasePool.ofConfig c = .error e → ∃ e', c.validate = .error e' := by
  refine ⟨fun hv => ?_, fun e he => ?_⟩
  · have hc := ServerConfig.valid_of_validate hv
    exact ⟨_, ofConfig_eq_ok hc, (sound_ofRange c).agreesWith hc⟩
  · cases hv : c.validate with
    | error e' => exact ⟨e', rfl⟩
    | ok u =>
      -- a valid configuration yields its pool, not an error
      rw [ofConfig_eq_ok (ServerConfig.valid_of_validate hv)] at he
      cases he

/-- The default configuration is valid and its pool, `192.168.1.100`–`192.168.1.200`, agrees
with it. -/
theorem default_pool_agrees : ServerConfig.default.validate = .ok () ∧
    ∃ p, LeasePool.ofConfig .default = .ok p ∧ p.AgreesWith .default :=
  ⟨by decide, (pool_agrees_with_config _).1 (by decide)⟩

end LeasePool

end AddressLeasing
