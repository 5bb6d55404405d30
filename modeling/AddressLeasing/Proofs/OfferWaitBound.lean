import AddressLeasing.Proofs.CommitEffect
import Mathlib.Data.List.Sort
/-!
# How long a DISCOVER waits for an address

While no address can be offered, the server looks again every `retry` milliseconds of virtual
time, and gives up once one more retry would pass the budget (half the lease duration). With a
positive retry interval the looks fall at `0, retry, 2·retry, …`, the multiples of `retry` up to
the budget, `budget / retry + 1` of them; the wait ends at the first look that finds an
address, or after the last one, `budget / retry · retry` milliseconds in, with nothing
(`OfferWait.Bounded`). A look leaves room for another retry exactly when it is not the last.

The configuration's checks do not exclude a zero retry interval. Then the clock never moves,
every look sees what the first one saw, and a wait that starts with nothing to offer never ends
(`OfferWait.run_zero_of_none`): a full pool with a zero retry interval holds the server in its
wait for good (`zero_retry_wait_endless`).
-/

set_option autoImplicit false

namespace AddressLeasing

namespace OfferWait

/-- The times the wait looks up an address, with a positive retry interval: `0, retry,
2·retry, …`, as many as leave room for a retry within the budget and one more. -/
def schedule (budget retry : Nat) : List Nat := (List.range (budget / retry + 1)).map (· * retry)

section Schedule

variable {budget retry t : Nat}

theorem run_eq_findSome (hr : retry ≠ 0) (lookup : Nat → Option Ipv4) :
    run lookup budget retry =
      match (schedule budget retry).findSome? (fun t => (lookup t).map (·, t)) with
      | some (a, t) => .found a t
      | none => .exhausted (budget / retry * retry) := by
  unfold run
  rw [if_neg hr]
  rfl

/-- The looks fall on the multiples of the retry interval up to the budget. -/
theorem mem_schedule (hr : 0 < retry) : t ∈ schedule budget retry ↔ retry ∣ t ∧ t ≤ budget := by
  simp only [schedule, List.mem_map, List.mem_range]
  constructor
  · rintro ⟨k, hk, rfl⟩
    exact ⟨Nat.dvd_mul_left retry k,
      ((Nat.le_div_iff_mul_le hr).mp (Nat.lt_succ_iff.mp hk))⟩
  · rintro ⟨⟨k, rfl⟩, hle⟩
    refine ⟨k, Nat.lt_succ_of_le ((Nat.le_div_iff_mul_le hr).mpr ?_), Nat.mul_comm k retry⟩
    rwa [Nat.mul_comm]

/-- The looks come in increasing time. -/
theorem schedule_pairwise (hr : 0 < retry) : (schedule budget retry).Pairwise (· < ·) := by
  simp only [schedule, List.pairwise_map]
  exact List.pairwise_lt_range.imp fun h => (Nat.mul_lt_mul_right hr).mpr h

/-- The `k`-th look leaves room for another retry within the budget exactly when it is not
the last, the `budget / retry`-th. -/
theorem exit_iff_last (hr : 0 < retry) {k : Nat} (hk : k ≤ budget / retry) :
    budget < k * retry + retry ↔ k = budget / retry := by
  have hlast : budget < budget / retry * retry + retry := Nat.lt_div_mul_add hr
  constructor
  · intro hexit
    refine Nat.le_antisymm hk (Nat.not_lt.mp fun hlt => ?_)
    -- an earlier look is followed by one more within the budget
    have hnext : (k + 1) * retry ≤ budget / retry * retry := Nat.mul_le_mul_right retry hlt
    have hbudget := Nat.div_mul_le_self budget retry
    rw [Nat.succ_mul] at hnext
    omega
  · rintro rfl
    exact hlast

/-- The looks are the multiples of the retry interval up to the budget, in increasing time:
both lists increase and have the same members. -/
theorem schedule_eq_filter (hr : 0 < retry) :
    schedule budget retry = (List.range (budget + 1)).filter (retry ∣ ·) := by
  refine List.Pairwise.eq_of_mem_iff (schedule_pairwise hr)
    (List.pairwise_lt_range.filter _) fun t => ?_
  rw [mem_schedule hr, List.mem_filter, List.mem_range, decide_eq_true_iff, Nat.lt_succ_iff,
    and_comm]

theorem length_schedule (budget retry : Nat) :
    (schedule budget retry).length = budget / retry + 1 := by
  simp [schedule]

end Schedule

/-! ## How the wait ends -/

/-- How a wait with the looks `lookup` ends, for a positive retry interval. -/
structure Bounded (lookup : Nat → Option Ipv4) (budget retry : Nat) : Prop where
  /-- The first look that finds an address ends the wait with it, at its time. -/
  found : ∀ a t, run lookup budget retry = .found a t ↔
    retry ∣ t ∧ t ≤ budget ∧ lookup t = some a ∧ ∀ t' < t, retry ∣ t' → lookup t' = none
  /-- When every look up to the budget finds nothing, the wait gives up after the last one,
  `budget / retry · retry` milliseconds in. -/
  exhausted : ∀ t, run lookup budget retry = .exhausted t ↔
    (∀ t' ≤ budget, retry ∣ t' → lookup t' = none) ∧ t = budget / retry * retry
  /-- The wait ends. -/
  ends : run lookup budget retry ≠ .endless
  /-- The wait looks at the times of `schedule`: the multiples of the retry interval up to the
  budget, `budget / retry + 1` of them. -/
  looks : schedule budget retry = (List.range (budget + 1)).filter (retry ∣ ·) ∧
    (schedule budget retry).length = budget / retry + 1
  /-- A look leaves room for another retry exactly when it is not the last. -/
  lastLook : ∀ k ≤ budget / retry, budget < k * retry + retry ↔ k = budget / retry

section Run

variable {lookup : Nat → Option Ipv4} {budget retry : Nat}

theorem run_found_iff (hr : 0 < retry) {a : Ipv4} {t : Nat} :
    run lookup budget retry = .found a t ↔
      retry ∣ t ∧ t ≤ budget ∧ lookup t = some a ∧ ∀ t' < t, retry ∣ t' → lookup t' = none := by
  rw [run_eq_findSome (Nat.pos_iff_ne_zero.mp hr)]
  constructor
  · intro h
    split at h
    · rename_i a' t' hfind
      injection h with ha ht
      rw [ha, ht] at hfind
      obtain ⟨l₁, x, l₂, hsplit, hx, hbefore⟩ := List.findSome?_eq_some_iff.mp hfind
      obtain ⟨hlook, rfl⟩ : lookup x = some a ∧ x = t := by
        simpa using hx
      have hmem : x ∈ schedule budget retry := by simp [hsplit]
      have hpair : (schedule budget retry).Pairwise (· < ·) := schedule_pairwise hr
      rw [hsplit, List.pairwise_append, List.pairwise_cons] at hpair
      obtain ⟨-, ⟨hafter, -⟩, -⟩ := hpair
      refine ⟨((mem_schedule hr).mp hmem).1, ((mem_schedule hr).mp hmem).2, hlook,
        fun t' hlt hdvd => ?_⟩
      -- an earlier multiple is a look before this one, which found nothing
      have hmem' : t' ∈ l₁ ++ x :: l₂ := hsplit ▸ (mem_schedule hr).mpr
        ⟨hdvd, Nat.le_trans (Nat.le_of_lt hlt) ((mem_schedule hr).mp hmem).2⟩
      rcases List.mem_append.mp hmem' with h₁ | h₂
      · simpa using hbefore t' h₁
      · rcases List.mem_cons.mp h₂ with rfl | h₂
        · omega
        · exact absurd (hafter t' h₂) (by omega)
    · cases h
  · rintro ⟨hdvd, hle, hlook, hbefore⟩
    obtain ⟨l₁, l₂, hsplit⟩ := List.append_of_mem ((mem_schedule hr).mpr ⟨hdvd, hle⟩)
    have hpair : (schedule budget retry).Pairwise (· < ·) := schedule_pairwise hr
    rw [hsplit, List.pairwise_append] at hpair
    have hfind : (schedule budget retry).findSome? (fun t => (lookup t).map (·, t)) =
        some (a, t) := by
      refine List.findSome?_eq_some_iff.mpr ⟨l₁, t, l₂, hsplit, by simp [hlook], fun y hy => ?_⟩
      -- the looks before `t` are the earlier multiples
      have hy' : y ∈ schedule budget retry := by simp [hsplit, hy]
      have hylt : y < t := hpair.2.2 y hy t (by simp)
      simp [hbefore y hylt ((mem_schedule hr).mp hy').1]
    rw [hfind]

theorem run_exhausted_iff (hr : 0 < retry) {t : Nat} :
    run lookup budget retry = .exhausted t ↔
      (∀ t' ≤ budget, retry ∣ t' → lookup t' = none) ∧ t = budget / retry * retry := by
  have hnone : (schedule budget retry).findSome? (fun t => (lookup t).map (·, t)) = none ↔
      ∀ t' ≤ budget, retry ∣ t' → lookup t' = none := by
    rw [List.findSome?_eq_none_iff]
    constructor
    · intro h t' hle hdvd
      simpa using h t' ((mem_schedule hr).mpr ⟨hdvd, hle⟩)
    · intro h x hx
      simp [h x ((mem_schedule hr).mp hx).2 ((mem_schedule hr).mp hx).1]
  rw [run_eq_findSome (Nat.pos_iff_ne_zero.mp hr), ← hnone]
  split
  · rename_i hfind
    simp [hfind]
  · rename_i hfind
    simp [hfind, eq_comm]

theorem run_ne_endless (hr : retry ≠ 0) : run lookup budget retry ≠ .endless := by
  rw [run_eq_findSome hr]
  split <;> simp

/-- **A wait with a positive retry interval ends**, at the first look that finds an address or
after the last of the `budget / retry + 1` looks. -/
theorem bounded (hr : 0 < retry) : Bounded lookup budget retry where
  found _ _ := run_found_iff hr
  exhausted _ := run_exhausted_iff hr
  ends := run_ne_endless (Nat.pos_iff_ne_zero.mp hr)
  looks := ⟨schedule_eq_filter hr, length_schedule budget retry⟩
  lastLook _ hk := exit_iff_last hr hk

/-- With a zero retry interval the clock stands still: a first look that finds nothing is
looked at again and again, without end. -/
theorem run_zero_of_none (h : lookup 0 = none) (budget : Nat) : run lookup budget 0 = .endless := by
  simp [run, h]

end Run

end OfferWait

namespace Server

/-- The server's own wait, on a pool that does not change while it waits: an address at once, or
nothing after `budget / retry · retry` milliseconds. -/
theorem offerAddress_eq (s : Server) (hr : s.config.offerRetryInterval ≠ 0)
    (owner : HardwareAddress) (requested : Option Ipv4) :
    s.offerAddress owner requested =
      match s.pool.selectOffer owner requested with
      | some a => .found a 0
      | none => .exhausted (s.config.offerWaitBudget / s.config.offerRetryInterval *
          s.config.offerRetryInterval) := by
  cases hsel : s.pool.selectOffer owner requested with
  | some a => exact OfferWait.run_found_zero hsel _ _
  | none =>
    exact (OfferWait.run_exhausted_iff (Nat.pos_of_ne_zero hr)).mpr ⟨fun _ _ _ => hsel, rfl⟩

/-- **The offer wait ends** when the retry interval is positive. Whatever the pool does
meanwhile (the look at each virtual time is `lookup`), the wait looks at the multiples of the
retry interval up to half the lease duration, `budget / retry + 1` times at most, and ends with
the address of the first look that finds one, or with nothing after the last look,
`budget / retry · retry` milliseconds in; the server's wait on its own pool ends at once with
the address `selectOffer` picks, or after that whole time with nothing. -/
theorem offer_wait_terminates (s : Server) (hr : 0 < s.config.offerRetryInterval)
    (owner : HardwareAddress) (requested : Option Ipv4) :
    (∀ lookup : Nat → Option Ipv4,
      OfferWait.Bounded lookup s.config.offerWaitBudget s.config.offerRetryInterval) ∧
    s.offerAddress owner requested =
      match s.pool.selectOffer owner requested with
      | some a => .found a 0
      | none => .exhausted
          (s.config.offerWaitBudget / s.config.offerRetryInterval * s.config.offerRetryInterval) :=
  ⟨fun _ => OfferWait.bounded hr, offerAddress_eq s (Nat.pos_iff_ne_zero.mp hr) owner requested⟩

/-- The default configuration moved to the one address `192.168.1.100`. -/
def singleConfig : ServerConfig :=
  { ServerConfig.default with poolEnd := ServerConfig.default.poolStart }

/-- The server of `c` whose pool is the one address `c.poolStart`, leased to
`02:00:00:00:00:01` for an hour. -/
def fullServer (c : ServerConfig) : Server :=
  ⟨c, (LeasePool.ofRange c.poolStart 1).grant (.ofMac 2 0 0 0 0 1) c.poolStart 0 3600000⟩

/-- A DISCOVER on the full one-address server waits the whole half hour, in 250 ms steps. -/
theorem offer_wait_terminates_full :
    0 < (fullServer singleConfig).config.offerRetryInterval ∧
      (fullServer singleConfig).offerAddress (.ofMac 2 0 0 0 0 2) none = .exhausted 1800000 := by
  have hr : 0 < (fullServer singleConfig).config.offerRetryInterval := by decide
  refine ⟨hr, ?_⟩
  rw [(offer_wait_terminates (fullServer singleConfig) hr (.ofMac 2 0 0 0 0 2) none).2]
  decide

/-- `singleConfig` with a zero retry interval, which its checks accept. -/
def zeroRetryConfig : ServerConfig := { singleConfig with offerRetryIntervalMillis := 0 }

/-- **A zero retry interval makes the wait endless.** The configuration passes every check, the
pool is one the API builds, and a DISCOVER from another client finds it full: the server then
waits for a free address for ever, the clock never moving on. -/
theorem zero_retry_wait_endless :
    zeroRetryConfig.validate = .ok () ∧ (fullServer zeroRetryConfig).pool.Reachable ∧
      (fullServer zeroRetryConfig).offerAddress (.ofMac 2 0 0 0 0 2) none = .endless := by
  have hfull : (fullServer zeroRetryConfig).pool.selectOffer (.ofMac 2 0 0 0 0 2) none = none := by
    decide
  refine ⟨by decide, ?_, OfferWait.run_zero_of_none hfull _⟩
  exact @LeasePool.Reachable.commit _ _ (.ofMac 2 0 0 0 0 1) zeroRetryConfig.poolStart 0 3600000 _
    (@LeasePool.Reachable.fromRange zeroRetryConfig.poolStart zeroRetryConfig.poolStart _ rfl)
    (by rfl)

end Server

end AddressLeasing
