import AddressLeasing.Proofs.CommitEffect
/-!
# Expiry sweeps

A sweep at `t` ends every lease that has run out by `t`: it clears the `leased` flag of exactly
the records that are leased with an expiry at or before `t`, and leaves every other field and
every other record alone, so a client keeps its claim to come back to the address. It returns
how many leases it ended.

Two sweeps are the later of the two (`sweepExpired_sweepExpired`), and so a run of sweeps is
one sweep at its latest time (`sweepAll_cons`). Hence the life of a lease granted at `t₀` for
`d`: every sweep before `t₀ + d` leaves it as it is, and the first sweep at or after `t₀ + d`
ends it, the boundary itself included.
-/

set_option autoImplicit false

namespace AddressLeasing

/-- Two counts that split a third, record by record, add up to it. -/
theorem countP_add_of_split {α : Type} {p q r : α → Bool}
    (h : ∀ x, (if p x then 1 else 0) + (if q x then 1 else 0) = if r x then 1 else 0) :
    ∀ l : List α, l.countP p + l.countP q = l.countP r
  | [] => rfl
  | x :: l => by
    have hx := h x
    have hl := countP_add_of_split h l
    simp only [List.countP_cons]
    omega

namespace LeasePool

/-! ## One record -/

/-- A sweep changes only the `leased` flag, which stays set while the lease has not run out. -/
theorem sweepRecord_eq (t : Int) (r : LeaseRecord) :
    sweepRecord t r = { r with leased := r.leased && decide (t < r.expiresAt) } := by
  obtain ⟨address, leased, owner, expiresAt⟩ := r
  unfold sweepRecord LeaseRecord.isExpiredAt
  by_cases ht : expiresAt ≤ t
  · have hlt : ¬ t < expiresAt := Int.not_lt.mpr ht
    cases leased <;> simp [ht, hlt]
  · have hlt : t < expiresAt := Int.not_le.mp ht
    simp [ht, hlt]

theorem sweepRecord_of_lt {t : Int} {r : LeaseRecord} (h : t < r.expiresAt) :
    sweepRecord t r = r := by
  simp [sweepRecord_eq, h]

theorem sweepRecord_of_le {t : Int} {r : LeaseRecord} (h : r.expiresAt ≤ t) :
    sweepRecord t r = { r with leased := false } := by
  rw [sweepRecord_eq]
  simp [Int.not_lt.mpr h]

@[simp] theorem address_sweepRecord (t : Int) (r : LeaseRecord) :
    (sweepRecord t r).address = r.address := by
  rw [sweepRecord_eq]

/-- A sweep after a sweep is the later sweep. -/
theorem sweepRecord_sweepRecord (t₁ t₂ : Int) (r : LeaseRecord) :
    sweepRecord t₂ (sweepRecord t₁ r) = sweepRecord (max t₁ t₂) r := by
  simp only [sweepRecord_eq, Int.max_lt, Bool.decide_and, Bool.and_assoc]

/-- A leased record is counted once: as still leased after a sweep, or as ended by it. -/
theorem sweep_counts_lease (t : Int) (r : LeaseRecord) :
    (if (sweepRecord t r).leased then 1 else 0) + (if r.isExpiredAt t then 1 else 0) =
      if r.leased then 1 else 0 := by
  rw [sweepRecord_eq]
  obtain ⟨-, leased, -, e⟩ := r
  unfold LeaseRecord.isExpiredAt
  cases leased
  · simp
  · by_cases h : e ≤ t
    · simp [h, Int.not_lt.mpr h]
    · simp [h, Int.not_le.mp h]

/-- A lease that has run out by the later of two sweeps is ended by exactly one of them. -/
theorem sweeps_count_lease (t₁ t₂ : Int) (r : LeaseRecord) :
    (if r.isExpiredAt t₁ then 1 else 0) + (if (sweepRecord t₁ r).isExpiredAt t₂ then 1 else 0) =
      if r.isExpiredAt (max t₁ t₂) then 1 else 0 := by
  rw [sweepRecord_eq]
  obtain ⟨-, leased, -, e⟩ := r
  unfold LeaseRecord.isExpiredAt
  have hmax : e ≤ max t₁ t₂ ↔ e ≤ t₁ ∨ e ≤ t₂ := by omega
  cases leased
  · simp
  · by_cases h₁ : e ≤ t₁
    · simp [h₁, hmax, Int.not_lt.mpr h₁]
    · by_cases h₂ : e ≤ t₂ <;> simp [h₁, h₂, hmax, Int.not_le.mp h₁]

/-! ## The pool -/

/-- The record of an address, after a change of records that keeps every address, is the
changed record. -/
theorem recordFor?_map {f : LeaseRecord → LeaseRecord} (hf : ∀ r, (f r).address = r.address)
    (p : LeasePool) (a : Ipv4) :
    (⟨p.records.map f⟩ : LeasePool).recordFor? a = (p.recordFor? a).map f := by
  obtain ⟨rs⟩ := p
  -- `indexOf?` reads only the first address and the size, which the change keeps
  have hindex : (⟨rs.map f⟩ : LeasePool).indexOf? a = (⟨rs⟩ : LeasePool).indexOf? a := by
    cases rs with
    | nil => rfl
    | cons r rest =>
      simp only [indexOf?, size, List.map_cons, List.length_cons, List.length_map, hf r]
      rfl
  simp only [recordFor?, hindex]
  cases (⟨rs⟩ : LeasePool).indexOf? a with
  | none => rfl
  | some i => simp

theorem sweepExpired_eq_map (p : LeasePool) (t : Int) :
    (p.sweepExpired t).1 = ⟨p.records.map (sweepRecord t)⟩ := rfl

theorem sweepExpired_count (p : LeasePool) (t : Int) :
    (p.sweepExpired t).2 = p.records.countP (·.isExpiredAt t) :=
  List.countP_eq_length_filter.symm

theorem leasedCount_sweepExpired_add (p : LeasePool) (t : Int) :
    (p.sweepExpired t).1.leasedCount + (p.sweepExpired t).2 = p.leasedCount := by
  rw [leasedCount_eq_countP, leasedCount_eq_countP, sweepExpired_records, List.countP_map,
    sweepExpired_count]
  exact countP_add_of_split (sweep_counts_lease t) p.records

/-- **What a sweep does**: it clears the lease flag of exactly the records whose lease has run
out by `t`, changes nothing else, and returns how many they are, the leases it ended. -/
theorem sweepExpired_effect (p : LeasePool) (t : Int) :
    (p.sweepExpired t).1.records =
        p.records.map (fun r => { r with leased := r.leased && decide (t < r.expiresAt) }) ∧
      (p.sweepExpired t).2 = p.records.countP (fun r => r.leased && decide (r.expiresAt ≤ t)) ∧
      (p.sweepExpired t).1.leasedCount + (p.sweepExpired t).2 = p.leasedCount := by
  refine ⟨?_, sweepExpired_count p t, leasedCount_sweepExpired_add p t⟩
  rw [sweepExpired_records]
  exact List.map_congr_left fun r _ => sweepRecord_eq t r

/-- **Two sweeps are the later one**, and between them they end the leases it ends. -/
theorem sweepExpired_sweepExpired (p : LeasePool) (t₁ t₂ : Int) :
    ((p.sweepExpired t₁).1.sweepExpired t₂).1 = (p.sweepExpired (max t₁ t₂)).1 ∧
      (p.sweepExpired t₁).2 + ((p.sweepExpired t₁).1.sweepExpired t₂).2 =
        (p.sweepExpired (max t₁ t₂)).2 := by
  constructor
  · rw [sweepExpired_eq_map, sweepExpired_eq_map, sweepExpired_eq_map, List.map_map]
    exact congrArg LeasePool.mk (List.map_congr_left fun r _ => sweepRecord_sweepRecord t₁ t₂ r)
  · rw [sweepExpired_count, sweepExpired_count, sweepExpired_count, sweepExpired_records,
      List.countP_map]
    exact countP_add_of_split (sweeps_count_lease t₁ t₂) p.records

/-! ## Runs of sweeps -/

/-- Sweeps at the times `ts`, one after another. -/
def sweepAll (p : LeasePool) (ts : List Int) : LeasePool :=
  ts.foldl (fun q t => (q.sweepExpired t).1) p

/-- A run of sweeps is one sweep at its latest time. -/
theorem sweepAll_cons (p : LeasePool) (t : Int) (ts : List Int) :
    p.sweepAll (t :: ts) = (p.sweepExpired (ts.foldl max t)).1 := by
  -- on the sweeps after the first, each folded into it by the law for two sweeps
  induction ts generalizing t with
  | nil => rfl
  | cons t' ts ih =>
    calc p.sweepAll (t :: t' :: ts)
        = ts.foldl (fun q t => (q.sweepExpired t).1) ((p.sweepExpired t).1.sweepExpired t').1 := rfl
      _ = ts.foldl (fun q t => (q.sweepExpired t).1) (p.sweepExpired (max t t')).1 := by
          rw [(sweepExpired_sweepExpired p t t').1]
      _ = (p.sweepExpired ((t' :: ts).foldl max t)).1 := ih (max t t')

/-! ## The life of a lease -/

/-- The record of `a` through sweeps: `a` leased to `owner` until `e` through every sweep
before `e`, and free, still naming `owner` and `e`, after the first sweep at or after `e`. -/
structure Lifetime (p : LeasePool) (owner : HardwareAddress) (a : Ipv4) (e : Int) : Prop where
  stays : ∀ ts, (∀ t ∈ ts, t < e) → (p.sweepAll ts).recordFor? a = some ⟨a, true, owner, e⟩
  ends : ∀ ts t, (∀ t' ∈ ts, t' < e) → e ≤ t →
    ((p.sweepAll ts).sweepExpired t).1.recordFor? a = some ⟨a, false, owner, e⟩

theorem foldl_max_lt {e t : Int} {ts : List Int} (ht : t < e) (hts : ∀ t' ∈ ts, t' < e) :
    ts.foldl max t < e := by
  induction ts generalizing t with
  | nil => exact ht
  | cons t' ts ih =>
    exact ih (Int.max_lt.mpr ⟨ht, hts t' (by simp)⟩) fun t'' h => hts t'' (by simp [h])

theorem recordFor?_sweepAll_of_lt {p : LeasePool} {a : Ipv4} {x : LeaseRecord}
    (hx : p.recordFor? a = some x) {ts : List Int} (hts : ∀ t ∈ ts, t < x.expiresAt) :
    (p.sweepAll ts).recordFor? a = some x := by
  cases ts with
  | nil => exact hx
  | cons t ts =>
    have hmax : ts.foldl max t < x.expiresAt :=
      foldl_max_lt (hts t (by simp)) fun t' ht' => hts t' (by simp [ht'])
    rw [sweepAll_cons, sweepExpired_eq_map, recordFor?_map (address_sweepRecord _), hx,
      Option.map_some, sweepRecord_of_lt hmax]

/-- A lease that a commit grants lives until its expiry and no longer. -/
theorem Reachable.lifetime_of_commit {p p' : LeasePool} (hp : p.Reachable) {owner : HardwareAddress}
    {a : Ipv4} {t₀ d : Int} {r' : LeaseRecord} (h : p.commit owner a t₀ d = .ok (p', r')) :
    p'.Lifetime owner a (t₀ + d) := by
  obtain ⟨c, -, hs⟩ := hp.sound
  obtain ⟨-, r, hr, -, rfl, -⟩ := commit_eq_ok h
  obtain ⟨-, ha⟩ := hs.recordFor?_eq_some hr
  -- right after the commit the record of `a` is leased to `owner` until `t₀ + d`
  have hgranted : (p.grant owner a t₀ (t₀ + d)).recordFor? a = some ⟨a, true, owner, t₀ + d⟩ := by
    rw [show p.grant owner a t₀ (t₀ + d) = ⟨p.records.map (grantRecord owner a t₀ (t₀ + d))⟩ from
      rfl, recordFor?_map (fun _ => address_grantRecord), hr, Option.map_some,
      grantRecord_of_address ha, ha]
  refine ⟨fun ts hts => recordFor?_sweepAll_of_lt hgranted hts, fun ts t hts ht => ?_⟩
  rw [sweepExpired_eq_map, recordFor?_map (address_sweepRecord _),
    recordFor?_sweepAll_of_lt hgranted hts, Option.map_some, sweepRecord_of_le ht]

/-- **Expiry sweeps**: a sweep at `t` clears the lease flag of exactly the records leased with
an expiry at or before `t`, changes nothing else and returns their number, the leases it ended;
two sweeps at `t₁` and `t₂` leave the pool a sweep at `max t₁ t₂` leaves, their counts adding
up to its count; and a lease that a commit at `t₀` grants for `d` stays through every sweep before `t₀ + d` and
ends at the first sweep at or after `t₀ + d`. -/
theorem sweep_expiry_laws :
    (∀ (p : LeasePool) (t : Int),
      (p.sweepExpired t).1.records =
          p.records.map (fun r => { r with leased := r.leased && decide (t < r.expiresAt) }) ∧
        (p.sweepExpired t).2 = p.records.countP (fun r => r.leased && decide (r.expiresAt ≤ t)) ∧
        (p.sweepExpired t).1.leasedCount + (p.sweepExpired t).2 = p.leasedCount) ∧
    (∀ (p : LeasePool) (t₁ t₂ : Int),
      ((p.sweepExpired t₁).1.sweepExpired t₂).1 = (p.sweepExpired (max t₁ t₂)).1 ∧
        (p.sweepExpired t₁).2 + ((p.sweepExpired t₁).1.sweepExpired t₂).2 =
          (p.sweepExpired (max t₁ t₂)).2) ∧
    (∀ (p p' : LeasePool) (owner : HardwareAddress) (a : Ipv4) (t₀ d : Int) (r' : LeaseRecord),
      p.Reachable → p.commit owner a t₀ d = .ok (p', r') → p'.Lifetime owner a (t₀ + d)) :=
  ⟨sweepExpired_effect, sweepExpired_sweepExpired,
    fun _ _ _ _ _ _ _ hp h => hp.lifetime_of_commit h⟩

/-- The range `10.0.0.1`–`10.0.0.3`. -/
def freshRange : LeasePool := ofRange (Ipv4.ofBytes [10, 0, 0, 1]) 3

theorem sweep_expiry_laws_freshRange :
    freshRange.Reachable ∧
      freshRange.commit (.ofMac 2 0 0 0 0 1) (Ipv4.ofBytes [10, 0, 0, 2]) 0 10000 =
        .ok (freshRange.grant (.ofMac 2 0 0 0 0 1) (Ipv4.ofBytes [10, 0, 0, 2]) 0 10000,
          ⟨Ipv4.ofBytes [10, 0, 0, 2], true, .ofMac 2 0 0 0 0 1, 10000⟩) ∧
      (freshRange.grant (.ofMac 2 0 0 0 0 1) (Ipv4.ofBytes [10, 0, 0, 2]) 0 10000).Lifetime
        (.ofMac 2 0 0 0 0 1) (Ipv4.ofBytes [10, 0, 0, 2]) (0 + 10000) :=
  have hp : freshRange.Reachable :=
    @Reachable.fromRange (Ipv4.ofBytes [10, 0, 0, 1]) (Ipv4.ofBytes [10, 0, 0, 3]) _ rfl
  have hc : freshRange.commit (.ofMac 2 0 0 0 0 1) (Ipv4.ofBytes [10, 0, 0, 2]) 0 10000 =
      .ok (freshRange.grant (.ofMac 2 0 0 0 0 1) (Ipv4.ofBytes [10, 0, 0, 2]) 0 10000,
        ⟨Ipv4.ofBytes [10, 0, 0, 2], true, .ofMac 2 0 0 0 0 1, 10000⟩) := by rfl
  ⟨hp, hc, sweep_expiry_laws.2.2 _ _ _ _ _ _ _ hp hc⟩

end LeasePool

end AddressLeasing
