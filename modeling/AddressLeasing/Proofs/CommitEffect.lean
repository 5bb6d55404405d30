import AddressLeasing.Proofs.LeaseCycle
/-!
# What a commit does

`commit owner a now d` makes three checks, in this order, and stops at the first that fails:
the owner is not the empty hardware address (`missingOwner`), `a` has a record
(`addressOutOfRange`), and that record is not leased to another owner (`ownershipConflict`).
Past them it fails only when `now + d` is not an instant of the calendar. When it succeeds,
`a`'s record is leased to the owner until `now + d`, every other record leased to the owner is
freed as of `now` and keeps its owner, and every other record stays as it was. An error carries
no pool: the caller keeps the pool it had.

The checks find `a`'s record through `recordFor?`, by its distance from the first address.
For the pools the API builds (`LeasePool.Reachable`: a range, then any commits, releases and
sweeps) that is the record whose address is `a`, and there is none exactly when `a` is outside
the pool, because every such pool is sound for some valid configuration (`Reachable.sound`).
No owner holds two leases there, so the number of leases grows by one exactly when `a` was free
and the owner held no lease, and stays as it was otherwise (`Sound.leasedCount_grant`).
-/

set_option autoImplicit false

namespace AddressLeasing

namespace LeasePool

/-! ## Pools the API builds -/

/-- The pools built by `fromRange` (which `fromSuffixRange` and `ofConfig` call) and then
changed by any number of commits, releases and sweeps. -/
inductive Reachable : LeasePool → Prop
  | fromRange {first last : Ipv4} {p : LeasePool} : fromRange first last = .ok p → Reachable p
  | commit {p p' : LeasePool} {owner : HardwareAddress} {a : Ipv4} {now d : Int}
      {r : LeaseRecord} : Reachable p → p.commit owner a now d = .ok (p', r) → Reachable p'
  | release {p : LeasePool} (owner : HardwareAddress) (now : Int) :
      Reachable p → Reachable (p.release owner now).1
  | sweep {p : LeasePool} (now : Int) : Reachable p → Reachable (p.sweepExpired now).1

/-- A range pool is the fresh pool of an ordered range of at most `maxSize` addresses. -/
theorem fromRange_eq_ok {first last : Ipv4} {p : LeasePool} (h : fromRange first last = .ok p) :
    first ≤ last ∧ last.toNat - first.toNat + 1 ≤ maxSize ∧
      p = ofRange first (last.toNat - first.toNat + 1) := by
  unfold fromRange at h
  dsimp only at h
  split at h
  · cases h
  rename_i hord
  split at h
  · cases h
  rename_i hsize
  cases h
  refine ⟨?_, Nat.le_of_not_lt hsize, rfl⟩
  rw [Ipv4.lt_iff_toNat_lt] at hord
  rw [Ipv4.le_iff_toNat_le]
  omega

/-- A configuration serving the range `first`–`last`: the default one moved to that range, with
its server just outside it. -/
def rangeConfig (first last : Ipv4) : ServerConfig :=
  { ServerConfig.default with
    poolStart := first
    poolEnd := last
    serverIp := if first.isUnspecified then Ipv4.ofNat (last.toNat + 1) else .unspecified }

theorem poolSize_rangeConfig {first last : Ipv4} (hle : first ≤ last) :
    (rangeConfig first last).poolSize = last.toNat - first.toNat + 1 := by
  have := Ipv4.le_iff_toNat_le.mp hle
  simp only [ServerConfig.poolSize, rangeConfig]
  omega

theorem rangeConfig_valid {first last : Ipv4} {p : LeasePool} (h : fromRange first last = .ok p) :
    (rangeConfig first last).Valid := by
  obtain ⟨hle, hsize, -⟩ := fromRange_eq_ok h
  have hle' := Ipv4.le_iff_toNat_le.mp hle
  refine ⟨hle, (poolSize_rangeConfig hle).symm ▸ hsize, ?_,
    by simp [rangeConfig, ServerConfig.default], by simp [rangeConfig, ServerConfig.default]⟩
  simp only [ServerConfig.ipInPool, rangeConfig, Bool.and_eq_false_iff, decide_eq_false_iff_not,
    Ipv4.le_iff_toNat_le]
  -- a range from 0.0.0.0 has its server just above it, any other has it at 0.0.0.0, below
  split_ifs with h0
  · have hfirst : first.toNat = 0 := by
      simp only [Ipv4.isUnspecified, beq_iff_eq] at h0
      simp [Ipv4.toNat, h0]
    have hlast : last.toNat + 1 < UInt32.size := by
      unfold maxSize at hsize
      unfold UInt32.size
      omega
    right
    rw [Ipv4.toNat_ofNat hlast]
    omega
  · have hfirst : first.toNat ≠ 0 := by
      simpa [Ipv4.isUnspecified, Ipv4.toNat, ← UInt32.toNat_inj] using h0
    left
    simp only [Ipv4.unspecified, Ipv4.toNat] at hfirst ⊢
    simp only [UInt32.toNat_zero]
    omega

/-- **Every pool the API builds is sound** for some valid configuration: one record per address
of a range, in order; every lease with an owner; no owner with two leases. -/
theorem Reachable.sound {p : LeasePool} (hp : p.Reachable) : ∃ c, c.Valid ∧ Sound c p := by
  induction hp with
  | fromRange h =>
    rename_i first last p
    obtain ⟨hle, -, rfl⟩ := fromRange_eq_ok h
    refine ⟨rangeConfig first last, rangeConfig_valid h, ?_⟩
    rw [← poolSize_rangeConfig hle]
    exact sound_ofRange (rangeConfig first last)
  | commit _ h ih =>
    obtain ⟨c, hc, hs⟩ := ih
    exact ⟨c, hc, hs.commit hc h⟩
  | release owner now _ ih =>
    obtain ⟨c, hc, hs⟩ := ih
    exact ⟨c, hc, hs.release owner now⟩
  | sweep now _ ih =>
    obtain ⟨c, hc, hs⟩ := ih
    exact ⟨c, hc, hs.sweepExpired now⟩

/-! ## The checks -/

section Checks

variable {c : ServerConfig} {p : LeasePool} {owner : HardwareAddress} {a : Ipv4} {now d : Int}

/-- In a sound pool `recordFor?` finds nothing exactly for the addresses outside the pool. -/
theorem Sound.recordFor?_eq_none_iff (hs : Sound c p) (hc : c.Valid) :
    p.recordFor? a = none ↔ a ∉ p.records.map (·.address) := by
  constructor
  · intro hnone hmem
    obtain ⟨r, hr, rfl⟩ := List.mem_map.mp hmem
    rw [hs.recordFor?_of_mem hc hr] at hnone
    cases hnone
  · intro hout
    cases hr : p.recordFor? a with
    | none => rfl
    | some r =>
      obtain ⟨hmem, rfl⟩ := hs.recordFor?_eq_some hr
      exact absurd (List.mem_map_of_mem hmem) hout

theorem shiftInstant_eq_error {span : Int} {e : Error} (h : shiftInstant now span = .error e) :
    e = .instantOverflow ∧ ¬ (earliestInstant ≤ now + span ∧ now + span ≤ latestInstant) := by
  unfold shiftInstant at h
  split at h
  · cases h
    refine ⟨rfl, ?_⟩
    omega
  · cases h

/-- **How a commit fails**: at the first of its checks that does not hold, or past all three
when the lease would end outside the calendar. -/
theorem commit_eq_error {e : Error} (h : p.commit owner a now d = .error e) :
    (owner.isEmpty = true ∧ e = .missingOwner a) ∨
    (owner.isEmpty = false ∧ p.recordFor? a = none ∧ e = .addressOutOfRange a) ∨
    (owner.isEmpty = false ∧ ∃ r, p.recordFor? a = some r ∧ r.leased = true ∧ r.owner ≠ owner ∧
      e = .ownershipConflict a) ∨
    (owner.isEmpty = false ∧ ∃ r, p.recordFor? a = some r ∧ (r.leased = true → r.owner = owner) ∧
      ¬ (earliestInstant ≤ now + d ∧ now + d ≤ latestInstant) ∧ e = .instantOverflow) := by
  unfold commit at h
  split at h
  · cases h
    exact .inl ⟨‹_›, rfl⟩
  rename_i hown
  have hown' : owner.isEmpty = false := by simpa using hown
  split at h
  · cases h
    exact .inr (.inl ⟨hown', ‹_›, rfl⟩)
  rename_i r hr
  split at h
  · cases h
    rename_i hconflict
    simp only [Bool.and_eq_true, bne_iff_ne, ne_eq] at hconflict
    exact .inr (.inr (.inl ⟨hown', r, hr, hconflict.1, hconflict.2, rfl⟩))
  rename_i hfree
  -- past the checks only the calendar can refuse
  cases hshift : shiftInstant now d with
  | ok expiry => simp [hshift, bind, Except.bind, pure, Except.pure] at h
  | error e' =>
    simp only [hshift, bind, Except.bind] at h
    cases h
    obtain ⟨rfl, hcal⟩ := shiftInstant_eq_error hshift
    refine .inr (.inr (.inr ⟨hown', r, hr, fun hl => ?_, hcal, rfl⟩))
    simpa [hl] using hfree

/-- A lease that a commit grants ends within the calendar. -/
theorem calendar_of_commit {p' : LeasePool} {r' : LeaseRecord}
    (h : p.commit owner a now d = .ok (p', r')) :
    earliestInstant ≤ now + d ∧ now + d ≤ latestInstant := by
  unfold commit at h
  split at h
  · cases h
  split at h
  · cases h
  split at h
  · cases h
  obtain ⟨expiry, hexp, -⟩ := bind_eq_ok_iff.mp h
  unfold shiftInstant at hexp
  split at hexp
  · cases hexp
  · omega

/-- A commit succeeds exactly when the owner is named, `a`'s record is free or already the
owner's, and the lease ends within the calendar. -/
theorem Sound.commit_isOk_iff (hs : Sound c p) (hc : c.Valid) :
    (∃ p' r', p.commit owner a now d = .ok (p', r')) ↔
      owner.isEmpty = false ∧ (∃ r ∈ p.records, r.address = a ∧ (r.leased = true → r.owner = owner)) ∧
        earliestInstant ≤ now + d ∧ now + d ≤ latestInstant := by
  constructor
  · rintro ⟨p', r', h⟩
    obtain ⟨hown, r, hr, hfree, rfl, rfl⟩ := commit_eq_ok h
    obtain ⟨hmem, ha⟩ := hs.recordFor?_eq_some hr
    exact ⟨hown, ⟨r, hmem, ha, hfree⟩, calendar_of_commit h⟩
  · rintro ⟨hown, ⟨r, hmem, rfl, hfree⟩, hcal⟩
    exact ⟨_, _, commit_of_recordFor? hown (hs.recordFor?_of_mem hc hmem) hfree hcal⟩

end Checks

/-! ## The count of leases -/

section Count

variable {owner : HardwareAddress} {a : Ipv4} {now expiry : Int}

/-- A grant counts, record by record: the lease it adds to a free record of `a`, and the leases
of the owner elsewhere that it ends. -/
theorem countP_grantRecord_add (rs : List LeaseRecord) :
    (rs.map (grantRecord owner a now expiry)).countP (·.leased) +
        rs.countP (fun x => x.isLeasedTo owner && x.address != a) =
      rs.countP (·.leased) + rs.countP (fun x => x.address == a && !x.leased) := by
  induction rs with
  | nil => rfl
  | cons x rs ih =>
    simp only [List.map_cons, List.countP_cons]
    -- the record of `a` becomes leased; another of the owner's is freed; the rest stay
    by_cases ha : x.address = a
    · have hq : (x.isLeasedTo owner && x.address != a) = false := by simp [ha]
      have hq' : (x.address == a && !x.leased) = !x.leased := by simp [ha]
      have hg : (grantRecord owner a now expiry x).leased = true := by
        rw [grantRecord_of_address ha]
      rw [hg, hq, hq']
      cases x.leased <;> simp only [if_true, if_false, Bool.not_true, Bool.not_false,
        Bool.false_eq_true] <;> omega
    · have hq' : (x.address == a && !x.leased) = false := by simp [ha]
      obtain hown | hown := Bool.eq_false_or_eq_true (x.isLeasedTo owner)
      · have hq : (x.isLeasedTo owner && x.address != a) = true := by simp [hown, ha]
        have hl : x.leased = true := by
          simp only [LeaseRecord.isLeasedTo, Bool.and_eq_true] at hown
          exact hown.1
        have hg : (grantRecord owner a now expiry x).leased = false := by
          rw [grantRecord_of_isLeasedTo ha hown]
        rw [hg, hq, hq', hl]
        simp only [if_true, if_false, Bool.false_eq_true]
        omega
      · have hq : (x.isLeasedTo owner && x.address != a) = false := by simp [hown]
        rw [grantRecord_of_not_isLeasedTo ha hown, hq, hq']
        omega

theorem leasedCount_eq_countP (p : LeasePool) : p.leasedCount = p.records.countP (·.leased) :=
  (List.countP_eq_length_filter).symm

variable {c : ServerConfig} {p : LeasePool} {r : LeaseRecord}

/-- In a sound pool the record of `a` is the only one with that address, so `a` counts as free
once, or not at all. -/
theorem Sound.countP_freeAt (hs : Sound c p) (hc : c.Valid) (hr : r ∈ p.records)
    (ha : r.address = a) :
    p.records.countP (fun x => x.address == a && !x.leased) = if r.leased then 0 else 1 := by
  cases hl : r.leased
  · have hpos : 0 < p.records.countP (fun x => x.address == a && !x.leased) :=
      List.countP_pos_iff.mpr ⟨r, hr, by simp [ha, hl]⟩
    have hle : p.records.countP (fun x => x.address == a && !x.leased) ≤ 1 :=
      Nat.le_trans (List.countP_mono_left fun x _ hx => by simp_all) (hs.countP_address_le_one hc a)
    simp only [Bool.false_eq_true, if_false]
    omega
  · simp only [if_true, List.countP_eq_zero]
    intro x hx hfree
    simp only [Bool.and_eq_true, beq_iff_eq, Bool.not_eq_true'] at hfree
    obtain rfl := hs.eq_of_address hc hx hr (hfree.1.trans ha.symm)
    rw [hl] at hfree
    cases hfree.2

/-- **The count of leases after a grant** of `a`'s record, free or already the owner's: one more
when `a` was free and the owner held no lease, the same otherwise. -/
theorem Sound.leasedCount_grant (hs : Sound c p) (hc : c.Valid) (hr : r ∈ p.records)
    (ha : r.address = a) (hfree : r.leased = true → r.owner = owner) :
    (p.grant owner a now expiry).leasedCount =
      if r.leased = false ∧ ∀ x ∈ p.records, x.isLeasedTo owner = false then p.leasedCount + 1
      else p.leasedCount := by
  have hsum := @countP_grantRecord_add owner a now expiry p.records
  rw [hs.countP_freeAt hc hr ha] at hsum
  have helse : p.records.countP (fun x => x.isLeasedTo owner && x.address != a) ≤ 1 :=
    Nat.le_trans (List.countP_mono_left fun x _ hx => by simp_all) (hs.single owner)
  rw [leasedCount_eq_countP, leasedCount_eq_countP, grant_records]
  cases hl : r.leased
  · -- a free record: the owner's lease elsewhere, if any, is the one the grant ends
    by_cases hnone : ∀ x ∈ p.records, x.isLeasedTo owner = false
    · have hzero : p.records.countP (fun x => x.isLeasedTo owner && x.address != a) = 0 :=
        List.countP_eq_zero.mpr fun x hx => by simp [hnone x hx]
      simp only [hl, Bool.false_eq_true, if_false, hzero] at hsum
      rw [if_pos ⟨rfl, hnone⟩]
      omega
    · obtain ⟨x, hx, hxl⟩ : ∃ x ∈ p.records, x.isLeasedTo owner = true := by
        simpa using hnone
      have hxa : x.address ≠ a := by
        rintro hxa
        obtain rfl := hs.eq_of_address hc hx hr (hxa.trans ha.symm)
        simp [LeaseRecord.isLeasedTo, hl] at hxl
      have hone : 0 < p.records.countP (fun x => x.isLeasedTo owner && x.address != a) :=
        List.countP_pos_iff.mpr ⟨x, hx, by simp [hxl, hxa]⟩
      simp only [hl, Bool.false_eq_true, if_false] at hsum
      rw [if_neg fun h => hnone h.2]
      omega
  · -- a renewal: the owner's one lease is this record, so nothing else is ended
    have hzero : p.records.countP (fun x => x.isLeasedTo owner && x.address != a) = 0 := by
      refine List.countP_eq_zero.mpr fun x hx hxl => ?_
      simp only [Bool.and_eq_true, bne_iff_ne, ne_eq] at hxl
      have hrl : r.isLeasedTo owner = true := by simp [LeaseRecord.isLeasedTo, hl, hfree hl]
      obtain rfl := hs.eq_of_isLeasedTo hx hr hxl.1 hrl
      exact hxl.2 ha
    simp only [hl, if_true, hzero] at hsum
    rw [if_neg fun h => Bool.true_eq_false ▸ h.1]
    omega

end Count

/-! ## The whole effect -/

/-- What `commit owner a now d` does to `p`, check by check. An error carries no pool, so in
each error case the pool is the one the caller had. -/
structure CommitSpec (p : LeasePool) (owner : HardwareAddress) (a : Ipv4) (now d : Int) :
    Prop where
  /-- The empty hardware address is refused first. -/
  missingOwner : owner.isEmpty = true → p.commit owner a now d = .error (.missingOwner a)
  /-- Then an address outside the pool. -/
  outOfRange : owner.isEmpty = false →
    (p.commit owner a now d = .error (.addressOutOfRange a) ↔ a ∉ p.records.map (·.address))
  /-- Then an address whose record is leased to another owner. -/
  conflict : owner.isEmpty = false → a ∈ p.records.map (·.address) →
    (p.commit owner a now d = .error (.ownershipConflict a) ↔
      ∃ r ∈ p.records, r.address = a ∧ r.leased = true ∧ r.owner ≠ owner)
  /-- Past the checks, only a lease ending outside the calendar fails. -/
  succeeds : (∃ p' r', p.commit owner a now d = .ok (p', r')) ↔
    owner.isEmpty = false ∧ (∃ r ∈ p.records, r.address = a ∧ (r.leased = true → r.owner = owner)) ∧
      earliestInstant ≤ now + d ∧ now + d ≤ latestInstant
  /-- `a`'s record is leased to the owner until `now + d` and returned; the owner's other leases
  end at `now`, keeping their owner; every other record stays as it was. -/
  records : ∀ p' r', p.commit owner a now d = .ok (p', r') →
    p'.records = p.records.map (fun x =>
      if x.address = a then { x with leased := true, owner, expiresAt := now + d }
      else if x.isLeasedTo owner = true then { x with leased := false, expiresAt := now }
      else x) ∧
    r' ∈ p'.records ∧ r'.address = a ∧ r'.leased = true ∧ r'.owner = owner ∧ r'.expiresAt = now + d
  /-- One lease more exactly when `a` was free and the owner held none. -/
  leasedCount : ∀ p' r', p.commit owner a now d = .ok (p', r') → ∀ r ∈ p.records, r.address = a →
    p'.leasedCount =
      if r.leased = false ∧ ∀ x ∈ p.records, x.isLeasedTo owner = false then p.leasedCount + 1
      else p.leasedCount

/-- **Exactly what a commit does**, in every pool the API builds: it refuses an empty owner,
then an address outside the pool, then one leased to another owner, and otherwise succeeds
unless the lease would end outside the calendar; a success changes `a`'s record and the
owner's other leases and nothing else, and adds one lease exactly when `a` was free and the
owner held none. -/
theorem commit_exact_effect {p : LeasePool} (hp : p.Reachable) (owner : HardwareAddress)
    (a : Ipv4) (now d : Int) : p.CommitSpec owner a now d := by
  obtain ⟨c, hc, hs⟩ := hp.sound
  refine ⟨fun hown => by simp [commit, hown], fun hown => ?_, fun hown hmem => ?_,
    hs.commit_isOk_iff hc, fun p' r' h => ?_, fun p' r' h => ?_⟩
  · constructor
    · intro h
      rcases commit_eq_error h with ⟨h₁, -⟩ | ⟨-, hnone, -⟩ | ⟨-, -, -, -, -, he⟩ |
          ⟨-, -, -, -, -, he⟩
      · rw [hown] at h₁
        cases h₁
      · exact (hs.recordFor?_eq_none_iff hc).mp hnone
      · cases he
      · cases he
    · intro hout
      simp [commit, hown, (hs.recordFor?_eq_none_iff hc).mpr hout]
  · obtain ⟨r, hr, rfl⟩ := List.mem_map.mp hmem
    have hfound := hs.recordFor?_of_mem hc hr
    constructor
    · intro h
      rcases commit_eq_error h with ⟨h₁, -⟩ | ⟨-, hnone, -⟩ | ⟨-, r', hr', hl, ho, -⟩ |
          ⟨-, -, -, -, -, he⟩
      · rw [hown] at h₁
        cases h₁
      · rw [hfound] at hnone
        cases hnone
      · rw [hfound] at hr'
        cases hr'
        exact ⟨r, hr, rfl, hl, ho⟩
      · cases he
    · rintro ⟨x, hx, hxa, hl, ho⟩
      -- the record with that address is the one `recordFor?` finds
      obtain rfl := hs.eq_of_address hc hx hr hxa
      simp [commit, hown, hfound, hl, ho]
  · obtain ⟨-, r, hr, -, rfl, rfl⟩ := commit_eq_ok h
    obtain ⟨hmem, ha⟩ := hs.recordFor?_eq_some hr
    refine ⟨?_, ?_, ha, rfl, rfl, rfl⟩
    · rw [grant_records]
      refine List.map_congr_left fun x _ => ?_
      simp [grantRecord]
    · rw [grant_records, ← grantRecord_of_address ha]
      exact List.mem_map_of_mem hmem
  · intro r hr ha
    obtain ⟨-, r₀, hr₀, hfree, rfl, -⟩ := commit_eq_ok h
    obtain ⟨hmem₀, ha₀⟩ := hs.recordFor?_eq_some hr₀
    obtain rfl := hs.eq_of_address hc hr hmem₀ (ha.trans ha₀.symm)
    exact hs.leasedCount_grant hc hr ha hfree

/-- The range `10.0.0.1`–`10.0.0.3`, with `10.0.0.2` leased to `02:00:00:00:00:01` until
`10 s`. -/
def leasedRange : LeasePool :=
  ((ofRange (Ipv4.ofBytes [10, 0, 0, 1]) 3).grant (.ofMac 2 0 0 0 0 1) (Ipv4.ofBytes [10, 0, 0, 2])
    0 10000)

theorem commit_exact_effect_leasedRange :
    leasedRange.Reachable ∧
      leasedRange.CommitSpec (.ofMac 2 0 0 0 0 1) (Ipv4.ofBytes [10, 0, 0, 3]) 5000 10000 :=
  have hp : leasedRange.Reachable :=
    @Reachable.commit _ _ (.ofMac 2 0 0 0 0 1) (Ipv4.ofBytes [10, 0, 0, 2]) 0 10000 _
      (@Reachable.fromRange (Ipv4.ofBytes [10, 0, 0, 1]) (Ipv4.ofBytes [10, 0, 0, 3]) _ rfl)
      (by rfl)
  ⟨hp, commit_exact_effect hp _ _ _ _⟩

end LeasePool

end AddressLeasing
