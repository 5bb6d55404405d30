import Mathlib.Data.List.Nodup
import Mathlib.Tactic.SplitIfs
import AddressLeasing.Config.Server
/-!
# The pool invariant

A pool serving a configuration keeps three facts through every operation that changes it:

> its records stand for the addresses of the configured range, one each and in order; a leased
> record has an owner; and no owner holds two leases.

The first is why `recordFor?`, which finds a record by its distance from the first address,
finds the record of the address asked for. The third is what lets `release`, which ends only
the first lease it finds for a client, end every lease that client holds.

Every operation that changes records is a map over them: `grant` (which `commit` applies after
its checks), `release` and `sweepExpired`. The maps are named here (`grantRecord`,
`releaseRecord`, `sweepRecord`) and proved equal to the operations, so that a proof can follow
one record through a step. The last two only ever end leases (`OnlyFrees`), and most of what
they keep is proved once for that shape.

Holding an address until a given expiry (`HoldsUntil`) is the fact the history of a lease is
told in: what a grant creates, and what only three things end.
-/

set_option autoImplicit false

namespace AddressLeasing

/-! ## Reading `Except` computations -/

theorem bind_eq_ok_iff {ε α β : Type} {x : Except ε α} {f : α → Except ε β} {b : β} :
    x >>= f = .ok b ↔ ∃ a, x = .ok a ∧ f a = .ok b := by
  cases x <;> simp [bind, Except.bind]

theorem pure_eq_ok_iff {ε α : Type} {a b : α} : (pure a : Except ε α) = .ok b ↔ a = b := by
  simp [pure, Except.pure]

/-! ## Addresses as numbers -/

namespace Ipv4

theorem le_iff_toNat_le {a b : Ipv4} : a ≤ b ↔ a.toNat ≤ b.toNat := UInt32.le_iff_toNat_le

theorem lt_iff_toNat_lt {a b : Ipv4} : a < b ↔ a.toNat < b.toNat := UInt32.lt_iff_toNat_lt

theorem toNat_lt (a : Ipv4) : a.toNat < UInt32.size := a.bits.toNat_lt

theorem toNat_inj {a b : Ipv4} : a.toNat = b.toNat ↔ a = b := by
  cases a; cases b
  simp [toNat, UInt32.toNat_inj]

theorem toNat_ofNat {n : Nat} (h : n < UInt32.size) : (ofNat n).toNat = n :=
  UInt32.toNat_ofNat_of_lt' h

@[simp] theorem ofNat_toNat (a : Ipv4) : ofNat a.toNat = a :=
  toNat_inj.mp (toNat_ofNat a.toNat_lt)

/-- The `size` addresses from `first` up, in order. -/
def span (first : Ipv4) (size : Nat) : List Ipv4 :=
  (List.range size).map fun i => ofNat (first.toNat + i)

section Span

variable {first : Ipv4} {size : Nat}

theorem mem_span (hb : first.toNat + size ≤ UInt32.size) {a : Ipv4} :
    a ∈ first.span size ↔ first ≤ a ∧ a.toNat < first.toNat + size := by
  simp only [span, List.mem_map, List.mem_range, le_iff_toNat_le]
  constructor
  · rintro ⟨i, hi, rfl⟩
    rw [toNat_ofNat (by omega)]
    omega
  · rintro ⟨hle, hlt⟩
    refine ⟨a.toNat - first.toNat, by omega, ?_⟩
    rw [Nat.add_sub_cancel' hle, ofNat_toNat]

theorem getElem?_span {i : Nat} (hi : i < size) :
    (first.span size)[i]? = some (ofNat (first.toNat + i)) := by
  simp [span, hi]

/-- The range is in increasing order. -/
theorem span_pairwise_lt (hb : first.toNat + size ≤ UInt32.size) :
    (first.span size).Pairwise (· < ·) := by
  simp only [span, List.pairwise_map, lt_iff_toNat_lt]
  refine List.pairwise_lt_range.imp_of_mem fun {i j} hi hj hij => ?_
  rw [List.mem_range] at hi hj
  rw [toNat_ofNat (by omega), toNat_ofNat (by omega)]
  omega

theorem nodup_span (hb : first.toNat + size ≤ UInt32.size) : (first.span size).Nodup :=
  (span_pairwise_lt hb).imp fun hlt heq => by
    rw [heq, lt_iff_toNat_lt] at hlt
    exact Nat.lt_irrefl _ hlt

end Span

end Ipv4

/-! ## What a valid configuration promises -/

namespace ServerConfig

/-- The checks `validate` makes, as facts. -/
structure Valid (c : ServerConfig) : Prop where
  ordered : c.poolStart ≤ c.poolEnd
  bounded : c.poolSize ≤ LeasePool.maxSize
  serverOutside : c.ipInPool c.serverIp = false
  leasePositive : c.leaseDurationSeconds ≠ 0
  sweepPositive : c.sweepIntervalSeconds ≠ 0

theorem valid_of_validate {c : ServerConfig} (h : c.validate = .ok ()) : c.Valid := by
  unfold validate at h
  split at h
  · cases h
  rename_i hord
  split at h
  · cases h
  rename_i hsize
  split at h
  · cases h
  rename_i hout
  split at h
  · cases h
  rename_i hlease
  split at h
  · cases h
  rename_i hsweep
  exact ⟨Ipv4.le_iff_toNat_le.mpr (by rw [Ipv4.lt_iff_toNat_lt] at hord; omega),
    Nat.le_of_not_lt hsize, by simpa using hout, by simpa using hlease, by simpa using hsweep⟩

/-- The range of a valid configuration ends where the 32-bit addresses end, or before. -/
theorem Valid.start_add_size {c : ServerConfig} (hc : c.Valid) :
    c.poolStart.toNat + c.poolSize = c.poolEnd.toNat + 1 := by
  have := Ipv4.le_iff_toNat_le.mp hc.ordered
  unfold poolSize
  omega

theorem Valid.span_bound {c : ServerConfig} (hc : c.Valid) :
    c.poolStart.toNat + c.poolSize ≤ UInt32.size := by
  rw [hc.start_add_size]
  exact c.poolEnd.toNat_lt

/-- The addresses a valid configuration leases are exactly those from `poolStart` to `poolEnd`. -/
theorem Valid.mem_span {c : ServerConfig} (hc : c.Valid) {a : Ipv4} :
    a ∈ c.poolStart.span c.poolSize ↔ c.poolStart ≤ a ∧ a ≤ c.poolEnd := by
  rw [Ipv4.mem_span hc.span_bound, Ipv4.le_iff_toNat_le, Ipv4.le_iff_toNat_le, hc.start_add_size]
  omega

/-- The server's own address is not one the pool leases. -/
theorem Valid.serverIp_not_mem_span {c : ServerConfig} (hc : c.Valid) :
    c.serverIp ∉ c.poolStart.span c.poolSize := by
  rw [hc.mem_span]
  have := hc.serverOutside
  simp only [ipInPool, Bool.and_eq_false_iff, decide_eq_false_iff_not] at this
  rintro ⟨h1, h2⟩
  rcases this with h | h <;> contradiction

end ServerConfig

namespace LeasePool

/-! ## The pool of a configuration -/

@[simp] theorem addresses_ofRange (first : Ipv4) (size : Nat) :
    (ofRange first size).records.map (·.address) = first.span size := by
  simp [ofRange, Ipv4.span, LeaseRecord.fresh]

/-- A valid configuration yields the fresh pool of its range. -/
theorem ofConfig_eq_ok {c : ServerConfig} (hc : c.Valid) :
    LeasePool.ofConfig c = .ok (ofRange c.poolStart c.poolSize) := by
  have hle := Ipv4.le_iff_toNat_le.mp hc.ordered
  have hsize : c.poolEnd.toNat - c.poolStart.toNat + 1 = c.poolSize := by
    unfold ServerConfig.poolSize; omega
  have hnot : ¬ c.poolEnd < c.poolStart := by
    rw [Ipv4.lt_iff_toNat_lt]; omega
  simp only [LeasePool.ofConfig, fromRange, hnot, if_false, hsize]
  rw [if_neg (Nat.not_lt_of_le hc.bounded)]

/-! ## Each operation as a map over the records -/

/-- One record through `grant owner a now expiry`. -/
def grantRecord (owner : HardwareAddress) (a : Ipv4) (now expiry : Int) (r : LeaseRecord) :
    LeaseRecord :=
  if r.address == a then { r with leased := true, owner, expiresAt := expiry }
  else if r.isLeasedTo owner then { r with leased := false, expiresAt := now }
  else r

/-- One record through a release of the record of `a` at `now`. -/
def releaseRecord (a : Ipv4) (now : Int) (x : LeaseRecord) : LeaseRecord :=
  if x.address == a then { x with leased := false, expiresAt := now } else x

/-- One record through a sweep at `now`. -/
def sweepRecord (now : Int) (r : LeaseRecord) : LeaseRecord :=
  if r.isExpiredAt now then { r with leased := false } else r

theorem grant_records (p : LeasePool) (owner : HardwareAddress) (a : Ipv4) (now expiry : Int) :
    (p.grant owner a now expiry).records = p.records.map (grantRecord owner a now expiry) := rfl

theorem sweepExpired_records (p : LeasePool) (now : Int) :
    (p.sweepExpired now).1.records = p.records.map (sweepRecord now) := rfl

/-- A release either finds no lease of `owner` and changes nothing, or ends the first one. -/
theorem release_cases (p : LeasePool) (owner : HardwareAddress) (now : Int) :
    ((∀ r ∈ p.records, r.isLeasedTo owner = false) ∧ (p.release owner now).1 = p) ∨
    ∃ r ∈ p.records, r.isLeasedTo owner = true ∧
      (p.release owner now).1.records = p.records.map (releaseRecord r.address now) := by
  unfold release
  split
  · rename_i hnone
    exact .inl ⟨fun r hr => by simpa using List.find?_eq_none.mp hnone r hr, rfl⟩
  · rename_i r hsome
    have hleased := List.find?_some hsome
    exact .inr ⟨r, List.mem_of_find?_eq_some hsome, hleased, rfl⟩

section GrantRecord

variable {owner : HardwareAddress} {a : Ipv4} {now expiry : Int} {r : LeaseRecord}

theorem grantRecord_of_address (ha : r.address = a) :
    grantRecord owner a now expiry r = { r with leased := true, owner, expiresAt := expiry } := by
  simp [grantRecord, ha]

theorem grantRecord_of_isLeasedTo (ha : r.address ≠ a) (hl : r.isLeasedTo owner = true) :
    grantRecord owner a now expiry r = { r with leased := false, expiresAt := now } := by
  simp [grantRecord, ha, hl]

theorem grantRecord_of_not_isLeasedTo (ha : r.address ≠ a) (hl : r.isLeasedTo owner = false) :
    grantRecord owner a now expiry r = r := by
  simp [grantRecord, ha, hl]

@[simp] theorem address_grantRecord : (grantRecord owner a now expiry r).address = r.address := by
  unfold grantRecord
  split <;> (try split) <;> rfl

/-- Who holds a record after a grant: the grantee holds `a`, and holds nothing else. -/
theorem isLeasedTo_grantRecord (h : HardwareAddress) :
    (grantRecord owner a now expiry r).isLeasedTo h =
      if r.address = a then owner == h else (r.isLeasedTo h && !(h == owner)) := by
  by_cases ha : r.address = a
  · rw [grantRecord_of_address ha, if_pos ha]
    simp [LeaseRecord.isLeasedTo]
  rw [if_neg ha]
  cases hl : r.isLeasedTo owner
  · rw [grantRecord_of_not_isLeasedTo ha hl]
    by_cases hh : h = owner
    · rw [hh, hl]; rfl
    · simp [hh]
  · -- the grantee's other lease ends; it was nobody else's
    rw [grantRecord_of_isLeasedTo ha hl]
    have hother : r.isLeasedTo h = (h == owner) := by
      simp only [LeaseRecord.isLeasedTo, Bool.and_eq_true, beq_iff_eq] at hl ⊢
      rw [hl.1, hl.2]
      simp [eq_comm]
    rw [hother]
    simp [LeaseRecord.isLeasedTo]

end GrantRecord

@[simp] theorem addresses_grant (p : LeasePool) (owner : HardwareAddress) (a : Ipv4)
    (now expiry : Int) :
    (p.grant owner a now expiry).records.map (·.address) = p.records.map (·.address) := by
  simp [grant_records, Function.comp_def]

/-! ## Changes that only end leases -/

/-- A change of records that only ends leases: it keeps every address, and a record that is
leased afterwards was left as it was. -/
def OnlyFrees (f : LeaseRecord → LeaseRecord) : Prop :=
  ∀ r, (f r).address = r.address ∧ ((f r).leased = true → f r = r)

theorem onlyFrees_releaseRecord (a : Ipv4) (now : Int) : OnlyFrees (releaseRecord a now) := by
  intro x
  unfold releaseRecord
  split_ifs
  · exact ⟨rfl, fun h => absurd h (by simp)⟩
  · exact ⟨rfl, fun _ => rfl⟩

theorem onlyFrees_sweepRecord (now : Int) : OnlyFrees (sweepRecord now) := by
  intro r
  unfold sweepRecord
  split_ifs
  · exact ⟨rfl, fun h => absurd h (by simp)⟩
  · exact ⟨rfl, fun _ => rfl⟩

section OnlyFrees

variable {f : LeaseRecord → LeaseRecord}

theorem OnlyFrees.addresses (hf : OnlyFrees f) (rs : List LeaseRecord) :
    (rs.map f).map (·.address) = rs.map (·.address) := by
  simp only [List.map_map]
  exact List.map_congr_left fun r _ => (hf r).1

theorem OnlyFrees.isLeasedTo (hf : OnlyFrees f) {r : LeaseRecord} {h : HardwareAddress}
    (hl : (f r).isLeasedTo h = true) : r.isLeasedTo h = true := by
  have hleased : (f r).leased = true := by
    simp only [LeaseRecord.isLeasedTo, Bool.and_eq_true] at hl
    exact hl.1
  rw [← (hf r).2 hleased]
  exact hl

/-- A record leased after such a change was leased, as it is, before. -/
theorem OnlyFrees.mem_of_leased (hf : OnlyFrees f) {rs : List LeaseRecord} {r' : LeaseRecord}
    (hr' : r' ∈ rs.map f) (hl : r'.leased = true) : r' ∈ rs := by
  obtain ⟨r, hr, rfl⟩ := List.mem_map.mp hr'
  rw [(hf r).2 hl]
  exact hr

end OnlyFrees

/-! ## The invariant -/

/-- Two different elements of a list that both satisfy `q` count twice. -/
theorem eq_of_countP_le_one {α : Type} {q : α → Bool} :
    ∀ {l : List α}, l.countP q ≤ 1 → ∀ {x y : α}, x ∈ l → y ∈ l → q x = true → q y = true →
      x = y
  | [], _, _, _, hx, _, _, _ => absurd hx List.not_mem_nil
  | z :: l, hc, x, y, hx, hy, qx, qy => by
    rw [List.countP_cons] at hc
    rcases List.mem_cons.mp hx with rfl | hx' <;> rcases List.mem_cons.mp hy with rfl | hy'
    · rfl
    · have : 0 < l.countP q := List.countP_pos_iff.mpr ⟨y, hy', qy⟩
      rw [if_pos qx] at hc; omega
    · have : 0 < l.countP q := List.countP_pos_iff.mpr ⟨x, hx', qx⟩
      rw [if_pos qy] at hc; omega
    · exact eq_of_countP_le_one (by split at hc <;> omega) hx' hy' qx qy

/-- The invariant of a pool serving configuration `c`. -/
structure Sound (c : ServerConfig) (p : LeasePool) : Prop where
  /-- One record per address of the range, in order. -/
  addresses : p.records.map (·.address) = c.poolStart.span c.poolSize
  /-- A lease always has an owner. -/
  owned : ∀ r ∈ p.records, r.leased = true → r.owner.isEmpty = false
  /-- No owner holds two leases. -/
  single : ∀ h, p.records.countP (·.isLeasedTo h) ≤ 1

section Sound

variable {c : ServerConfig} {p : LeasePool}

theorem sound_ofRange (c : ServerConfig) : Sound c (ofRange c.poolStart c.poolSize) where
  addresses := addresses_ofRange _ _
  owned r hr hl := by
    obtain ⟨i, -, rfl⟩ := List.mem_map.mp hr
    simp [LeaseRecord.fresh] at hl
  single h := by
    simp [ofRange, LeaseRecord.fresh, LeaseRecord.isLeasedTo, Function.comp_def]

theorem Sound.nodup (hs : Sound c p) (hc : c.Valid) : (p.records.map (·.address)).Nodup := by
  rw [hs.addresses]
  exact Ipv4.nodup_span hc.span_bound

/-- Two records of a sound pool with one address are one record. -/
theorem Sound.eq_of_address (hs : Sound c p) (hc : c.Valid) {r₁ r₂ : LeaseRecord}
    (h₁ : r₁ ∈ p.records) (h₂ : r₂ ∈ p.records) (ha : r₁.address = r₂.address) : r₁ = r₂ :=
  List.inj_on_of_nodup_map (hs.nodup hc) h₁ h₂ ha

/-- The leases of one owner are one record. -/
theorem Sound.eq_of_isLeasedTo (hs : Sound c p) {r₁ r₂ : LeaseRecord} {h : HardwareAddress}
    (h₁ : r₁ ∈ p.records) (h₂ : r₂ ∈ p.records) (l₁ : r₁.isLeasedTo h = true)
    (l₂ : r₂.isLeasedTo h = true) : r₁ = r₂ :=
  eq_of_countP_le_one (hs.single h) h₁ h₂ l₁ l₂

/-- At most one record has a given address. -/
theorem Sound.countP_address_le_one (hs : Sound c p) (hc : c.Valid) (a : Ipv4) :
    p.records.countP (fun r => r.address == a) ≤ 1 := by
  have h := List.nodup_iff_count_le_one.mp (hs.nodup hc) a
  rwa [List.count, List.countP_map] at h

theorem Sound.onlyFrees (hs : Sound c p) {f : LeaseRecord → LeaseRecord} (hf : OnlyFrees f) :
    Sound c ⟨p.records.map f⟩ where
  addresses := (hf.addresses p.records).trans hs.addresses
  owned r' hr hl := by
    have hmem := hf.mem_of_leased hr hl
    exact hs.owned r' hmem hl
  single h := by
    refine Nat.le_trans ?_ (hs.single h)
    rw [List.countP_map]
    exact List.countP_mono_left fun r _ hl => hf.isLeasedTo hl

theorem Sound.release (hs : Sound c p) (owner : HardwareAddress) (now : Int) :
    Sound c (p.release owner now).1 := by
  rcases release_cases p owner now with ⟨-, heq⟩ | ⟨r, -, -, heq⟩
  · rwa [heq]
  · have : (p.release owner now).1 = ⟨p.records.map (releaseRecord r.address now)⟩ := by
      rw [← heq]
    rw [this]
    exact hs.onlyFrees (onlyFrees_releaseRecord _ _)

theorem Sound.sweepExpired (hs : Sound c p) (now : Int) : Sound c (p.sweepExpired now).1 :=
  hs.onlyFrees (onlyFrees_sweepRecord now)

/-- A grant to an owner keeps the invariant. -/
theorem Sound.grant (hs : Sound c p) (hc : c.Valid) {owner : HardwareAddress}
    (hown : owner.isEmpty = false) (a : Ipv4) (now expiry : Int) :
    Sound c (p.grant owner a now expiry) where
  addresses := by rw [addresses_grant]; exact hs.addresses
  owned r' hr' hl := by
    rw [grant_records] at hr'
    obtain ⟨r, hr, rfl⟩ := List.mem_map.mp hr'
    by_cases ha : r.address = a
    · rw [grantRecord_of_address ha]
      exact hown
    cases hown' : r.isLeasedTo owner
    · rw [grantRecord_of_not_isLeasedTo ha hown'] at hl ⊢
      exact hs.owned r hr hl
    · rw [grantRecord_of_isLeasedTo ha hown'] at hl
      cases hl
  single h := by
    rw [grant_records, List.countP_map]
    by_cases hh : owner = h
    · -- the grantee holds exactly the record of `a`
      subst hh
      refine Nat.le_trans (List.countP_mono_left fun r _ hl => ?_) (hs.countP_address_le_one hc a)
      simp only [Function.comp_apply, isLeasedTo_grantRecord, beq_self_eq_true] at hl
      split_ifs at hl with ha
      · simpa using ha
      · simp at hl
    · refine Nat.le_trans (List.countP_mono_left fun r _ hl => ?_) (hs.single h)
      simp only [Function.comp_apply, isLeasedTo_grantRecord] at hl
      split_ifs at hl
      · simp [hh] at hl
      · simp only [Bool.and_eq_true] at hl
        exact hl.1

/-! ## Finding the record of an address -/

theorem Sound.length (hs : Sound c p) : p.records.length = c.poolSize := by
  have := congrArg List.length hs.addresses
  simpa [Ipv4.span] using this

/-- The record at position `i` is that of the `i`-th address of the range. -/
theorem Sound.address_of_getElem? (hs : Sound c p) {i : Nat} {r : LeaseRecord}
    (h : p.records[i]? = some r) : r.address = Ipv4.ofNat (c.poolStart.toNat + i) := by
  have hi : i < c.poolSize := hs.length ▸ (List.getElem?_eq_some_iff.mp h).1
  have := congrArg (·[i]?) hs.addresses
  simp only [List.getElem?_map, h, Option.map_some, Ipv4.getElem?_span hi] at this
  exact Option.some.inj this

/-- The position `indexOf?` computes for `a` is `a`'s distance from the first address. -/
theorem Sound.indexOf?_eq_some (hs : Sound c p) {a : Ipv4} {i : Nat}
    (h : p.indexOf? a = some i) : c.poolStart.toNat + i = a.toNat := by
  unfold indexOf? at h
  split at h
  · cases h
  rename_i r₀ rest hrec
  have h₀ : r₀.address = c.poolStart := by
    have := hs.address_of_getElem? (i := 0) (r := r₀) (by simp [hrec])
    simpa using this
  split at h
  · rename_i hcond
    cases h
    simp only [Bool.and_eq_true, decide_eq_true_eq] at hcond
    rw [h₀, Ipv4.le_iff_toNat_le] at hcond
    rw [h₀]
    omega
  · cases h

/-- In a sound pool, the record `recordFor?` finds for `a` is the record of `a`. -/
theorem Sound.recordFor?_eq_some (hs : Sound c p) {a : Ipv4} {r : LeaseRecord}
    (h : p.recordFor? a = some r) : r ∈ p.records ∧ r.address = a := by
  unfold recordFor? at h
  obtain ⟨i, hi, hr⟩ := Option.bind_eq_some_iff.mp h
  refine ⟨List.mem_of_getElem? hr, ?_⟩
  rw [hs.address_of_getElem? hr, hs.indexOf?_eq_some hi, Ipv4.ofNat_toNat]

/-! ## Commits -/

theorem shiftInstant_eq_ok {now span expiry : Int} (h : shiftInstant now span = .ok expiry) :
    expiry = now + span := by
  unfold shiftInstant at h
  split at h
  · cases h
  · cases h; rfl

/-- What a commit that succeeds has checked and done. -/
theorem commit_eq_ok {p p' : LeasePool} {owner : HardwareAddress} {a : Ipv4} {now d : Int}
    {r' : LeaseRecord} (h : p.commit owner a now d = .ok (p', r')) :
    owner.isEmpty = false ∧ ∃ r, p.recordFor? a = some r ∧ (r.leased = true → r.owner = owner) ∧
      p' = p.grant owner a now (now + d) ∧
      r' = { r with leased := true, owner, expiresAt := now + d } := by
  unfold commit at h
  split at h
  · cases h
  rename_i hown
  split at h
  · cases h
  rename_i r hr
  split at h
  · cases h
  rename_i hfree
  obtain ⟨expiry, hexp, h⟩ := bind_eq_ok_iff.mp h
  rw [pure_eq_ok_iff, shiftInstant_eq_ok hexp] at h
  obtain ⟨rfl, rfl⟩ := Prod.mk.inj h
  refine ⟨by simpa using hown, r, hr, fun hl => ?_, rfl, rfl⟩
  simpa [hl] using hfree

theorem Sound.commit (hs : Sound c p) (hc : c.Valid) {p' : LeasePool} {owner : HardwareAddress}
    {a : Ipv4} {now d : Int} {r' : LeaseRecord} (h : p.commit owner a now d = .ok (p', r')) :
    Sound c p' := by
  obtain ⟨hown, -, -, -, rfl, -⟩ := commit_eq_ok h
  exact hs.grant hc hown a now (now + d)

/-- A record leased after a commit of `a` is the record of `a`, leased to the committer until
the new expiry, or a record that was leased just so before. -/
theorem leased_of_commit {p p' : LeasePool} {owner : HardwareAddress} {a : Ipv4} {now d : Int}
    {r' x : LeaseRecord} (h : p.commit owner a now d = .ok (p', r')) (hx : x ∈ p'.records)
    (hl : x.leased = true) :
    (x.address = a ∧ x.owner = owner ∧ x.expiresAt = now + d) ∨ (x.address ≠ a ∧ x ∈ p.records) := by
  obtain ⟨-, -, -, -, rfl, -⟩ := commit_eq_ok h
  rw [grant_records] at hx
  obtain ⟨r, hr, rfl⟩ := List.mem_map.mp hx
  by_cases ha : r.address = a
  · rw [grantRecord_of_address ha]
    exact .inl ⟨ha, rfl, rfl⟩
  cases hown : r.isLeasedTo owner
  · rw [grantRecord_of_not_isLeasedTo ha hown]
    exact .inr ⟨ha, hr⟩
  · rw [grantRecord_of_isLeasedTo ha hown] at hl
    cases hl

/-! ## Releases -/

/-- An owner none of whose records is leased has no active lease. -/
theorem activeLeaseFor?_eq_none {p : LeasePool} {h : HardwareAddress}
    (hfree : ∀ r ∈ p.records, r.isLeasedTo h = false) : p.activeLeaseFor? h = none := by
  unfold activeLeaseFor? recordForOwner?
  split
  · rfl
  rw [List.find?_eq_none.mpr fun r hr => by simp [hfree r hr], Option.none_or]
  cases hf : p.records.find? (·.owner == h) with
  | none => rfl
  | some r =>
    have ho : r.owner = h := by simpa using List.find?_some hf
    have hl := hfree r (List.mem_of_find?_eq_some hf)
    simp only [LeaseRecord.isLeasedTo, ho, beq_self_eq_true, Bool.and_true] at hl
    simp [Option.filter, hl]

/-- After a release, no record is leased to the owner: the lease `release` ends is its only
one. -/
theorem Sound.isLeasedTo_release (hs : Sound c p) (owner : HardwareAddress) (now : Int) :
    ∀ x ∈ (p.release owner now).1.records, x.isLeasedTo owner = false := by
  rcases release_cases p owner now with ⟨hnone, heq⟩ | ⟨r, hr, hl, heq⟩
  · rw [heq]
    exact hnone
  rw [heq]
  intro x' hx'
  obtain ⟨x, hx, rfl⟩ := List.mem_map.mp hx'
  unfold releaseRecord
  split
  · rfl
  · rename_i hne
    cases hxl : x.isLeasedTo owner
    · rfl
    · -- a second lease of `owner` would be the one released
      obtain rfl := hs.eq_of_isLeasedTo hx hr hxl hl
      simp at hne

/-- After a release, the owner holds no lease at all. -/
theorem Sound.activeLeaseFor?_release (hs : Sound c p) (owner : HardwareAddress) (now : Int) :
    (p.release owner now).1.activeLeaseFor? owner = none :=
  activeLeaseFor?_eq_none (hs.isLeasedTo_release owner now)

/-! ## Holding an address until an expiry -/

/-- `p` holds `a` for `owner` until `expiry`: the record of `a` is leased to `owner` and runs
out then. -/
def HoldsUntil (p : LeasePool) (owner : HardwareAddress) (a : Ipv4) (expiry : Int) : Prop :=
  ∃ r ∈ p.records, r.address = a ∧ r.isLeasedTo owner = true ∧ r.expiresAt = expiry

variable {owner : HardwareAddress} {a : Ipv4} {x : Int}

/-- A commit of `a` holds it for the committer until the new expiry. -/
theorem Sound.holdsUntil_commit (hs : Sound c p) {p' : LeasePool} {now d : Int}
    {r' : LeaseRecord} (h : p.commit owner a now d = .ok (p', r')) :
    p'.HoldsUntil owner a (now + d) := by
  obtain ⟨-, r, hr, -, rfl, -⟩ := commit_eq_ok h
  obtain ⟨hmem, ha⟩ := hs.recordFor?_eq_some hr
  refine ⟨grantRecord owner a now (now + d) r, ?_, by simp [ha], ?_, ?_⟩
  · rw [grant_records]
    exact List.mem_map_of_mem hmem
  · rw [isLeasedTo_grantRecord, if_pos ha]
    exact beq_self_eq_true owner
  · rw [grantRecord_of_address ha]

/-- A change that only ends leases loses a hold only by ending the lease of that record. -/
theorem HoldsUntil.onlyFrees {f : LeaseRecord → LeaseRecord} (hf : OnlyFrees f)
    (hold : p.HoldsUntil owner a x) (lost : ¬ (⟨p.records.map f⟩ : LeasePool).HoldsUntil owner a x) :
    ∃ r ∈ p.records, r.address = a ∧ r.isLeasedTo owner = true ∧ r.expiresAt = x ∧
      (f r).leased = false := by
  obtain ⟨r, hr, ha, hl, he⟩ := hold
  refine ⟨r, hr, ha, hl, he, ?_⟩
  cases hfl : (f r).leased
  · rfl
  · exact absurd ⟨f r, List.mem_map_of_mem hr, by rw [(hf r).2 hfl]; exact ⟨ha, hl, he⟩⟩ lost

/-- A release loses a hold only when it comes from the holder. -/
theorem Sound.holdsUntil_release (hs : Sound c p) (hc : c.Valid) {owner' : HardwareAddress}
    {now : Int} (hold : p.HoldsUntil owner a x)
    (lost : ¬ (p.release owner' now).1.HoldsUntil owner a x) : owner' = owner := by
  rcases release_cases p owner' now with ⟨-, heq⟩ | ⟨r₀, hr₀, hl₀, heq⟩
  · rw [heq] at lost
    exact absurd hold lost
  have lost' : ¬ (⟨p.records.map (releaseRecord r₀.address now)⟩ : LeasePool).HoldsUntil owner a x := by
    rwa [← heq]
  obtain ⟨r, hr, -, hl, -, hfree⟩ := hold.onlyFrees (onlyFrees_releaseRecord _ _) lost'
  have hsame : r.address = r₀.address := by
    unfold releaseRecord at hfree
    split at hfree
    · simpa using ‹(r.address == r₀.address) = true›
    · simp only [LeaseRecord.isLeasedTo, Bool.and_eq_true] at hl
      rw [hl.1] at hfree
      cases hfree
  obtain rfl := hs.eq_of_address hc hr hr₀ hsame
  simp only [LeaseRecord.isLeasedTo, Bool.and_eq_true, beq_iff_eq] at hl hl₀
  exact hl₀.2.symm.trans hl.2

/-- A sweep loses a hold only once the lease has run out. -/
theorem holdsUntil_sweepExpired {now : Int} (hold : p.HoldsUntil owner a x)
    (lost : ¬ (p.sweepExpired now).1.HoldsUntil owner a x) : x ≤ now := by
  obtain ⟨r, -, -, hl, he, hfree⟩ := hold.onlyFrees (onlyFrees_sweepRecord now) lost
  unfold sweepRecord at hfree
  split at hfree
  · rename_i hexp
    simp only [LeaseRecord.isExpiredAt, Bool.and_eq_true, decide_eq_true_eq] at hexp
    exact he ▸ hexp.2
  · simp only [LeaseRecord.isLeasedTo, Bool.and_eq_true] at hl
    rw [hl.1] at hfree
    cases hfree

/-- A commit loses someone's hold only when the committer is that holder. -/
theorem Sound.holdsUntil_commit_lost (hs : Sound c p) (hc : c.Valid) {p' : LeasePool}
    {owner' : HardwareAddress} {b : Ipv4} {now d : Int} {r' : LeaseRecord}
    (h : p.commit owner' b now d = .ok (p', r')) (hold : p.HoldsUntil owner a x)
    (lost : ¬ p'.HoldsUntil owner a x) : owner' = owner := by
  obtain ⟨-, rb, hrb, hfree, rfl, -⟩ := commit_eq_ok h
  obtain ⟨hmemb, hab⟩ := hs.recordFor?_eq_some hrb
  obtain ⟨r, hr, ha, hl, he⟩ := hold
  have hleased : r.leased = true ∧ r.owner = owner := by
    simpa [LeaseRecord.isLeasedTo] using hl
  by_cases hb : r.address = b
  · -- the committed record is the held one, which the checks let only its holder renew
    obtain rfl := hs.eq_of_address hc hr hmemb (hb.trans hab.symm)
    exact (hfree hleased.1).symm.trans hleased.2
  cases hown : r.isLeasedTo owner'
  · refine absurd ⟨r, ?_, ha, hl, he⟩ lost
    rw [grant_records, ← grantRecord_of_not_isLeasedTo hb hown]
    exact List.mem_map_of_mem hr
  · simp only [LeaseRecord.isLeasedTo, Bool.and_eq_true, beq_iff_eq] at hown
    exact hown.2.symm.trans hleased.2

/-- Nobody else can commit an address while it is held. -/
theorem Sound.commit_owner_of_holdsUntil (hs : Sound c p) (hc : c.Valid) {p' : LeasePool}
    {owner' : HardwareAddress} {now d : Int} {r' : LeaseRecord}
    (h : p.commit owner' a now d = .ok (p', r')) (hold : p.HoldsUntil owner a x) :
    owner = owner' := by
  obtain ⟨-, ra, hra, hfree, -, -⟩ := commit_eq_ok h
  obtain ⟨hmem, ha'⟩ := hs.recordFor?_eq_some hra
  obtain ⟨r, hr, ha, hl, -⟩ := hold
  obtain rfl := hs.eq_of_address hc hr hmem (ha.trans ha'.symm)
  simp only [LeaseRecord.isLeasedTo, Bool.and_eq_true, beq_iff_eq] at hl
  exact hl.2.symm.trans (hfree hl.1)

end Sound

end LeasePool

end AddressLeasing
