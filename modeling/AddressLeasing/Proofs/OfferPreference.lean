import AddressLeasing.Proofs.CommitEffect
/-!
# Which address is offered

`selectOffer owner requested` prefers, in this order:

1. the requested address, when the pool has it and it is free;
2. for an owner that comes back (a real hardware address that holds no lease, named by some
   record as its last holder), the first record that still names it;
3. the first free record of the pool.

"First" is in pool order (`FirstWith`). The second choice needs no check that the record is
free: an owner without a lease has no leased record naming it. Whatever the choice, it is a
free address of the pool, and there is nothing to offer exactly when every address is leased.

The requested address is looked up by its distance from the first address, which finds the
record of that address in the pools the API builds (`Reachable`); the other choices, and the
last two facts, hold of every pool.
-/

set_option autoImplicit false

namespace AddressLeasing

namespace LeasePool

/-- `x` is the first record of `rs`, in order, of which `q` holds. -/
def FirstWith (q : LeaseRecord → Bool) (rs : List LeaseRecord) (x : LeaseRecord) : Prop :=
  ∃ pre post, rs = pre ++ x :: post ∧ q x = true ∧ ∀ y ∈ pre, q y = false

theorem find?_eq_some_iff_firstWith {q : LeaseRecord → Bool} {rs : List LeaseRecord}
    {x : LeaseRecord} : rs.find? q = some x ↔ FirstWith q rs x := by
  rw [List.find?_eq_some_iff_append]
  constructor
  · rintro ⟨hx, pre, post, rfl, hpre⟩
    exact ⟨pre, post, rfl, hx, fun y hy => by simpa using hpre y hy⟩
  · rintro ⟨pre, post, rfl, hx, hpre⟩
    exact ⟨hx, pre, post, rfl, fun y hy => by simp [hpre y hy]⟩

theorem FirstWith.mem {q : LeaseRecord → Bool} {rs : List LeaseRecord} {x : LeaseRecord}
    (h : FirstWith q rs x) : x ∈ rs := by
  obtain ⟨pre, post, rfl, -, -⟩ := h
  simp

/-- `a` is an address of the pool whose record is free. -/
def Free (p : LeasePool) (a : Ipv4) : Prop := ∃ r ∈ p.records, r.address = a ∧ r.leased = false

/-- `owner` comes back: a real hardware address that holds no lease, and that some record
still names as its last holder. -/
def Returning (p : LeasePool) (owner : HardwareAddress) : Prop :=
  owner.isEmpty = false ∧ (∀ r ∈ p.records, r.isLeasedTo owner = false) ∧
    ∃ r ∈ p.records, r.owner = owner

variable {p : LeasePool} {owner : HardwareAddress} {a : Ipv4}

/-! ## The first free record -/

theorem findAvailable_eq_some_iff :
    p.findAvailable = some a ↔ ∃ x, FirstWith (!·.leased) p.records x ∧ x.address = a := by
  simp only [findAvailable, Option.map_eq_some_iff, find?_eq_some_iff_firstWith]

theorem findAvailable_eq_none_iff :
    p.findAvailable = none ↔ ∀ r ∈ p.records, r.leased = true := by
  simp [findAvailable, List.find?_eq_none]

/-! ## The owner's previous address -/

theorem mem_of_recordFor? {r : LeaseRecord} (h : p.recordFor? a = some r) : r ∈ p.records := by
  obtain ⟨i, -, hi⟩ := Option.bind_eq_some_iff.mp h
  exact List.mem_of_getElem? hi

/-- A returning owner is steered to the first record that still names it, which is free. -/
theorem previousOrFirst_of_returning (hret : p.Returning owner) {x : LeaseRecord}
    (hx : FirstWith (·.owner == owner) p.records x) :
    p.previousOrFirst owner = some x.address := by
  obtain ⟨hne, hnolease, -⟩ := hret
  have hnone : p.records.find? (·.isLeasedTo owner) = none :=
    List.find?_eq_none.mpr fun r hr => by simp [hnolease r hr]
  have hfound : p.records.find? (·.owner == owner) = some x := find?_eq_some_iff_firstWith.mpr hx
  have hxowner : x.owner = owner := by
    obtain ⟨-, -, -, hq, -⟩ := hx
    simpa using hq
  -- it names `owner`, who holds no lease, so it is not leased
  have hxfree : x.leased = false := by
    have hx' := hnolease x hx.mem
    simpa [LeaseRecord.isLeasedTo, hxowner] using hx'
  simp [previousOrFirst, recordForOwner?, hne, hnone, hfound, hxfree]

/-- Any other owner is offered the first free record. -/
theorem previousOrFirst_of_not_returning (hret : ¬ p.Returning owner) :
    p.previousOrFirst owner = p.findAvailable := by
  unfold previousOrFirst
  split
  · rename_i r hr
    split
    · rename_i hfree
      -- a free record found for `owner` can only come from the second search, so it returns
      refine absurd ?_ hret
      unfold recordForOwner? at hr
      split at hr
      · cases hr
      rename_i hne
      rcases Option.or_eq_some_iff.mp hr with hfind | ⟨hnone, hfind⟩
      · have hleased := List.find?_some hfind
        simp only [LeaseRecord.isLeasedTo, Bool.and_eq_true] at hleased
        simp [hleased.1] at hfree
      · refine ⟨by simpa using hne, fun r' hr' => ?_, r, List.mem_of_find?_eq_some hfind, ?_⟩
        · simpa using List.find?_eq_none.mp hnone r' hr'
        · simpa using List.find?_some hfind
    · rfl
  · rfl

/-! ## The requested address -/

theorem selectOffer_of_isAvailable (h : p.isAvailable a = true) (owner : HardwareAddress) :
    p.selectOffer owner (some a) = some a := by
  simp [selectOffer, h]

theorem selectOffer_of_not_isAvailable {requested : Option Ipv4}
    (h : ∀ a, requested = some a → p.isAvailable a = false) :
    p.selectOffer owner requested = p.previousOrFirst owner := by
  cases requested with
  | none => rfl
  | some a => simp [selectOffer, h a rfl]

/-- An available address has a free record. -/
theorem exists_free_of_isAvailable (h : p.isAvailable a = true) :
    ∃ r ∈ p.records, r.leased = false := by
  obtain ⟨r, hr, hfree⟩ := recordFor?_of_isAvailable h
  exact ⟨r, mem_of_recordFor? hr, hfree⟩

/-- In a sound pool an address is available exactly when it is a free address of the pool. -/
theorem Sound.isAvailable_iff {c : ServerConfig} (hs : Sound c p) (hc : c.Valid) :
    p.isAvailable a = true ↔ p.Free a := by
  constructor
  · intro h
    obtain ⟨r, hr, hfree⟩ := recordFor?_of_isAvailable h
    obtain ⟨hmem, ha⟩ := hs.recordFor?_eq_some hr
    exact ⟨r, hmem, ha, hfree⟩
  · rintro ⟨r, hr, rfl, hfree⟩
    exact hs.isAvailable_of_mem hc hr hfree

/-! ## No offer -/

/-- Every preference but the last gives an address, so an offer is what `findAvailable`
gives or some address. -/
theorem selectOffer_eq_findAvailable_or (owner : HardwareAddress) (requested : Option Ipv4) :
    p.selectOffer owner requested = p.findAvailable ∨
      ∃ b, p.selectOffer owner requested = some b := by
  have hprev :
      p.previousOrFirst owner = p.findAvailable ∨ ∃ b, p.previousOrFirst owner = some b := by
    unfold previousOrFirst
    split
    · split
      · exact .inr ⟨_, rfl⟩
      · exact .inl rfl
    · exact .inl rfl
  cases requested with
  | none => exact hprev
  | some a =>
    simp only [selectOffer]
    split
    · exact .inr ⟨a, rfl⟩
    · exact hprev

/-- There is nothing to offer exactly when every record is leased, in every pool. -/
theorem selectOffer_eq_none_iff {requested : Option Ipv4} :
    p.selectOffer owner requested = none ↔ ∀ r ∈ p.records, r.leased = true := by
  rw [← findAvailable_eq_none_iff]
  constructor
  · intro h
    rcases selectOffer_eq_findAvailable_or owner requested with heq | ⟨b, hb⟩
    · rwa [← heq]
    · rw [hb] at h
      cases h
  · intro h
    -- with no free record nothing is available and the owner's record, if any, is leased
    have hall := findAvailable_eq_none_iff.mp h
    have hunavail (b : Ipv4) : p.isAvailable b = false := by
      cases hb : p.isAvailable b
      · rfl
      · obtain ⟨r, hr, hfree⟩ := exists_free_of_isAvailable hb
        rw [hall r hr] at hfree
        cases hfree
    have hret : ¬ p.Returning owner := by
      rintro ⟨-, hnolease, r, hr, hro⟩
      have := hnolease r hr
      simp [LeaseRecord.isLeasedTo, hro, hall r hr] at this
    rw [selectOffer_of_not_isAvailable fun b _ => hunavail b,
      previousOrFirst_of_not_returning hret, h]

/-! ## The order of preference -/

/-- How `selectOffer owner requested` chooses, preference by preference. -/
structure OfferOrder (p : LeasePool) (owner : HardwareAddress) (requested : Option Ipv4) :
    Prop where
  /-- The requested address, when it is a free address of the pool. -/
  requestedFree : ∀ a, requested = some a → p.Free a → p.selectOffer owner requested = some a
  /-- Otherwise, for a returning owner, the first record that still names it. -/
  previous : (∀ a, requested = some a → ¬ p.Free a) → p.Returning owner →
    ∀ x, FirstWith (·.owner == owner) p.records x → p.selectOffer owner requested = some x.address
  /-- Otherwise what `findAvailable` gives. -/
  fallback : (∀ a, requested = some a → ¬ p.Free a) → ¬ p.Returning owner →
    p.selectOffer owner requested = p.findAvailable
  /-- `findAvailable` gives the first free record. -/
  findAvailable : ∀ a,
    p.findAvailable = some a ↔ ∃ x, FirstWith (!·.leased) p.records x ∧ x.address = a
  /-- What is offered is a free address of the pool. -/
  offeredFree : ∀ a, p.selectOffer owner requested = some a → p.Free a
  /-- Nothing is offered exactly when every record is leased. -/
  none_iff : p.selectOffer owner requested = none ↔ ∀ r ∈ p.records, r.leased = true

/-- **The order in which an address is offered**, in every pool the API builds: the requested
address if it is free; else, for an owner that holds no lease and is still named by some
record, the first such record; else the first free record. The offer is always a free address
of the pool, and there is none exactly when every address is leased. -/
theorem offer_preference_order (hp : p.Reachable) (owner : HardwareAddress)
    (requested : Option Ipv4) : p.OfferOrder owner requested := by
  obtain ⟨c, hc, hs⟩ := hp.sound
  have hunavail (hreq : ∀ a, requested = some a → ¬ p.Free a) :
      ∀ a, requested = some a → p.isAvailable a = false := fun a ha =>
    Bool.eq_false_iff.mpr fun h => hreq a ha ((hs.isAvailable_iff hc).mp h)
  refine ⟨fun a ha hfree => ?_, fun hreq hret x hx => ?_, fun hreq hret => ?_,
    fun a => findAvailable_eq_some_iff, fun a h => ?_, selectOffer_eq_none_iff⟩
  · subst ha
    exact selectOffer_of_isAvailable ((hs.isAvailable_iff hc).mpr hfree) owner
  · rw [selectOffer_of_not_isAvailable (hunavail hreq), previousOrFirst_of_returning hret hx]
  · rw [selectOffer_of_not_isAvailable (hunavail hreq), previousOrFirst_of_not_returning hret]
  · exact (hs.isAvailable_iff hc).mp (hs.isAvailable_selectOffer hc h)

/-- The range `10.0.0.1`–`10.0.0.3` after `02:00:00:00:00:01` took `10.0.0.2` and gave it
back at `20 s`. -/
def returnedRange : LeasePool :=
  (((ofRange (Ipv4.ofBytes [10, 0, 0, 1]) 3).grant (.ofMac 2 0 0 0 0 1)
    (Ipv4.ofBytes [10, 0, 0, 2]) 0 10000).release (.ofMac 2 0 0 0 0 1) 20000).1

theorem offer_preference_returned :
    returnedRange.Reachable ∧ returnedRange.OfferOrder (.ofMac 2 0 0 0 0 1) none :=
  have hp : returnedRange.Reachable :=
    .release _ _ (@Reachable.commit _ _ (.ofMac 2 0 0 0 0 1) (Ipv4.ofBytes [10, 0, 0, 2]) 0 10000 _
      (@Reachable.fromRange (Ipv4.ofBytes [10, 0, 0, 1]) (Ipv4.ofBytes [10, 0, 0, 3]) _ rfl)
      (by rfl))
  ⟨hp, offer_preference_order hp _ _⟩

/-- The owner that gave `10.0.0.2` back is offered it again, ahead of the free `10.0.0.1`. -/
example :
    returnedRange.selectOffer (.ofMac 2 0 0 0 0 1) none = some (Ipv4.ofBytes [10, 0, 0, 2]) := by
  decide

end LeasePool

end AddressLeasing
