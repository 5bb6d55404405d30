import AddressLeasing.Proofs.OfferPreference
import AddressLeasing.Proofs.ServerReplies
import Mathlib.Algebra.BigOperators.Group.Finset.Piecewise
import Mathlib.Data.Fintype.Card
import Mathlib.Algebra.Order.BigOperators.Group.Finset
/-!
# Tasks racing for one pool

Tasks that each want an address run one loop against a shared pool: ask `selectOffer` for an
address, stop with `poolExhausted` when there is none, else `commit` it; a commit that finds the
address leased meanwhile (`ownershipConflict`) sends the task back to ask again. Each
`selectOffer` and each `commit` is one atomic step, since the pool sits behind one lock, but the
steps of different tasks interleave in any order, so an address can be taken between a task's
offer and its commit.

`Contest ι` is the pool with one such loop for each task `i : ι`, leasing for `owners i`, and
`Contest.Step` is one step of any unfinished task, at any clock reading from which a lease of
`d` milliseconds ends within the calendar. Started on a pool the API builds, by named,
pairwise distinct owners that hold no lease, every interleaving

* ends after at most `(3n + 1)u + 2n` steps, for `n` tasks and `u` free records at the start,
  and stops only once every task has finished: `Contest.potential` falls at every step, since a
  lost race costs the loser steps but the winner's commit took a free record;
* leaves every address a task leased held by that task's owner, so no two tasks lease one
  address;
* ends with exactly `min n u` tasks holding an address and the others stopped at
  `poolExhausted`, because every record free at the start is still free or leased by a task
  that finished (`Invariant.count`).
-/

set_option autoImplicit false

namespace AddressLeasing

namespace LeasePool

/-- The number of unleased records. -/
def freeCount (p : LeasePool) : Nat := p.records.countP (!·.leased)

/-- `owner` holds no lease of `p`. -/
def HoldsNone (p : LeasePool) (owner : HardwareAddress) : Prop :=
  ∀ r ∈ p.records, r.isLeasedTo owner = false

/-! ## What a commit does to free records and to other owners -/

section Pool

variable {c : ServerConfig} {p p' : LeasePool} {owner owner' : HardwareAddress} {a : Ipv4}
  {now d : Int} {r' : LeaseRecord}

theorem freeCount_add_leasedCount (p : LeasePool) :
    p.freeCount + p.leasedCount = p.records.length := by
  rw [freeCount, leasedCount_eq_countP, List.length_eq_countP_add_countP (·.leased), Nat.add_comm]
  simp

theorem freeCount_eq_zero_iff : p.freeCount = 0 ↔ ∀ r ∈ p.records, r.leased = true := by
  simp [freeCount, List.countP_eq_zero]

/-- A commit by an owner that holds no lease takes exactly one free record. -/
theorem Sound.freeCount_commit (hs : Sound c p) (hc : c.Valid)
    (h : p.commit owner a now d = .ok (p', r')) (hn : p.HoldsNone owner) :
    p'.freeCount + 1 = p.freeCount := by
  obtain ⟨-, r, hr, hfree, rfl, -⟩ := commit_eq_ok h
  obtain ⟨hmem, ha⟩ := hs.recordFor?_eq_some hr
  -- the record of `a` is free: were it leased, it would be the owner's
  have hrfree : r.leased = false := by
    cases hl : r.leased
    · rfl
    · have := hn r hmem
      simp [LeaseRecord.isLeasedTo, hl, hfree hl] at this
  have hleased : (p.grant owner a now (now + d)).leasedCount = p.leasedCount + 1 := by
    rw [hs.leasedCount_grant hc hmem ha hfree, if_pos ⟨hrfree, hn⟩]
  have hlen : (p.grant owner a now (now + d)).records.length = p.records.length := by
    simp [grant_records]
  have h₁ := freeCount_add_leasedCount p
  have h₂ := freeCount_add_leasedCount (p.grant owner a now (now + d))
  omega

/-- A commit by another owner gives no lease to an owner that holds none. -/
theorem HoldsNone.commit (hn : p.HoldsNone owner) (h : p.commit owner' a now d = .ok (p', r'))
    (hne : owner' ≠ owner) : p'.HoldsNone owner := by
  obtain ⟨-, -, -, -, rfl, -⟩ := commit_eq_ok h
  intro x hx
  rw [grant_records] at hx
  obtain ⟨r, hr, rfl⟩ := List.mem_map.mp hx
  rw [isLeasedTo_grantRecord]
  split_ifs
  · simpa using hne
  · simp [hn r hr]

/-- A commit that meets another owner's lease was for an address that is not available. -/
theorem isAvailable_of_commit_conflict {b : Ipv4}
    (h : p.commit owner a now d = .error (.ownershipConflict b)) : p.isAvailable a = false := by
  rcases commit_eq_error h with ⟨-, he⟩ | ⟨-, -, he⟩ | ⟨-, r, hr, hl, -⟩ | ⟨-, -, -, -, -, he⟩
  · cases he
  · cases he
  · simp [isAvailable, hr, hl]
  · cases he

/-- A named owner's commit of an address of a sound pool, with the lease ending within the
calendar, fails only on a conflict. -/
theorem Sound.commit_error_conflict (hs : Sound c p) (hc : c.Valid)
    (hown : owner.isEmpty = false) (hmem : a ∈ p.records.map (·.address))
    (hcal : earliestInstant ≤ now + d ∧ now + d ≤ latestInstant) {e : Error}
    (h : p.commit owner a now d = .error e) : e = .ownershipConflict a := by
  rcases commit_eq_error h with ⟨hempty, -⟩ | ⟨-, hnone, -⟩ | ⟨-, -, -, -, -, he⟩ |
      ⟨-, -, -, -, hout, -⟩
  · rw [hown] at hempty
    cases hempty
  · exact absurd hmem ((hs.recordFor?_eq_none_iff hc).mp hnone)
  · exact he
  · exact absurd hcal hout

theorem Sound.mem_addresses_of_isAvailable (hs : Sound c p) (h : p.isAvailable a = true) :
    a ∈ p.records.map (·.address) := by
  obtain ⟨r, hr, -⟩ := recordFor?_of_isAvailable h
  obtain ⟨hmem, rfl⟩ := hs.recordFor?_eq_some hr
  exact List.mem_map_of_mem hmem

end Pool

/-! ## One task -/

/-- Where the loop of one task stands: looking for an offer, holding an offered address it has
yet to commit, or finished with the address it leased or the error it stopped at. -/
inductive Attempt where
  | looking
  | offered (a : Ipv4)
  | done (result : Except Error Ipv4)

namespace Attempt

/-- One atomic step of the loop of `owner`'s task on the pool `p`, with the clock at `now` and
leases of `d` milliseconds. A finished task has none. -/
def step (p : LeasePool) (owner : HardwareAddress) (now d : Int) :
    Attempt → Option (LeasePool × Attempt)
  | looking =>
    match p.selectOffer owner none with
    | some a => some (p, offered a)
    | none => some (p, done (.error .poolExhausted))
  | offered a =>
    match p.commit owner a now d with
    | .ok (p', r) => some (p', done (.ok r.address))
    | .error (.ownershipConflict _) => some (p, looking)
    | .error e => some (p, done (.error e))
  | done _ => none

def finished : Attempt → Bool
  | done _ => true
  | _ => false

/-- Finished with an address. -/
def succeeded : Attempt → Bool
  | done (.ok _) => true
  | _ => false

/-- What a task's state says of the pool: a running task's owner holds no lease, and an offer is
of an address of the pool; a task that finished with an address holds it; a task stops with an
error only at `poolExhausted`, on a pool with no free record. -/
def Fits (p : LeasePool) (owner : HardwareAddress) : Attempt → Prop
  | looking => p.HoldsNone owner
  | offered a => p.HoldsNone owner ∧ a ∈ p.records.map (·.address)
  | done (.ok a) => p.Holds owner a
  | done (.error e) => e = .poolExhausted ∧ p.freeCount = 0

/-- The steps a task still owes while no free record is taken: an offer and a commit while it
looks, a commit while it holds an available offer, and a failed commit before those two while
its offer has been taken. -/
def weight (p : LeasePool) : Attempt → Nat
  | looking => 2
  | offered a => if p.isAvailable a then 1 else 3
  | done _ => 0

/-- The steps of one task, one case for each thing a step can do. -/
inductive Moves (p : LeasePool) (owner : HardwareAddress) (now d : Int) :
    Attempt → LeasePool → Attempt → Prop
  | offer {a : Ipv4} : p.selectOffer owner none = some a → Moves p owner now d looking p (offered a)
  | exhaust : p.selectOffer owner none = none →
      Moves p owner now d looking p (done (.error .poolExhausted))
  | lease {a : Ipv4} {p' : LeasePool} {r : LeaseRecord} : p.commit owner a now d = .ok (p', r) →
      Moves p owner now d (offered a) p' (done (.ok r.address))
  | conflict {a b : Ipv4} : p.commit owner a now d = .error (.ownershipConflict b) →
      Moves p owner now d (offered a) p looking
  | fail {a : Ipv4} {e : Error} : p.commit owner a now d = .error e →
      (∀ b, e ≠ .ownershipConflict b) → Moves p owner now d (offered a) p (done (.error e))

variable {c : ServerConfig} {p p' : LeasePool} {owner owner' : HardwareAddress} {now d : Int}
  {x x' y : Attempt}

theorem moves_of_step (h : x.step p owner now d = some (p', x')) : Moves p owner now d x p' x' := by
  cases x with
  | looking =>
    simp only [step] at h
    split at h
    · cases h
      exact .offer ‹_›
    · cases h
      exact .exhaust ‹_›
  | offered a =>
    simp only [step] at h
    split at h
    · cases h
      exact .lease ‹_›
    · cases h
      exact .conflict ‹_›
    · rename_i e hne hcommit
      cases h
      exact .fail hcommit fun b he => hne b he
  | done _ => cases h

/-- A task that has not finished can always step. -/
theorem step_isSome (p : LeasePool) (owner : HardwareAddress) (now d : Int)
    (h : x.finished = false) : (x.step p owner now d).isSome := by
  cases x with
  | looking =>
    simp only [step]
    split <;> rfl
  | offered a =>
    simp only [step]
    split <;> rfl
  | done _ => cases h

theorem weight_le_three (p : LeasePool) (x : Attempt) : x.weight p ≤ 3 := by
  cases x with
  | offered a =>
    simp only [weight]
    split <;> omega
  | looking => simp [weight]
  | done _ => simp [weight]

/-- A commit by another owner, one that held no lease, keeps every task's state fitting. -/
theorem Fits.commit (hs : Sound c p) (hc : c.Valid) (hfit : y.Fits p owner) {a : Ipv4}
    {r' : LeaseRecord} (h : p.commit owner' a now d = .ok (p', r')) (hn : p.HoldsNone owner')
    (hne : owner' ≠ owner) : y.Fits p' owner := by
  cases y with
  | looking => exact HoldsNone.commit hfit h hne
  | offered b =>
    obtain ⟨hnone, hmem⟩ := hfit
    refine ⟨hnone.commit h hne, ?_⟩
    obtain ⟨-, -, -, -, rfl, -⟩ := commit_eq_ok h
    rwa [addresses_grant]
  | done result =>
    cases result with
    | ok b =>
      -- only the holder's own commit can end a hold
      obtain ⟨x, hold⟩ := hfit
      refine ⟨x, ?_⟩
      by_contra lost
      exact hne (hs.holdsUntil_commit_lost hc h hold lost)
    | error e =>
      -- an exhausted pool has no free record to commit
      have hzero : p.freeCount = 0 := hfit.2
      have := hs.freeCount_commit hc h hn
      omega

/-- A task's own step keeps its state fitting. -/
theorem Fits.moves (hs : Sound c p) (hc : c.Valid) (hown : owner.isEmpty = false)
    (hcal : earliestInstant ≤ now + d ∧ now + d ≤ latestInstant) (hfit : x.Fits p owner)
    (hm : Moves p owner now d x p' x') : x'.Fits p' owner := by
  cases hm with
  | offer ha => exact ⟨hfit, hs.mem_addresses_of_isAvailable (hs.isAvailable_selectOffer hc ha)⟩
  | exhaust hnone => exact ⟨rfl, freeCount_eq_zero_iff.mpr (selectOffer_eq_none_iff.mp hnone)⟩
  | lease h =>
    obtain ⟨-, r, hr, -, -, rfl⟩ := commit_eq_ok h
    obtain ⟨-, ha⟩ := hs.recordFor?_eq_some hr
    show p'.Holds owner r.address
    rw [ha]
    exact ⟨_, hs.holdsUntil_commit h⟩
  | conflict _ => exact hfit.1
  | fail h hne => exact absurd (hs.commit_error_conflict hc hown hfit.2 hcal h) (hne _)

/-- A finished task's state fits only with an address or with `poolExhausted`. -/
theorem Fits.result (hfit : x.Fits p owner) (hfin : x.finished = true) :
    x = done (.error .poolExhausted) ∨ ∃ a, x = done (.ok a) := by
  cases x with
  | looking => cases hfin
  | offered a => cases hfin
  | done result =>
    cases result with
    | ok a => exact .inr ⟨a, rfl⟩
    | error e => exact .inl (by rw [hfit.1])

theorem Moves.sound (hm : Moves p owner now d x p' x') (hs : Sound c p) (hc : c.Valid) :
    Sound c p' := by
  cases hm with
  | lease h => exact hs.commit hc h
  | _ => exact hs

/-- Another task's state still fits after a step of `owner`'s task. -/
theorem Moves.fits_other (hm : Moves p owner now d x p' x') (hs : Sound c p) (hc : c.Valid)
    (hfit : x.Fits p owner) (hne : owner ≠ owner') (hfit' : y.Fits p owner') : y.Fits p' owner' := by
  cases hm with
  | lease h => exact hfit'.commit hs hc h hfit.1 hne
  | _ => exact hfit'

/-- A step takes a free record exactly when it finishes its task with an address. -/
theorem Moves.count (hm : Moves p owner now d x p' x') (hs : Sound c p) (hc : c.Valid)
    (hfit : x.Fits p owner) :
    p'.freeCount + (if x'.succeeded then 1 else 0) = p.freeCount + (if x.succeeded then 1 else 0) := by
  cases hm with
  | lease h =>
    have := hs.freeCount_commit hc h hfit.1
    simp only [succeeded, if_true, Bool.false_eq_true, if_false]
    omega
  | _ => simp [succeeded]

/-- A step either leaves the pool and lowers its task's weight, or takes a free record. -/
theorem Moves.progress (hm : Moves p owner now d x p' x') (hs : Sound c p) (hc : c.Valid)
    (hown : owner.isEmpty = false) (hcal : earliestInstant ≤ now + d ∧ now + d ≤ latestInstant)
    (hfit : x.Fits p owner) :
    (p' = p ∧ x'.weight p < x.weight p) ∨ p'.freeCount + 1 = p.freeCount := by
  cases hm with
  | offer ha =>
    refine .inl ⟨rfl, ?_⟩
    simp [weight, hs.isAvailable_selectOffer hc ha]
  | exhaust _ => exact .inl ⟨rfl, by simp [weight]⟩
  | lease h => exact .inr (hs.freeCount_commit hc h hfit.1)
  | conflict h =>
    refine .inl ⟨rfl, ?_⟩
    simp [weight, isAvailable_of_commit_conflict h]
  | fail h hne => exact absurd (hs.commit_error_conflict hc hown hfit.2 hcal h) (hne _)

end Attempt

/-! ## Tasks sharing the pool -/

/-- Tasks indexed by `ι` sharing one pool: the pool, and where each task's loop stands. -/
structure Contest (ι : Type) where
  pool : LeasePool
  attempts : ι → Attempt

namespace Contest

variable {ι : Type}

/-- Every task looking, on the pool `p`. -/
def start (p : LeasePool) : Contest ι := ⟨p, fun _ => .looking⟩

section Steps

variable [DecidableEq ι] (owners : ι → HardwareAddress) (d : Int)

/-- One step of the task of `owners i`, at a clock reading `now` from which a lease of `d`
milliseconds ends within the calendar. -/
inductive Step : Contest ι → Contest ι → Prop
  | move {s : Contest ι} (i : ι) {now : Int} {p' : LeasePool} {x' : Attempt}
      (hcal : earliestInstant ≤ now + d ∧ now + d ≤ latestInstant)
      (h : (s.attempts i).step s.pool (owners i) now d = some (p', x')) :
      Step s ⟨p', Function.update s.attempts i x'⟩

/-- A run of `k` steps, the tasks' steps interleaved in any order. -/
inductive Run : Nat → Contest ι → Contest ι → Prop
  | refl (s : Contest ι) : Run 0 s s
  | step {k : Nat} {s s' s'' : Contest ι} : Step owners d s s' → Run k s' s'' → Run (k + 1) s s''

variable {s : Contest ι}

/-- A task that has not finished can step. -/
theorem exists_step {i : ι} (h : (s.attempts i).finished = false) : ∃ s', Step owners d s s' := by
  obtain ⟨⟨p', x'⟩, hstep⟩ := Option.isSome_iff_exists.mp
    (Attempt.step_isSome s.pool (owners i) (-d) d h)
  exact ⟨_, .move i (by unfold earliestInstant latestInstant; omega) hstep⟩

/-- A contest in which no task can step is one in which every task has finished. -/
theorem finished_of_stuck (h : ∀ s', ¬ Step owners d s s') (i : ι) :
    (s.attempts i).finished = true := by
  cases hfin : (s.attempts i).finished
  · obtain ⟨s', hs'⟩ := exists_step owners d hfin
    exact absurd hs' (h s')
  · rfl

end Steps

variable [Fintype ι]

/-- The number of tasks finished with an address. -/
def successes (s : Contest ι) : Nat := (Finset.univ.filter fun i => (s.attempts i).succeeded).card

/-- A bound on the steps left: every free record may still be taken, each time after every task
has spent up to three steps, and the tasks owe their weights besides. -/
def potential (s : Contest ι) : Nat :=
  (3 * Fintype.card ι + 1) * s.pool.freeCount + ∑ i, (s.attempts i).weight s.pool

/-- What holds at every state of a contest on a sound pool of `c` in which `u` records were free
at the start. -/
structure Invariant (c : ServerConfig) (owners : ι → HardwareAddress) (u : Nat) (s : Contest ι) :
    Prop where
  sound : Sound c s.pool
  fits : ∀ i, (s.attempts i).Fits s.pool (owners i)
  /-- Every record free at the start is still free or leased by a task that finished. -/
  count : s.pool.freeCount + s.successes = u

variable {owners : ι → HardwareAddress} {d : Int} {c : ServerConfig} {p : LeasePool} {u k : Nat}
  {s s' : Contest ι}

theorem sum_weight_le (s : Contest ι) : ∑ i, (s.attempts i).weight s.pool ≤ 3 * Fintype.card ι := by
  calc ∑ i, (s.attempts i).weight s.pool ≤ ∑ _i : ι, 3 :=
        Finset.sum_le_sum fun i _ => Attempt.weight_le_three _ _
    _ = 3 * Fintype.card ι := by simp [Finset.card_univ, Nat.mul_comm]

theorem Invariant.start (hs : Sound c p) (hn : ∀ i, p.HoldsNone (owners i)) :
    Invariant c owners p.freeCount (Contest.start p : Contest ι) where
  sound := hs
  fits := hn
  count := by simp [successes, Contest.start, Attempt.succeeded]

theorem potential_start (p : LeasePool) :
    (start p : Contest ι).potential = (3 * Fintype.card ι + 1) * p.freeCount + 2 * Fintype.card ι := by
  simp [potential, start, Attempt.weight, Finset.card_univ, Nat.mul_comm]

/-- What a task that finished with an address holds. -/
theorem Invariant.holds (hi : Invariant c owners u s) {i : ι} {a : Ipv4}
    (h : s.attempts i = .done (.ok a)) : s.pool.Holds (owners i) a := by
  have := hi.fits i
  rw [h] at this
  exact this

/-- No two tasks lease one address. -/
theorem Invariant.eq_of_leased (hc : c.Valid) (hinj : Function.Injective owners)
    (hi : Invariant c owners u s) {i j : ι} {a : Ipv4} (hia : s.attempts i = .done (.ok a))
    (hja : s.attempts j = .done (.ok a)) : i = j :=
  hinj (hi.sound.eq_of_holds hc (hi.holds hia) (hi.holds hja))

/-- Once every task has finished, each holds an address or stopped at an exhausted pool, and
`min n u` of them hold one. -/
theorem Invariant.outcome (hi : Invariant c owners u s) (hall : ∀ i, (s.attempts i).finished = true) :
    (∀ i, s.attempts i = .done (.error .poolExhausted) ∨ ∃ a, s.attempts i = .done (.ok a)) ∧
      s.successes = min (Fintype.card ι) u := by
  have hend (i : ι) := (hi.fits i).result (hall i)
  refine ⟨hend, ?_⟩
  have hle : s.successes ≤ Fintype.card ι := Finset.card_filter_le _ _
  have hcount := hi.count
  by_cases hfail : ∃ i, s.attempts i = .done (.error .poolExhausted)
  · -- one task stopped: the pool has no free record left
    obtain ⟨i, hi'⟩ := hfail
    have hfit := hi.fits i
    rw [hi'] at hfit
    have hzero : s.pool.freeCount = 0 := hfit.2
    omega
  · -- every task holds an address
    have hsucc : s.successes = Fintype.card ι := by
      have hall' : ∀ i ∈ Finset.univ, (s.attempts i).succeeded = true := by
        intro i _
        rcases hend i with h | ⟨a, h⟩
        · exact absurd ⟨i, h⟩ hfail
        · rw [h]
          rfl
      simp only [successes, Finset.filter_true_of_mem hall', Finset.card_univ]
    omega

section Updates

variable [DecidableEq ι]

/-- Moving one task changes a sum over the tasks by that task's terms. -/
theorem sum_update_add (g : Attempt → Nat) (f : ι → Attempt) (i : ι) (x : Attempt) :
    ∑ j, g (Function.update f i x j) + g (f i) = ∑ j, g (f j) + g x := by
  have hupdate : (fun j => g (Function.update f i x j)) =
      Function.update (fun j => g (f j)) i (g x) := by
    funext j
    exact Function.apply_update (fun _ => g) f i x j
  rw [hupdate, Finset.sum_update_of_mem (Finset.mem_univ i),
    Finset.sum_eq_add_sum_sdiff_singleton_of_mem (Finset.mem_univ i)]
  omega

theorem successes_update (s : Contest ι) (p' : LeasePool) (i : ι) (x' : Attempt) :
    (⟨p', Function.update s.attempts i x'⟩ : Contest ι).successes +
        (if (s.attempts i).succeeded then 1 else 0) =
      s.successes + (if x'.succeeded then 1 else 0) := by
  simp only [successes, Finset.card_filter]
  exact sum_update_add (fun x => if x.succeeded then 1 else 0) s.attempts i x'

variable (hc : c.Valid) (hnamed : ∀ i, (owners i).isEmpty = false)
include hc hnamed

/-- **One step keeps the invariant.** -/
theorem Invariant.step (hinj : Function.Injective owners) (hi : Invariant c owners u s)
    (h : Step owners d s s') :
    Invariant c owners u s' := by
  cases h with
  | move i hcal hstep =>
    rename_i now p' x'
    have hm := Attempt.moves_of_step hstep
    have hfit := hi.fits i
    refine ⟨hm.sound hi.sound hc, fun j => ?_, ?_⟩
    · by_cases hj : j = i
      · subst hj
        dsimp only
        rw [Function.update_self]
        exact hfit.moves hi.sound hc (hnamed j) hcal hm
      · dsimp only
        rw [Function.update_of_ne hj]
        exact hm.fits_other hi.sound hc hfit (fun he => hj (hinj he).symm) (hi.fits j)
    · have h₁ := successes_update s p' i x'
      have h₂ := hm.count hi.sound hc hfit
      have h₃ := hi.count
      dsimp only at h₁ ⊢
      omega

/-- **Every step lowers the potential.** -/
theorem Invariant.potential_lt (hi : Invariant c owners u s) (h : Step owners d s s') :
    s'.potential < s.potential := by
  cases h with
  | move i hcal hstep =>
    rename_i now p' x'
    have hm := Attempt.moves_of_step hstep
    rcases hm.progress hi.sound hc (hnamed i) hcal (hi.fits i) with ⟨rfl, hlt⟩ | hfree
    · -- the pool stays: only the moving task's weight changes, and it falls
      have hsum := sum_update_add (·.weight s.pool) s.attempts i x'
      simp only [potential]
      omega
    · -- a free record was taken: that outweighs whatever the tasks' weights became
      have hbound := sum_weight_le (⟨p', Function.update s.attempts i x'⟩ : Contest ι)
      simp only [potential] at hbound ⊢
      rw [← hfree, Nat.mul_succ]
      omega

/-- **A run keeps the invariant.** -/
theorem Run.invariant (hinj : Function.Injective owners) {s'' : Contest ι}
    (h : Run owners d k s s'') (hi : Invariant c owners u s) :
    Invariant c owners u s'' := by
  induction h with
  | refl => exact hi
  | step hstep _ ih => exact ih (hi.step hc hnamed hinj hstep)

/-- **A run is no longer than the potential it starts from.** -/
theorem Run.length_le (hinj : Function.Injective owners) {s'' : Contest ι}
    (h : Run owners d k s s'') (hi : Invariant c owners u s) :
    k ≤ s.potential := by
  induction h with
  | refl => exact Nat.zero_le _
  | step hstep _ ih =>
    have hlt := hi.potential_lt hc hnamed hstep
    have := ih (hi.step hc hnamed hinj hstep)
    omega

end Updates

section Race

variable [DecidableEq ι]

/-- **Tasks racing for one pool settle.** Tasks leasing for named, pairwise distinct owners that
hold no lease of a pool the API builds, each asking for an offer and committing it until it
leases an address or finds the pool exhausted, with their steps interleaved in any order:
every run has at most `(3n + 1)u + 2n` steps, for `n` tasks and `u` free records at the start;
every address a task leased is held by its owner and by no other task; and a run that cannot go
on has every task finished, each with an address or at `poolExhausted`, and `min n u` of them
with an address. -/
theorem racing_tasks_settle (hp : p.Reachable) (hinj : Function.Injective owners)
    (hnamed : ∀ i, (owners i).isEmpty = false) (hn : ∀ i, p.HoldsNone (owners i)) (d : Int)
    {k : Nat} {s : Contest ι} (hrun : Run owners d k (start p) s) :
    k ≤ (3 * Fintype.card ι + 1) * p.freeCount + 2 * Fintype.card ι ∧
      (∀ i a, s.attempts i = .done (.ok a) → s.pool.Holds (owners i) a) ∧
      (∀ i j a, s.attempts i = .done (.ok a) → s.attempts j = .done (.ok a) → i = j) ∧
      ((∀ s', ¬ Step owners d s s') →
        (∀ i, s.attempts i = .done (.error .poolExhausted) ∨ ∃ a, s.attempts i = .done (.ok a)) ∧
          s.successes = min (Fintype.card ι) p.freeCount) := by
  obtain ⟨c, hc, hs⟩ := hp.sound
  have hstart : Invariant c owners p.freeCount (start p : Contest ι) := .start hs hn
  have hi := hrun.invariant hc hnamed hinj hstart
  refine ⟨?_, fun i a h => hi.holds h, fun i j a hia hja => hi.eq_of_leased hc hinj hia hja,
    fun hstuck => hi.outcome (finished_of_stuck owners d hstuck)⟩
  calc k ≤ (start p : Contest ι).potential := hrun.length_le hc hnamed hinj hstart
    _ = (3 * Fintype.card ι + 1) * p.freeCount + 2 * Fintype.card ι := potential_start p

/-- The range `10.0.0.1`–`10.0.0.1`: a pool of one address. -/
def soleAddress : LeasePool := ofRange (Ipv4.ofBytes [10, 0, 0, 1]) 1

/-- Two hosts. -/
def racers (i : Bool) : HardwareAddress := if i then .ofMac 2 0 0 0 0 1 else .ofMac 2 0 0 0 0 2

theorem racers_injective : Function.Injective racers := by
  intro i j h
  cases i <;> cases j <;> first | rfl | exact absurd h (by decide)

/-- Two hosts race for one address: both are offered it, the first commits it, the second's
commit meets the first's lease, and the second then finds the pool exhausted. -/
theorem sole_address_race :
    soleAddress.Reachable ∧ Function.Injective racers ∧ (∀ i, (racers i).isEmpty = false) ∧
      (∀ i, soleAddress.HoldsNone (racers i)) ∧
      ∃ s, Run racers 3600000 5 (start soleAddress) s ∧
        5 ≤ (3 * Fintype.card Bool + 1) * soleAddress.freeCount + 2 * Fintype.card Bool ∧
        (∀ i a, s.attempts i = .done (.ok a) → s.pool.Holds (racers i) a) ∧
        (∀ i j a, s.attempts i = .done (.ok a) → s.attempts j = .done (.ok a) → i = j) ∧
        ((∀ s', ¬ Step racers 3600000 s s') →
          (∀ i, s.attempts i = .done (.error .poolExhausted) ∨ ∃ a, s.attempts i = .done (.ok a)) ∧
            s.successes = min (Fintype.card Bool) soleAddress.freeCount) := by
  have hp : soleAddress.Reachable :=
    @Reachable.fromRange (Ipv4.ofBytes [10, 0, 0, 1]) (Ipv4.ofBytes [10, 0, 0, 1]) _ rfl
  have hnamed : ∀ i, (racers i).isEmpty = false := by
    intro i
    cases i <;> decide
  have hn : ∀ i, soleAddress.HoldsNone (racers i) := by
    intro i r hr
    obtain ⟨j, -, rfl⟩ := List.mem_map.mp hr
    rfl
  have hcal : earliestInstant ≤ 0 + 3600000 ∧ 0 + 3600000 ≤ latestInstant := by
    unfold earliestInstant latestInstant
    omega
  -- offer, offer, commit, lost commit, exhausted
  have hrun : ∃ s, Run racers 3600000 5 (start soleAddress) s :=
    ⟨_, .step (.move true hcal rfl) <| .step (.move false hcal rfl) <|
      .step (.move true hcal rfl) <| .step (.move false hcal rfl) <|
      .step (.move false hcal rfl) (.refl _)⟩
  obtain ⟨s, hs⟩ := hrun
  exact ⟨hp, racers_injective, hnamed, hn, s, hs,
    racing_tasks_settle hp racers_injective hnamed hn 3600000 hs⟩

end Race

end Contest

end LeasePool

end AddressLeasing
