import AddressLeasing.Wire.HardwareAddress
/-!
# Lease records

One record per address of a pool. `leased` is the truth about the record; the owner and the
expiry stay behind when a lease ends, so that a client coming back is steered to the address
it had before.

Times are milliseconds since the Unix epoch, and may be negative. A record that was never
leased has no owner (the empty hardware address) and expires at the epoch.

Instants exist from the start of -262143-01-01 to the end of 262142-12-31, and a span of time
is at most 2⁶³ - 1 milliseconds either way. Moving an instant out of that calendar, or asking
for a longer span, stops the program.
-/

set_option autoImplicit false

namespace AddressLeasing

/-- One address of a pool and its lease. -/
structure LeaseRecord where
  address : Ipv4
  leased : Bool
  /-- The last owner; empty if the address was never leased. -/
  owner : HardwareAddress
  /-- When the lease runs out, in milliseconds since the epoch. -/
  expiresAt : Int
  deriving DecidableEq, Inhabited

/-- The earliest instant, in milliseconds since the epoch: the start of -262143-01-01. -/
def earliestInstant : Int := -8334601228800000

/-- The latest instant to the millisecond: the last millisecond of 262142-12-31. -/
def latestInstant : Int := 8210266876799999

/-- The longest span either way, in milliseconds. -/
def longestSpan : Int := 9223372036854775807

/-- A span of `ms` milliseconds, unless it is longer than any span can be. -/
def spanOfMillis (ms : Int) : Except Error Int :=
  if ms < -longestSpan ∨ longestSpan < ms then .error .spanOutOfBounds else .ok ms

/-- The instant `span` milliseconds after `now`, unless it falls outside the calendar. -/
def shiftInstant (now span : Int) : Except Error Int :=
  if now + span < earliestInstant ∨ latestInstant < now + span then .error .instantOverflow
  else .ok (now + span)

namespace LeaseRecord

/-- A record that was never leased. -/
def fresh (address : Ipv4) : LeaseRecord := ⟨address, false, .empty, 0⟩

/-- Leased, and to `owner`. -/
def isLeasedTo (r : LeaseRecord) (owner : HardwareAddress) : Bool :=
  r.leased && r.owner == owner

/-- Leased, with its expiry at or before `now`: run out but not yet swept. -/
def isExpiredAt (r : LeaseRecord) (now : Int) : Bool :=
  r.leased && r.expiresAt ≤ now

/-- Whole seconds left on the lease at `now`; zero when unleased or run out. -/
def remainingSeconds (r : LeaseRecord) (now : Int) : Int :=
  if r.leased then max 0 ((r.expiresAt - now).tdiv 1000) else 0

end LeaseRecord

end AddressLeasing
