import AddressLeasing.Lease.Record
/-!
# Lease pools

A pool is a contiguous range of addresses with one record each, in increasing order, created
once and never resized: at least one and at most 65536 addresses. Every operation that reads
or moves time takes the current time as an argument, so the pool is plain data and every
change is a function of it.

The operations, in the words the server uses:

* `selectOffer` picks an address to offer: the requested one if it is free, else the free
  address this client had before, else the first free address.
* `commit` leases an address to a client until `now + duration`. It succeeds when the address
  is free or already the client's (a renewal); any other address still leased to the client
  is given back.
* `release` gives back the first address leased to a client, keeping the client as owner.
* `sweepExpired` frees every lease that has run out.
-/

set_option autoImplicit false

namespace AddressLeasing

/-- The records of a pool, in address order. -/
structure LeasePool where
  records : List LeaseRecord
  deriving DecidableEq, Inhabited

namespace LeasePool

/-- The most addresses a pool holds. -/
def maxSize : Nat := 65536

/-- A fresh record for every address from `first` to `last`. -/
def ofRange (first : Ipv4) (size : Nat) : LeasePool :=
  ⟨(List.range size).map fun i => LeaseRecord.fresh (Ipv4.ofNat (first.toNat + i))⟩

/-- The pool of every address from `first` to `last` inclusive. -/
def fromRange (first last : Ipv4) : Except Error LeasePool :=
  if last < first then .error (.invalidConfig (.rangeReversed first last))
  else
    let size := last.toNat - first.toNat + 1
    if maxSize < size then .error (.invalidConfig (.rangeTooLarge first last size))
    else .ok (ofRange first size)

/-- A decimal octet: an optional `+`, then one or more digits, of value at most 255. -/
def readOctet? (s : String) : Option UInt8 :=
  let cs := match s.toList with
    | '+' :: rest => rest
    | cs => cs
  if !cs.isEmpty && cs.all Char.isDigit && Decimal.value cs < 256 then
    some (Decimal.value cs).toUInt8
  else none

/-- The pool `a.b.c.first` to `a.b.c.last` for a prefix `a.b.c`; trailing dots of the prefix
are ignored. -/
def fromSuffixRange (pfx : String) (first last : UInt8) : Except Error LeasePool :=
  let trimmed := String.ofList (pfx.toList.reverse.dropWhile (· == '.')).reverse
  match (trimmed.splitOn ".").mapM readOctet? with
  | none => .error (.invalidConfig (.prefixUnreadable pfx))
  | some [a, b, c] => fromRange (Ipv4.ofBytes [a, b, c, first]) (Ipv4.ofBytes [a, b, c, last])
  | some _ => .error (.invalidConfig (.prefixNotThreeOctets pfx))

def size (p : LeasePool) : Nat := p.records.length

def isEmpty (p : LeasePool) : Bool := p.records.isEmpty

/-- The position of `a` in the pool: its distance from the first address, when that is
below the pool's size. -/
def indexOf? (p : LeasePool) (a : Ipv4) : Option Nat :=
  match p.records with
  | [] => none
  | r :: _ =>
    if r.address ≤ a && a.toNat - r.address.toNat < p.size then some (a.toNat - r.address.toNat)
    else none

def contains (p : LeasePool) (a : Ipv4) : Bool := (p.indexOf? a).isSome

/-- The record of `a`. -/
def recordFor? (p : LeasePool) (a : Ipv4) : Option LeaseRecord :=
  (p.indexOf? a).bind fun i => p.records[i]?

/-- The first unleased address. -/
def findAvailable (p : LeasePool) : Option Ipv4 :=
  (p.records.find? (!·.leased)).map (·.address)

/-- Whether `a` is in the pool and unleased. -/
def isAvailable (p : LeasePool) (a : Ipv4) : Bool :=
  match p.recordFor? a with
  | some r => !r.leased
  | none => false

/-- The record of `owner`: the first one leased to it, else the first that still names it
as owner. The empty address owns nothing. -/
def recordForOwner? (p : LeasePool) (owner : HardwareAddress) : Option LeaseRecord :=
  if owner.isEmpty then none
  else (p.records.find? (·.isLeasedTo owner)).or (p.records.find? (·.owner == owner))

/-- The record currently leased to `owner`. -/
def activeLeaseFor? (p : LeasePool) (owner : HardwareAddress) : Option LeaseRecord :=
  (p.recordForOwner? owner).filter (·.leased)

/-- The free record `owner` had before, else the first free address. -/
def previousOrFirst (p : LeasePool) (owner : HardwareAddress) : Option Ipv4 :=
  match p.recordForOwner? owner with
  | some r => if !r.leased then some r.address else p.findAvailable
  | none => p.findAvailable

/-- The address to offer `owner`: the requested address if it is free, else the free record
`owner` had before, else the first free address. -/
def selectOffer (p : LeasePool) (owner : HardwareAddress) (requested : Option Ipv4) :
    Option Ipv4 :=
  match requested with
  | some a => if p.isAvailable a then some a else p.previousOrFirst owner
  | none => p.previousOrFirst owner

/-- The pool after leasing `a` to `owner` at `now` until `expiry`: `a`'s record is leased to
`owner` until `expiry`, and every other record leased to `owner` is freed as of `now`. -/
def grant (p : LeasePool) (owner : HardwareAddress) (a : Ipv4) (now expiry : Int) :
    LeasePool :=
  ⟨p.records.map fun r =>
    if r.address == a then { r with leased := true, owner, expiresAt := expiry }
    else if r.isLeasedTo owner then { r with leased := false, expiresAt := now }
    else r⟩

/-- Leases `a` to `owner` from `now` for `duration` milliseconds, as `grant` does, after the
checks: the owner is not empty, `a` is in the pool, and `a` is not leased to someone else.
The lease then ends at `now + duration`, which must be an instant of the calendar. Returns the
new pool and `a`'s record. -/
def commit (p : LeasePool) (owner : HardwareAddress) (a : Ipv4) (now duration : Int) :
    Except Error (LeasePool × LeaseRecord) :=
  if owner.isEmpty then .error (.missingOwner a)
  else match p.recordFor? a with
    | none => .error (.addressOutOfRange a)
    | some r =>
      if r.leased && r.owner != owner then .error (.ownershipConflict a)
      else do
        let expiry ← shiftInstant now duration
        pure (p.grant owner a now expiry, { r with leased := true, owner, expiresAt := expiry })

/-- Frees the first record leased to `owner` as of `now`, keeping the owner; returns its
address, or `none` if `owner` holds no lease. -/
def release (p : LeasePool) (owner : HardwareAddress) (now : Int) :
    LeasePool × Option Ipv4 :=
  match p.records.find? (·.isLeasedTo owner) with
  | none => (p, none)
  | some r =>
    (⟨p.records.map fun x => if x.address == r.address then
        { x with leased := false, expiresAt := now } else x⟩, some r.address)

/-- Frees every record whose lease ran out at or before `now`, leaving its owner and expiry;
returns how many were freed. -/
def sweepExpired (p : LeasePool) (now : Int) : LeasePool × Nat :=
  (⟨p.records.map fun r => if r.isExpiredAt now then { r with leased := false } else r⟩,
    (p.records.filter (·.isExpiredAt now)).length)

/-- The number of leased records. -/
def leasedCount (p : LeasePool) : Nat := (p.records.filter (·.leased)).length

end LeasePool

end AddressLeasing
