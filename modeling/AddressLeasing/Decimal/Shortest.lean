/-!
# Shortest decimal text of a double

The digits of a finite double are those of the decimal with the fewest significant digits
that reads back as the same double; of two such decimals the nearer one is taken, and of two
equally near the larger.

They are laid out by the size of the value. With `10^(p-1) ≤ |x| < 10^p`, a value with
`-5 < p ≤ 16` is written positionally, a whole one with `.0` added: `1.5`, `0.00001`,
`1000000000000000.0`. Any other value is written with one digit before the point and a signed
exponent: `1e+16`, `1.8446744073709552e+19`, `9.9e-6`, `5e-324`. Zero is `0.0`.

A double is `m · 2^e`. The reals that read back as it form an interval around it, reaching
half-way to each neighbour, with both ends included exactly when `m` is even (a tie is read
to the even mantissa). For `n = 1, 2, …` the two `n`-digit decimals on either side of the
value are tested against the interval, in exact `Nat` arithmetic; the first `n` with a hit
gives the digits. Seventeen digits always hit.
-/

set_option autoImplicit false

namespace AddressLeasing.Decimal

/-- A positive double as `num / den` with its reading interval `[lo, hi]`, all over `den`;
`closed` tells whether the ends belong to it. -/
structure Interval where
  num : Nat
  den : Nat
  lo : Nat
  hi : Nat
  closed : Bool

/-- The interval of a finite, non-zero double of mantissa field `frac` and exponent field
`ex`. Everything is scaled by 4 so that the half-way points are whole. -/
def interval (frac ex : Nat) : Interval :=
  let (m, e) : Nat × Int := if ex = 0 then (frac, -1074) else (frac + Nat.pow 2 52, (ex : Int) - 1075)
  -- the gap below is half as wide at the bottom of a binade
  let loGap := if frac = 0 ∧ 1 < ex then 1 else 2
  let scale := if 0 ≤ e - 2 then Nat.pow 2 (e - 2).toNat else 1
  let den := if 0 ≤ e - 2 then 1 else Nat.pow 2 (2 - e).toNat
  ⟨4 * m * scale, den, (4 * m - loGap) * scale, (4 * m + 2) * scale, m % 2 == 0⟩

/-- Whether `c · 10^k` lies in the interval. -/
def Interval.holds (iv : Interval) (c : Nat) (k : Int) : Bool :=
  let (x, d) := if 0 ≤ k then (c * Nat.pow 10 k.toNat * iv.den, 1) else (c * iv.den, Nat.pow 10 (-k).toNat)
  if iv.closed then iv.lo * d ≤ x && x ≤ iv.hi * d else iv.lo * d < x && x < iv.hi * d

/-- `⌊log₁₀ (num / den)⌋`. -/
def floorLog10 (num den : Nat) : Int :=
  if den ≤ num then ((toString (num / den)).length : Int) - 1
  else
    -- the smallest j with num · 10^j ≥ den
    let j := (List.range 400).find? (fun j => den ≤ num * Nat.pow 10 j) |>.getD 400
    -(j : Int)

/-- `⌊num / den / 10^k⌋` and whether the division is exact. -/
def floorAt (num den : Nat) (k : Int) : Nat × Bool :=
  let (n, d) := if 0 ≤ k then (num, den * Nat.pow 10 k.toNat) else (num * Nat.pow 10 (-k).toNat, den)
  (n / d, n % d == 0)

/-- Removes up to `fuel` trailing zeros from `c · 10^k`. -/
def dropZeros (c : Nat) (k : Int) : Nat → Nat × Int
  | 0 => (c, k)
  | fuel + 1 => if c ≠ 0 ∧ c % 10 = 0 then dropZeros (c / 10) (k + 1) fuel else (c, k)

/-- `c · 10^k` without trailing zeros. -/
def normalize (c : Nat) (k : Int) : Nat × Int := dropZeros c k (toString c).length

/-- The shortest decimal `c · 10^k` in the interval, nearest on ties of length, larger on
exact ties. -/
def shortestIn (iv : Interval) : Nat × Int :=
  let top := floorLog10 iv.num iv.den
  let pick (n : Nat) : Option (Nat × Int) :=
    let k := top - (n : Int) + 1
    let (c, exact) := floorAt iv.num iv.den k
    if exact then (if iv.holds c k then some (c, k) else none)
    else
      let up := c + 1
      let okDown := iv.holds c k
      let okUp := iv.holds up k
      -- distances to the value, over the common denominator
      let (below, above) :=
        if 0 ≤ k then
          (iv.num - c * Nat.pow 10 k.toNat * iv.den, up * Nat.pow 10 k.toNat * iv.den - iv.num)
        else (iv.num * Nat.pow 10 (-k).toNat - c * iv.den, up * iv.den - iv.num * Nat.pow 10 (-k).toNat)
      if okDown && okUp then some (if below < above then (c, k) else (up, k))
      else if okDown then some (c, k)
      else if okUp then some (up, k)
      else none
  match (List.range 17).findSome? (fun i => pick (i + 1)) with
  | some (c, k) => normalize c k
  | none => normalize iv.num 0

/-- A decimal exponent with its sign, `+16` or `-6`. -/
def signedExponent (e : Int) : String :=
  if e < 0 then "-" ++ toString e.natAbs else "+" ++ toString e.natAbs

/-- Digits `ds` (no trailing zeros, the first non-zero) with value `0.ds · 10^point`, laid out
as described above. -/
def layout (ds : String) (point : Int) : String :=
  let n : Int := ds.length
  let zeros (k : Int) := String.ofList (List.replicate k.toNat '0')
  if n ≤ point ∧ point ≤ 16 then ds ++ zeros (point - n) ++ ".0"
  else if 0 < point ∧ point ≤ 16 then
    String.ofList (ds.toList.take point.toNat) ++ "." ++ String.ofList (ds.toList.drop point.toNat)
  else if -5 < point ∧ point ≤ 0 then "0." ++ zeros (-point) ++ ds
  else
    let mantissa := match ds.toList with
      | [d] => String.singleton d
      | d :: more => String.singleton d ++ "." ++ String.ofList more
      | [] => "0"
    mantissa ++ "e" ++ signedExponent (point - 1)

/-- The text of a finite double; `-` for a negative one, including negative zero. -/
def text (f : Float) : String :=
  let bits := f.toBits.toNat
  let sign := if bits / Nat.pow 2 63 = 1 then "-" else ""
  let ex := bits / Nat.pow 2 52 % Nat.pow 2 11
  let frac := bits % Nat.pow 2 52
  if ex = 0 ∧ frac = 0 then sign ++ "0.0"
  else
    let (c, k) := shortestIn (interval frac ex)
    let ds := toString c
    sign ++ layout ds (k + ds.length)

end AddressLeasing.Decimal
