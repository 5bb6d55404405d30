/-!
# Doubles from exact ratios

`Binary64.ofRatio num den` is the double nearest to the rational `num / den`, ties going to
the even mantissa, computed in exact `Nat` arithmetic and assembled from its bits. Below the
normal range it rounds to the subnormal grid of `2^-1074`; above it, it is infinity.

The JSON reader builds a number as `significand · 10^exponent` with the same steps as the
documented reader it agrees with: the significand rounded to a double, then one double
multiplication or division by a table power of ten (each power itself the nearest double),
and division by `1e308` while the exponent is below `-308`. Only the rounding of the two
inputs happens here; the multiplication and division are the hardware's.
-/

set_option autoImplicit false

namespace AddressLeasing.Binary64

/-- `n / d` rounded to an integer, ties to even. -/
def roundDiv (n d : Nat) : Nat :=
  let q := n / d
  let r := n % d
  if d < 2 * r || (2 * r == d && q % 2 == 1) then q + 1 else q

/-- `⌊log₂ (num / den)⌋` for non-zero `num` and `den`. -/
def floorLog2 (num den : Nat) : Int :=
  let t : Int := (Nat.log2 num : Int) - (Nat.log2 den : Int)
  let below := if 0 ≤ t then num < den * Nat.pow 2 t.toNat else num * Nat.pow 2 (-t).toNat < den
  if below then t - 1 else t

/-- `num / den · 2^s` rounded to an integer, ties to even. -/
def scaledRound (num den : Nat) (s : Int) : Nat :=
  if 0 ≤ s then roundDiv (num * Nat.pow 2 s.toNat) den else roundDiv num (den * Nat.pow 2 (-s).toNat)

/-- The double nearest to `num / den`. -/
def ofRatio (num den : Nat) : Float :=
  if num = 0 ∨ den = 0 then Float.ofBits 0
  else
    let t := floorLog2 num den
    if t < -1022 then
      -- subnormal: the grid is 2^-1074; a carry into 2^52 lands on the smallest normal
      Float.ofBits (scaledRound num den 1074).toUInt64
    else
      let m := scaledRound num den (52 - t)
      let (m, t) := if m = Nat.pow 2 53 then (Nat.pow 2 52, t + 1) else (m, t)
      if 1023 < t then Float.ofBits 0x7FF0000000000000
      else Float.ofBits ((((t + 1023).toNat) * Nat.pow 2 52 + (m - Nat.pow 2 52)).toUInt64)

/-- The double nearest to `n`. -/
def ofNat (n : Nat) : Float := ofRatio n 1

/-- The double nearest to `10^k`. -/
def pow10 (k : Nat) : Float := ofRatio (Nat.pow 10 k) 1

/-- `significand · 10^exponent` as the reader builds it, `none` when it overflows. -/
def ofDecimal (significand : Nat) (exponent : Int) : Option Float :=
  go (exponent.natAbs / 308 + 2) (ofNat significand) exponent
where
  go : Nat → Float → Int → Option Float
    | 0, f, _ => some f
    | fuel + 1, f, e =>
      if e.natAbs ≤ 308 then
        if 0 ≤ e then
          let g := f * pow10 e.natAbs
          if g.isInf then none else some g
        else some (f / pow10 e.natAbs)
      else if f == 0.0 then some f
      else if 0 ≤ e then none
      else go fuel (f / pow10 308) (e + 308)

end AddressLeasing.Binary64
