/-!
# Durations as text

A span of milliseconds is written in the largest unit that keeps its integer part non-zero:
seconds with the leftover milliseconds as a fraction whose trailing zeros are dropped
(`1.5s`, `2s`), else whole milliseconds (`200ms`). An empty span is `0ns`.
-/

set_option autoImplicit false

namespace AddressLeasing.Duration

/-- The three-digit fraction of a leftover below 1000, trailing zeros dropped. -/
def fraction (ms : Nat) : String :=
  let digits := [ms / 100, ms / 10 % 10, ms % 10]
  let kept := (digits.reverse.dropWhile (· == 0)).reverse
  String.ofList (kept.map fun d => Char.ofNat ('0'.toNat + d))

/-- A span of milliseconds in its largest unit. -/
def render (ms : Nat) : String :=
  if 1000 ≤ ms then
    if ms % 1000 == 0 then s!"{ms / 1000}s" else s!"{ms / 1000}.{fraction (ms % 1000)}s"
  else if 0 < ms then s!"{ms}ms"
  else "0ns"

end AddressLeasing.Duration
