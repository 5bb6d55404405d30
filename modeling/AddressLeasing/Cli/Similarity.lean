/-!
# Similar names

When a command line names an option or command that does not exist, the refusal suggests the
known names that look alike. Likeness is the Jaro similarity of the two names, over their
characters: two characters match when they are equal, each is matched at most once, and they
stand at most `max(|a|, |b|) / 2 - 1` places apart. With `m` matches and `t` half the number of
matched pairs that appear in a different order,

    jaro a b = (m / |a| + m / |b| + (m - t) / m) / 3,

which is 1 for equal names and 0 when nothing matches. Names scoring above 0.7 are suggested,
least alike first. The score is computed in binary64 in this order, so that names on the
border are judged alike whenever the rounded score lies above 0.7.
-/

set_option autoImplicit false

namespace AddressLeasing

namespace Similarity

/-- Pairs each character of `a` with the first character of `b` it can match: equal, not yet
matched, and within `reach` places. Returns the matched flags of `a` and of `b`. -/
def matchFlags (a b : Array Char) (reach : Nat) : List Bool × List Bool :=
  let step (flags : List Bool × Array Bool) (i : Nat) : List Bool × Array Bool :=
    let lo := i - reach
    let hi := min b.size (i + reach + 1)
    let free (j : Nat) : Bool := b[j]? == a[i]? && !(flags.2.getD j true)
    match (List.range' lo (hi - lo)).find? free with
    | some j => (flags.1 ++ [true], flags.2.setIfInBounds j true)
    | none => (flags.1 ++ [false], flags.2)
  let (fa, fb) := (List.range a.size).foldl step ([], Array.replicate b.size false)
  (fa, fb.toList)

/-- The matched characters of `s`, in order. -/
def matched (s : Array Char) (flags : List Bool) : List Char :=
  (s.toList.zip flags).filterMap fun (c, f) => if f then some c else none

/-- The Jaro similarity of two names. -/
def jaro (a b : String) : Float :=
  let x := a.toList.toArray
  let y := b.toList.toArray
  if x.size == 0 && y.size == 0 then 1.0
  else if x.size == 0 || y.size == 0 then 0.0
  else
    let (fx, fy) := matchFlags x y (max x.size y.size / 2 - 1)
    let mx := matched x fx
    let my := matched y fy
    let m := mx.length
    let t := ((mx.zip my).filter fun (c, d) => c != d).length / 2
    if m == 0 then 0.0
    else
      (m.toFloat / x.size.toFloat + m.toFloat / y.size.toFloat +
        (m - t).toFloat / m.toFloat) / 3.0

/-- The candidates that look like `name`, least alike first; of equally alike ones, the
earlier candidate first. -/
def suggest (name : String) (candidates : List String) : List String :=
  let scored := (candidates.map fun c => (jaro name c, c)).filter (·.1 > 0.7)
  (scored.mergeSort fun p q => p.1 ≤ q.1).map (·.2)

end Similarity

end AddressLeasing
