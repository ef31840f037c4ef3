/-!
# Sets of code points

A property of characters is kept as a list of runs in increasing order.  A run of step two
holds every other point of its span, which is how the letters of a script with alternating
capital and small forms are laid out.
-/

namespace QueryByName.Unicode

/-- The code points `first`, `first + step`, …, `last`. -/
structure Run where
  first : Nat
  last : Nat
  step : Nat

/-- Whether a point lies in one of the runs.  The runs are in increasing order, so the
search ends at the first one that begins above the point. -/
def inRuns : List Run → Nat → Bool
  | [], _ => false
  | run :: rest, point =>
    if point < run.first then false
    else if point ≤ run.last then (point - run.first) % run.step == 0
    else inRuns rest point

end QueryByName.Unicode
