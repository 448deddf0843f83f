/-!
# Tables over code points

A property of characters is given by the ranges of code points that have it, and a case conversion
by the runs of code points that it moves by a constant shift. Both kinds of table are sorted, so a
look-up stops at the first entry that lies above the code point.

## Main definitions

* `CodeRange.covers`: whether a sorted table has a range around a code point.
* `CodeRun.image?`: where a sorted table of runs moves a code point.
-/

namespace PropertyKeys.Unicode

/-- A range of code points, both ends included. -/
structure CodeRange where
  first : Nat
  last : Nat
  deriving DecidableEq, Repr

/-- Whether one of the ranges, given in ascending order, holds the code point. -/
def CodeRange.covers : List CodeRange → Nat → Bool
  | [], _ => false
  | range :: ranges, code =>
    if code < range.first then false
    else if code ≤ range.last then true
    else covers ranges code

/-- A run of code points `first, first + step, …, last` that all move by the same shift. -/
structure CodeRun where
  first : Nat
  last : Nat
  step : Nat
  shift : Int
  deriving DecidableEq, Repr

/-- The code point that the runs, given in ascending order, move the given one to. -/
def CodeRun.image? : List CodeRun → Nat → Option Nat
  | [], _ => none
  | run :: runs, code =>
    if code < run.first then none
    else if code ≤ run.last then
      if (code - run.first) % run.step = 0 then some (code + run.shift).toNat else none
    else image? runs code

end PropertyKeys.Unicode
