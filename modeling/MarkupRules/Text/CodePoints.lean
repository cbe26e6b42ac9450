/-!
# Sets of code points

A property of the Unicode standard is a set of code points. This file fixes how such a set is
written down and looked up:

* `CodePoints` -- the set, as closed ranges in ascending order;
* `CodePoints.contains` -- the look-up, which stops at the first range that starts too late.
-/

namespace MarkupRules.Text

/-- A set of code points, written as closed ranges in ascending order. -/
structure CodePoints where
  ranges : List (Nat × Nat)

/-- Whether `n` lies in one of the ranges. The ranges ascend, so the search ends as soon as a
    range starts above `n`. -/
def inRanges (n : Nat) : List (Nat × Nat) → Bool
  | [] => false
  | (first, last) :: rest =>
    if n < first then false
    else if n ≤ last then true
    else inRanges n rest

/-- Whether the character belongs to the set. -/
def CodePoints.contains (s : CodePoints) (c : Char) : Bool :=
  inRanges c.toNat s.ranges

end MarkupRules.Text
