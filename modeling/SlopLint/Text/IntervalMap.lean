/-!
# Interval maps on code points

A property of characters that a standard lists as ranges of code points is kept as a search tree
of disjoint closed intervals, each with a value. Looking a code point up takes a number of steps
logarithmic in the number of intervals.
-/

namespace SlopLint.Text

/-- A search tree of disjoint closed intervals of code points, each carrying a value. -/
inductive IntervalMap (α : Type) where
  | empty
  | node (left : IntervalMap α) (lo hi : Nat) (value : α) (right : IntervalMap α)

namespace IntervalMap

variable {α : Type}

/-- The interval that holds `n`, as its lower end and its value. -/
def find? : IntervalMap α → Nat → Option (Nat × α)
  | empty, _ => none
  | node left lo hi value right, n =>
    if n < lo then left.find? n else if hi < n then right.find? n else some (lo, value)

def contains (m : IntervalMap α) (n : Nat) : Bool :=
  (m.find? n).isSome

/-- A tree of depth at most `fuel` over an ascending list of intervals, split in the middle. -/
def build : Nat → List (Nat × Nat × α) → IntervalMap α
  | 0, _ => empty
  | fuel + 1, intervals =>
    match intervals.drop (intervals.length / 2) with
    | [] => empty
    | (lo, hi, value) :: after =>
      node (build fuel (intervals.take (intervals.length / 2))) lo hi value (build fuel after)

/-- The map of an ascending list of intervals `(lo, hi, value)`. -/
def ofIntervals (intervals : List (Nat × Nat × α)) : IntervalMap α :=
  build intervals.length intervals

/-- The set of an ascending list of intervals `(lo, hi)`. -/
def ofRanges (ranges : List (Nat × Nat)) : IntervalMap Unit :=
  ofIntervals (ranges.map fun r => (r.1, r.2, ()))

end IntervalMap

end SlopLint.Text
