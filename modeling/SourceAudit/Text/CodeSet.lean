-- Sets of code points, as tables hold them. A set is the increasing list of the
-- points where membership changes, so a look-up counts the turns up to a point.

namespace SourceAudit.Text

/-- A set of code points: the points at which membership turns, in increasing order.
Nothing below the first turn is in the set. -/
structure CodeSet where
  turns : Array Nat

namespace CodeSet

/-- How many entries of a sorted array, from `lo` up to `hi`, are at most `point`,
counted from the start of the array. -/
def countUpTo (turns : Array Nat) (point lo hi : Nat) : Nat :=
  if lo < hi then
    let mid := (lo + hi) / 2
    if turns.getD mid 0 ≤ point then countUpTo turns point (mid + 1) hi
    else countUpTo turns point lo mid
  else lo
termination_by hi - lo

/-- A point is in the set when an odd number of turns lies at or below it. -/
def contains (set : CodeSet) (point : Nat) : Bool :=
  countUpTo set.turns point 0 set.turns.size % 2 == 1

/-- Some point from `first` to `last` is in the set: the first one is, or membership turns behind
it. -/
def meets (set : CodeSet) (first last : Nat) : Bool :=
  set.contains first ||
    countUpTo set.turns first 0 set.turns.size < countUpTo set.turns last 0 set.turns.size

end CodeSet

end SourceAudit.Text
