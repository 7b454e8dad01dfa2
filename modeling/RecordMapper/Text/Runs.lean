/-! # Runs of code points

A set of code points is kept as the rising list of the points where membership changes: the first
bound opens a run, the second closes it, the third opens the next. A property with more than two
values is kept as the rising list of the points where the value changes, each with its new value.
-/

namespace RecordMapper.Text

/-- Whether `n` lies in one of the runs with the given bounds. -/
def inRuns : List Nat → Nat → Bool
  | [], _ => false
  | bound :: bounds, n => decide (bound ≤ n) && !inRuns bounds n

/-- The value at `n` of a property with the given changes and the value `before` them all. -/
def valueAt {α : Type} (before : α) : List (Nat × α) → Nat → α
  | [], _ => before
  | (start, value) :: changes, n => if n < start then before else valueAt value changes n

end RecordMapper.Text
