/-!
# Ranges of time

A range holds its first and its last nanosecond since the epoch.
-/

namespace FindQuery.Time

/-- The nanoseconds from `start` to `stop`, both included. -/
structure TimeRange where
  start : Int
  stop : Int
  deriving DecidableEq, Repr, Inhabited

namespace TimeRange

/-- The range between two bounds, in whichever order they come. -/
def ofBounds (first second : Int) : TimeRange :=
  if second < first then ⟨second, first⟩ else ⟨first, second⟩

/-- Whether a nanosecond lies in a range. -/
def contains (range : TimeRange) (nanos : Int) : Bool :=
  range.start ≤ nanos && nanos ≤ range.stop

/-- A range between two bounds is never inverted. -/
theorem start_le_stop_ofBounds (first second : Int) :
    (ofBounds first second).start ≤ (ofBounds first second).stop := by
  unfold ofBounds
  split
  · simp only
    omega
  · simp only
    omega

/-- The order of the bounds does not matter. -/
theorem ofBounds_comm (first second : Int) :
    ofBounds first second = ofBounds second first := by
  unfold ofBounds
  split
  · rw [if_neg (by omega)]
  · split
    · rfl
    · simp only [TimeRange.mk.injEq]
      omega

end TimeRange

end FindQuery.Time
