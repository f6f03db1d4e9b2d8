import TaskAutomation.Time.Instant

/-!
This file divides time into steps of equal length, counted from 1970 on, and finds the next boundary
between two steps.
-/

namespace TaskAutomation

/-- The length of a step in seconds: the whole seconds of a span, and one at least. -/
def stepSeconds (interval : Span) : Int := max interval.seconds 1

/-- The first boundary after a point of time, or the latest time if that cannot be represented. -/
def nextBoundary (instant : Instant) (interval : Span) : Instant :=
  let step := stepSeconds interval
  (Instant.ofSeconds? (instant.seconds / step * step + step)).getD Instant.max

end TaskAutomation
