import TaskAutomation.Time.Calendar
import TaskAutomation.Time.Span

/-!
This file defines points of time: whole seconds since 1970-01-01T00:00:00Z and nanoseconds within
the second. The nanoseconds of a leap second run on from one thousand million to two thousand
million in the second before it. Only the days of the years -262143 to 262142 can be represented,
so additions may fail.
-/

namespace TaskAutomation

/-- A point of time in universal time. -/
structure Instant where
  seconds : Int
  nanos : Nat
  deriving DecidableEq, Repr, Inhabited

namespace Instant

/-- The seconds of a day. -/
def secondsPerDay : Int := 86400

/-- The first second that can be represented, the start of the year -262143. -/
def minSeconds : Int := -8334601228800

/-- The last second that can be represented, the end of the year 262142. -/
def maxSeconds : Int := 8210266876799

/-- The earliest point of time. -/
def min : Instant := ⟨minSeconds, 0⟩

/-- The latest point of time outside of a leap second. -/
def max : Instant := ⟨maxSeconds, 999999999⟩

example : minSeconds = (⟨-262143, 1, 1⟩ : Date).toDays * secondsPerDay := by decide
example : maxSeconds = ((⟨262142, 12, 31⟩ : Date).toDays + 1) * secondsPerDay - 1 := by decide

/-- The second lies on a day that can be represented. -/
def inRange (seconds : Int) : Bool := minSeconds ≤ seconds && seconds ≤ maxSeconds

/-- Earlier than another point of time. -/
def lt (a b : Instant) : Bool :=
  a.seconds < b.seconds || (a.seconds = b.seconds && a.nanos < b.nanos)

/-- Not later than another point of time. -/
def le (a b : Instant) : Bool :=
  a.seconds < b.seconds || (a.seconds = b.seconds && a.nanos ≤ b.nanos)

instance : LT Instant := ⟨fun a b => a.lt b = true⟩
instance : LE Instant := ⟨fun a b => a.le b = true⟩
instance (a b : Instant) : Decidable (a < b) := inferInstanceAs (Decidable (a.lt b = true))
instance (a b : Instant) : Decidable (a ≤ b) := inferInstanceAs (Decidable (a.le b = true))

/-- The point of time at a second, if it can be represented. -/
def ofSeconds? (seconds : Int) : Option Instant :=
  if inRange seconds then some ⟨seconds, 0⟩ else none

/-- The point of time at a millisecond, if it can be represented. -/
def ofMillis? (millis : Int) : Option Instant :=
  let seconds := millis / 1000
  if inRange seconds then some ⟨seconds, (millis % 1000).toNat * 1000000⟩ else none

/-- The milliseconds since 1970, rounded down. A leap second runs on into the next second. -/
def millis (instant : Instant) : Int := instant.seconds * 1000 + (instant.nanos / 1000000 : Nat)

/-- The nanoseconds of a leap second lie beyond a full second. -/
def isLeap (instant : Instant) : Bool := nanosPerSecond ≤ instant.nanos

/-- The point of time a span later, if it can be represented. A step that leaves a leap second
counts it as the second it belongs to; a step within it stays within it. -/
def add? (instant : Instant) (span : Span) : Option Instant :=
  let wholeSeconds := span.seconds
  let subsecond := span.subsecond
  let nanos : Int := instant.nanos
  let leaves (forwards : Bool) :=
    if forwards then 0 < wholeSeconds ∨ (0 < subsecond ∧ 2 * nanosPerSecond - subsecond ≤ nanos)
    else wholeSeconds < 0
  if instant.isLeap ∧ ¬ leaves true ∧ ¬ leaves false then
    some ⟨instant.seconds, (nanos + subsecond).toNat⟩
  else
    let (seconds, nanos) :=
      if ¬ instant.isLeap then (instant.seconds, nanos)
      else if leaves true then (instant.seconds, nanos - nanosPerSecond)
      else (instant.seconds + 1, nanos - nanosPerSecond)
    let seconds := seconds + wholeSeconds
    let nanos := nanos + subsecond
    let (seconds, nanos) :=
      if nanos < 0 then (seconds - 1, nanos + nanosPerSecond)
      else if nanosPerSecond ≤ nanos then (seconds + 1, nanos - nanosPerSecond)
      else (seconds, nanos)
    if inRange seconds then some ⟨seconds, nanos.toNat⟩ else none

/-- The point of time a span earlier, if it can be represented. -/
def sub? (instant : Instant) (span : Span) : Option Instant := instant.add? ⟨-span.nanos⟩

/-- The point of time a span later, or the latest one. -/
def addClamped (instant : Instant) (span : Span) : Instant := (instant.add? span).getD max

end Instant

end TaskAutomation
