/-!
This file defines lengths of time: a `Span` is signed and bounded by the largest number of
milliseconds in 64 bits, a `Delay` is not negative and at most some 2^64 seconds long. A delay has
a text in its largest fitting unit.
-/

namespace TaskAutomation

/-- The nanoseconds of a second. -/
def nanosPerSecond : Nat := 1000000000

/-- A length of time that is not negative, in nanoseconds. -/
structure Delay where
  nanos : Nat
  deriving DecidableEq, Repr, Inhabited

namespace Delay

def zero : Delay := ⟨0⟩

def ofMillis (millis : Nat) : Delay := ⟨millis * 1000000⟩

def ofSeconds (seconds : Nat) : Delay := ⟨seconds * nanosPerSecond⟩

def ofMicros (micros : Nat) : Delay := ⟨micros * 1000⟩

/-- The whole seconds of the delay. -/
def seconds (delay : Delay) : Nat := delay.nanos / nanosPerSecond

/-- The nanoseconds past the whole seconds. -/
def subsecond (delay : Delay) : Nat := delay.nanos % nanosPerSecond

/-- The whole milliseconds of the delay. -/
def millis (delay : Delay) : Nat := delay.nanos / 1000000

/-- A fraction of `places` digits with its leading point and without the zeros at its end; a
fraction that is zero has no text. -/
def fractionText (places fraction : Nat) : String :=
  if fraction = 0 then ""
  else
    let digits := Nat.toDigits 10 fraction
    let padded := List.replicate (places - digits.length) '0' ++ digits
    "." ++ String.ofList (padded.reverse.dropWhile (· = '0')).reverse

/-- The text in the largest of the units s, ms, µs and ns that has a whole part. -/
def text (delay : Delay) : String :=
  if 0 < delay.seconds then toString delay.seconds ++ fractionText 9 delay.subsecond ++ "s"
  else if 1000000 ≤ delay.nanos then
    toString (delay.nanos / 1000000) ++ fractionText 6 (delay.nanos % 1000000) ++ "ms"
  else if 1000 ≤ delay.nanos then
    toString (delay.nanos / 1000) ++ fractionText 3 (delay.nanos % 1000) ++ "µs"
  else toString delay.nanos ++ "ns"

end Delay

/-- A signed length of time, in nanoseconds. -/
structure Span where
  nanos : Int
  deriving DecidableEq, Repr, Inhabited

namespace Span

/-- The largest number of milliseconds in a span. -/
def maxMillis : Int := 9223372036854775807

/-- The longest span. -/
def max : Span := ⟨maxMillis * 1000000⟩

/-- The longest span backwards. -/
def min : Span := ⟨-(maxMillis * 1000000)⟩

def zero : Span := ⟨0⟩

/-- A span of milliseconds. -/
def ofMillis (millis : Int) : Span := ⟨millis * 1000000⟩

/-- A span of whole seconds, if it is not too long. -/
def ofSeconds? (seconds : Int) : Option Span :=
  if seconds.natAbs ≤ (maxMillis / 1000).toNat then some ⟨seconds * nanosPerSecond⟩ else none

/-- A delay as a span, if it is not too long. -/
def ofDelay? (delay : Delay) : Option Span :=
  if (delay.nanos : Int) ≤ max.nanos then some ⟨delay.nanos⟩ else none

/-- The whole seconds, rounded towards zero. -/
def seconds (span : Span) : Int := span.nanos.tdiv nanosPerSecond

/-- The whole milliseconds, rounded towards zero. -/
def millis (span : Span) : Int := span.nanos.tdiv 1000000

/-- The nanoseconds past the whole seconds, with the sign of the span. -/
def subsecond (span : Span) : Int := span.nanos.tmod nanosPerSecond

end Span

end TaskAutomation
