import TaskAutomation.Number.Double
import TaskAutomation.Time.Instant

/-!
This file defines how long to wait between attempts: every further attempt multiplies the delay, up
to a bound.
-/

namespace TaskAutomation

/-- How delays between attempts grow. -/
structure RetryPolicy where
  baseDelay : Delay
  multiplier : Double
  maxDelay : Delay
  deriving DecidableEq, Repr, Inhabited

/-- The delay in seconds as a floating-point number: the whole seconds and the fraction are rounded
each on its own. -/
def Delay.inSeconds (delay : Delay) : Double :=
  (Double.ofNat delay.seconds).add
    ((Double.ofNat delay.subsecond).div (Double.ofNat nanosPerSecond))

namespace RetryPolicy

/-- Two seconds, doubled every time, up to an hour. -/
def default : RetryPolicy := ⟨.ofSeconds 2, Double.ofNat 2, .ofSeconds 3600⟩

/-- The exponent of the multiplier has 31 bits. -/
def maxExponent : Nat := 2147483647

/-- The delay before the next run, in seconds and not yet bounded. -/
def growth (policy : RetryPolicy) (attempts : Nat) : Double :=
  policy.baseDelay.inSeconds.mul (policy.multiplier.pow (min (attempts - 1) maxExponent))

/-- The delay before the next run after a number of attempts, in whole nanoseconds. -/
def nextDelay (policy : RetryPolicy) (attempts : Nat) : Delay :=
  let seconds := policy.growth attempts
  if !seconds.isFinite || policy.maxDelay.inSeconds.le seconds then policy.maxDelay
  else
    match (seconds.maximum Double.zero).scaled? nanosPerSecond with
    | some nanos => ⟨nanos.toNat⟩
    | none => policy.maxDelay

/-- The time of the next run, or the latest time if that cannot be represented. -/
def nextRunAt (policy : RetryPolicy) (attempts : Nat) (now : Instant) : Instant :=
  match Span.ofDelay? (policy.nextDelay attempts) with
  | some span => now.addClamped span
  | none => Instant.max

end RetryPolicy

end TaskAutomation
