import TaskAutomation.Engine.Program

/-!
This file defines the reaper. It takes tasks back from workers that have not reported for too long,
and it removes tasks that have been over for longer than they are kept.
-/

namespace TaskAutomation

/-- What the reaper needs. -/
structure Reaper where
  /-- A run without a report for longer than this is given up. -/
  staleAfter : Delay
  /-- The wait between two passes. -/
  interval : Delay
  /-- How long tasks are kept when they are over; for ever if absent. -/
  retention : Option Delay
  deriving DecidableEq, Repr

/-- The time an age ago. An age that is too long for a span counts as the longest span, and a time
that cannot be represented as the earliest one. -/
def Instant.ago (now : Instant) (age : Delay) : Instant :=
  (now.sub? ((Span.ofDelay? age).getD Span.max)).getD Instant.min

namespace Reaper

/-- Takes stale tasks back and gives their number. -/
def reapOnce (reaper : Reaper) : Work StoreFault Nat := do
  let now ← Request.time
  TaskRequest.ask (.reap (now.ago reaper.staleAfter))

/-- Removes tasks that are no longer kept and gives their number. -/
def purgeOnce (reaper : Reaper) : Work StoreFault Nat := do
  match reaper.retention with
  | none => return 0
  | some retention =>
    let now ← Request.time
    TaskRequest.ask (.purge (now.ago retention))

/-- One pass. Faults of the store are left to the next pass. -/
def pass (reaper : Reaper) : Program Unit :=
  reaper.reapOnce.run.bind fun _ => reaper.purgeOnce.run.bind fun _ => .pure ()

/-- A number of passes with a wait after each. -/
def passes (reaper : Reaper) : Nat → Program Unit
  | 0 => .pure ()
  | more + 1 => reaper.pass.bind fun _ => .sleep reaper.interval (reaper.passes more)

/-- The number of passes that start within a time. -/
def passesWithin (reaper : Reaper) (span : Delay) : Nat :=
  (span.nanos + reaper.interval.nanos - 1) / reaper.interval.nanos

/-- Passes until the order to stop, which comes after a time. -/
def runFor (reaper : Reaper) (span : Delay) : Program Unit :=
  reaper.passes (reaper.passesWithin span)

/-- Passes until whoever could give the order to stop is gone. The first pass is always made. -/
def runUntilAbandoned (reaper : Reaper) (span : Delay) : Program Unit :=
  reaper.passes (max 1 (reaper.passesWithin span))

end Reaper

end TaskAutomation
