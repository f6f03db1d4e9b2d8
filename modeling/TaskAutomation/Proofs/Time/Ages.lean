import TaskAutomation.Engine.Reaper
import TaskAutomation.Proofs.Time.Millis
import Mathlib.Tactic.SplitIfs

/-!
This file is about how long ago something was. The cutoff that lies an age before the time on the
clock is a point of time like any other, and whatever lies before it is older than that age, in full
and in whole milliseconds. So nothing that is at most as old as the age falls behind the cutoff.
A leap second is a second of its own, and an age that leads beyond the earliest point of time is
older than everything.
-/

namespace TaskAutomation.Instant

/-! ### Between two points of time -/

/-- The nanoseconds from a point of time to one that is not earlier. A leap second is over when the
next second of the clock begins, like any other. -/
def elapsed (former latter : Instant) : Int :=
  if former.seconds < latter.seconds then
    (latter.seconds - former.seconds) * nanosPerSecond + latter.nanos -
      (former.nanos % nanosPerSecond : Nat)
  else latter.nanos - former.nanos

/-- The nanoseconds between two points of time. -/
def apart (a b : Instant) : Int := if a ≤ b then a.elapsed b else b.elapsed a

example : apart ⟨59, 1500000000⟩ ⟨60, 250000000⟩ = 750000000 := by decide

/-- A point of time is not later than a delay after another one. If that lies beyond the latest
point of time, no point of time is. -/
def WithinDelay (start : Instant) (delay : Delay) (now : Instant) : Prop :=
  ∀ limit, start.add? ⟨delay.nanos⟩ = some limit → now ≤ limit

variable {instant now : Instant}

theorem isLeap_iff (instant : Instant) : instant.isLeap = true ↔ nanosPerSecond ≤ instant.nanos :=
  decide_eq_true_iff

/-- Whole seconds move a point of time by that many seconds. Backwards out of a leap second the one
behind it counts as well. -/
theorem add?_wholeSeconds (ordinary : instant.nanos < 2 * nanosPerSecond) (n : Int) :
    instant.add? ⟨n * nanosPerSecond⟩ =
      if instant.isLeap ∧ n = 0 then some instant
      else if inRange (instant.seconds + n + if instant.isLeap ∧ n < 0 then 1 else 0) then
        some ⟨instant.seconds + n + if instant.isLeap ∧ n < 0 then 1 else 0,
          if instant.isLeap then instant.nanos - nanosPerSecond else instant.nanos⟩
      else none := by
  have positive : (nanosPerSecond : Int) ≠ 0 := by decide
  have seconds : (⟨n * nanosPerSecond⟩ : Span).seconds = n := Int.mul_tdiv_cancel n positive
  have subsecond : (⟨n * nanosPerSecond⟩ : Span).subsecond = 0 := Int.mul_tmod_left n _
  have present : ¬ (instant.nanos : Int) < 0 := by omega
  by_cases leap : instant.isLeap = true
  · have beyond : ¬ (instant.nanos : Int) - nanosPerSecond < 0 := by
      rw [isLeap_iff] at leap
      omega
    have within : ¬ (nanosPerSecond : Int) ≤ instant.nanos - nanosPerSecond := by omega
    have nanos : ((instant.nanos : Int) - nanosPerSecond).toNat = instant.nanos - nanosPerSecond := by
      omega
    obtain backward | none | forward := Int.lt_trichotomy n 0
    · have : n ≠ 0 := Int.ne_of_lt backward
      have : ¬ 0 < n := by omega
      simp [add?, *, Int.add_right_comm]
    · have : ¬ n < 0 := by omega
      have : ¬ 0 < n := by omega
      simp only [add?, seconds, subsecond]
      simp [*]
    · have : n ≠ 0 := Int.ne_of_gt forward
      have : ¬ n < 0 := by omega
      simp [add?, *]
  · have within : ¬ (nanosPerSecond : Int) ≤ instant.nanos := by
      rw [isLeap_iff] at leap
      omega
    simp [add?, *]

/-- A step of whole seconds ends about where they lead to. -/
theorem seconds_le_of_add? {span : Span} {result : Instant} (added : instant.add? span = some result)
    (moves : span.seconds < 0) :
    inRange result.seconds = true ∧ result.seconds ≤ instant.seconds + span.seconds + 2 := by
  unfold add? at added
  grind

/-! ### Cutoffs -/

/-- The time an age ago is the earliest point of time, or it lies exactly the age back. A leap second
is left backwards as the second behind it. -/
theorem ago_ofSeconds (representable : now.Representable) (n : Nat) :
    now.ago (.ofSeconds n) = min ∨
      n = 0 ∧ now.ago (.ofSeconds n) = now ∨
      inRange (now.ago (.ofSeconds n)).seconds = true ∧
        (now.nanos < nanosPerSecond ∧ (now.ago (.ofSeconds n)).seconds = now.seconds - n ∧
            (now.ago (.ofSeconds n)).nanos = now.nanos ∨
          0 < n ∧ nanosPerSecond ≤ now.nanos ∧
            (now.ago (.ofSeconds n)).seconds = now.seconds + 1 - n ∧
            (now.ago (.ofSeconds n)).nanos = now.nanos - nanosPerSecond) := by
  unfold ago
  by_cases long : ((Delay.ofSeconds n).nanos : Int) ≤ Span.max.nanos
  · have span : (Span.ofDelay? (.ofSeconds n)).getD Span.max = ⟨n * nanosPerSecond⟩ := by
      rw [Span.ofDelay?, if_pos long]
      rfl
    have back : now.sub? ⟨n * nanosPerSecond⟩ = now.add? ⟨-n * nanosPerSecond⟩ := by
      rw [sub?, Int.neg_mul]
    have leap := now.isLeap_iff
    rw [span, back, add?_wholeSeconds representable.nanos_lt]
    grind
  · -- An age that is no span leads far beyond the earliest point of time.
    have span : (Span.ofDelay? (.ofSeconds n)).getD Span.max = Span.max := by
      rw [Span.ofDelay?, if_neg long]
      rfl
    rw [span]
    refine Or.inl ?_
    cases result : now.sub? Span.max with
    | none => rfl
    | some earlier =>
      obtain ⟨range, near⟩ := seconds_le_of_add? result (by decide)
      have most := (le_iff _ _).mp representable.most
      have far : (⟨-Span.max.nanos⟩ : Span).seconds = -9223372036854775 := by decide
      simp only [inRange, Bool.and_eq_true, decide_eq_true_eq] at range
      simp only [max, minSeconds, maxSeconds] at most range
      omega

theorem representable_ago (representable : now.Representable) (n : Nat) :
    (now.ago (.ofSeconds n)).Representable := by
  have limit := representable.nanos_lt
  obtain earliest | ⟨-, same⟩ | ⟨range, exact⟩ := ago_ofSeconds representable n
  · rw [earliest]
    decide
  · rw [same]
    exact representable
  · generalize now.ago (.ofSeconds n) = cutoff at *
    simp only [inRange, Bool.and_eq_true, decide_eq_true_eq] at range
    simp only [nanosPerSecond] at exact limit
    refine ⟨(le_iff _ _).mpr ?_, (le_iff _ _).mpr ?_, ?_⟩
    · simp only [min]
      omega
    · simp only [max]
      omega
    · simp only [nanosPerSecond]
      omega

/-- What lies before the time an age ago is older than the age, also if only milliseconds are
compared. -/
theorem lt_apart_of_before_ago {u : Instant} (known : u.Representable)
    (representable : now.Representable) {n : Nat}
    (before : u < now.ago (.ofSeconds n) ∨ u.millis < (now.ago (.ofSeconds n)).millis) :
    (Delay.ofSeconds n).nanos < u.apart now := by
  have start := (le_iff _ _).mp known.least
  have limit := known.nanos_lt
  have limitNow := representable.nanos_lt
  have cutoffs := ago_ofSeconds representable n
  generalize now.ago (.ofSeconds n) = cutoff at before cutoffs
  simp only [lt_iff, millis] at before
  simp only [apart, elapsed, le_iff, Delay.ofSeconds]
  simp only [min, nanosPerSecond] at start limit limitNow cutoffs ⊢
  obtain rfl | ⟨rfl, rfl⟩ | ⟨-, exact⟩ := cutoffs
  · dsimp only at before
    omega
  · split_ifs <;> omega
  · split_ifs <;> omega

/-- Within a delay of whole seconds the clock advances by no more than these seconds. -/
theorem WithinDelay.seconds_le {start : Instant} {delay : Nat}
    (within : start.WithinDelay (.ofSeconds delay) now) (known : start.Representable)
    (representable : now.Representable) :
    now.seconds < start.seconds + delay ∨
      now.seconds = start.seconds + delay ∧ now.nanos ≤ start.nanos := by
  have most := (le_iff _ _).mp representable.most
  have least := (le_iff _ _).mp known.least
  have forward : ¬ (delay : Int) < 0 := Int.not_lt.mpr (Int.natCast_nonneg delay)
  have sum : start.add? ⟨(Delay.ofSeconds delay).nanos⟩ = start.add? ⟨(delay : Int) * nanosPerSecond⟩ :=
    rfl
  rw [WithinDelay, sum, add?_wholeSeconds known.nanos_lt] at within
  simp only [forward, and_false, if_false, Int.add_zero] at within
  by_cases still : start.isLeap = true ∧ (delay : Int) = 0
  · have reached := (le_iff _ _).mp (within _ (if_pos still))
    omega
  · rw [if_neg still] at within
    by_cases range : inRange (start.seconds + delay) = true
    · have reached := (le_iff _ _).mp (within _ (if_pos range))
      dsimp only at reached
      split at reached <;> omega
    · -- The clock cannot show a time beyond the latest one.
      simp only [inRange, Bool.and_eq_true, decide_eq_true_eq] at range
      simp only [min, max] at most least
      omega

/-- What is within a delay of a point of time does not leave that point of time behind the cutoff of
a longer age, even if the clock stands in a leap second. -/
theorem not_before_ago_of_withinDelay {start : Instant} (known : start.Representable)
    (representable : now.Representable) {delay age : Nat} (longer : delay < age)
    (within : start.WithinDelay (.ofSeconds delay) now) :
    ¬ (start < now.ago (.ofSeconds age) ∨ start.millis < (now.ago (.ofSeconds age)).millis) := by
  have least := (le_iff _ _).mp known.least
  have limit := known.nanos_lt
  have limitNow := representable.nanos_lt
  have cutoffs := ago_ofSeconds representable age
  have advance := within.seconds_le known representable
  generalize now.ago (.ofSeconds age) = cutoff at cutoffs
  simp only [lt_iff, millis]
  simp only [min, nanosPerSecond] at least limit limitNow cutoffs
  obtain rfl | ⟨rfl, rfl⟩ | ⟨-, exact⟩ := cutoffs
  · dsimp only
    omega
  · omega
  · omega

end TaskAutomation.Instant
