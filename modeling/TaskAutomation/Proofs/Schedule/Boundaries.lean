import Mathlib.Order.Bounds.Basic
import Mathlib.Data.Int.Order.Basic
import TaskAutomation.Number.Word
import TaskAutomation.Proofs.Schedule.Hours
import TaskAutomation.Proofs.Time.Millis

/-!
This file proves where the boundaries between steps of time lie. The next boundary is the least
multiple of the step behind a point of time, for points of time before 1970 as well, and the numbers
on the way to it fit into machine words. So the boundary stays the same until it is reached, later
points of time have no earlier ones, and whoever goes on from boundary to boundary meets the multiples
one after the other until time ends.
-/

namespace TaskAutomation

/-- The span is no longer than the longest span, forwards or backwards. -/
structure Span.Bounded (span : Span) : Prop where
  least : min.nanos ≤ span.nanos
  most : span.nanos ≤ max.nanos

/-- A number, if it has 64 bits. -/
def Word.checked64? (value : Int) : Option Int := if holds64 value then some value else none

/-- The second of the next boundary, computed in numbers of 64 bits. There is none if a number on the
way to it has more. -/
def nextSecond? (second : Int) (interval : Span) : Option Int := do
  let step ← Word.checked64? (stepSeconds interval)
  let passed ← Word.checked64? (second / step)
  let boundary ← Word.checked64? (passed * step)
  Word.checked64? (boundary + step)

/-- The start of a second, or the latest time if it cannot be represented. -/
def Instant.orLatest (second : Int) : Instant := if inRange second then ⟨second, 0⟩ else max

variable {interval : Span} {instant a b : Instant} {second other : Int}

namespace Instant

theorem lt_start_iff : instant < ⟨second, 0⟩ ↔ instant.seconds < second := by
  rw [lt_iff]
  exact or_iff_left fun within => Nat.not_lt_zero _ within.2

theorem start_le_iff : ⟨second, 0⟩ ≤ instant ↔ second ≤ instant.seconds := by
  rw [le_iff, Int.le_iff_lt_or_eq]
  exact or_congr Iff.rfl (and_iff_left (Nat.zero_le _))

theorem seconds_le_of_le (le : a ≤ b) : a.seconds ≤ b.seconds := by
  rw [le_iff] at le
  omega

theorem orLatest_of_inRange (inside : inRange second = true) : orLatest second = ⟨second, 0⟩ :=
  if_pos inside

theorem orLatest_of_late (late : maxSeconds < second) : orLatest second = max :=
  if_neg fun inside => Int.not_lt.mpr (inRange_iff.mp inside).2 late

/-- A second that is not too early lies in time or behind its end. -/
theorem inRange_or_late (early : minSeconds ≤ second) :
    inRange second = true ∨ maxSeconds < second := by
  rw [inRange_iff]
  omega

theorem orLatest_mono (early : minSeconds ≤ second) (le : second ≤ other) :
    orLatest second ≤ orLatest other := by
  obtain inside | late := inRange_or_late (Int.le_trans early le)
  · have within : inRange second = true :=
      inRange_iff.mpr ⟨early, Int.le_trans le (inRange_iff.mp inside).2⟩
    rw [orLatest_of_inRange inside, orLatest_of_inRange within, start_le_iff]
    exact le
  · rw [orLatest_of_late late]
    obtain within | late := inRange_or_late early
    · rw [orLatest_of_inRange within, start_le_iff]
      exact (inRange_iff.mp within).2
    · rw [orLatest_of_late late]
      decide

end Instant

/-! ### The least multiple -/

/-- The second is the least multiple of the step whose start lies behind a point of time. -/
def IsNextSecond (interval : Span) (instant : Instant) (second : Int) : Prop :=
  IsLeast {second | stepSeconds interval ∣ second ∧ instant < ⟨second, 0⟩} second

/-- The least multiple behind a point of time is the one that is not a step behind it. -/
theorem isNextSecond_iff :
    IsNextSecond interval instant second ↔
      stepSeconds interval ∣ second ∧ second - stepSeconds interval ≤ instant.seconds ∧
        instant.seconds < second := by
  have positive := stepSeconds_pos interval
  simp only [IsNextSecond, Instant.lt_start_iff]
  constructor
  · rintro ⟨⟨multiple, behind⟩, least⟩
    refine ⟨multiple, Int.not_lt.mp fun far => ?_, behind⟩
    have closer : second ≤ second - stepSeconds interval :=
      least ⟨Int.dvd_sub multiple (Int.dvd_refl _), far⟩
    omega
  · rintro ⟨multiple, near, behind⟩
    refine ⟨⟨multiple, behind⟩, fun other ⟨again, late⟩ => ?_⟩
    -- The other multiple lies behind the one before, so it lies a whole step behind it.
    have apart : stepSeconds interval ≤ other - (second - stepSeconds interval) :=
      Int.le_of_dvd (by omega) (Int.dvd_sub again (Int.dvd_sub multiple (Int.dvd_refl _)))
    omega

theorem isNextSecond_ediv (interval : Span) (instant : Instant) :
    IsNextSecond interval instant
      (instant.seconds / stepSeconds interval * stepSeconds interval + stepSeconds interval) := by
  obtain ⟨behind, near⟩ := boundary_bounds instant.seconds (stepSeconds_pos interval)
  refine isNextSecond_iff.mpr ⟨?_, ?_, behind⟩
  · exact Int.dvd_add (Int.dvd_mul_left _ _) (Int.dvd_refl _)
  · omega

namespace IsNextSecond

variable (next : IsNextSecond interval instant second)

include next

theorem nextBoundary_eq : nextBoundary instant interval = Instant.orLatest second := by
  rw [next.unique (isNextSecond_ediv interval instant)]
  show (Instant.ofSeconds? _).getD Instant.max = _
  unfold Instant.ofSeconds? Instant.orLatest
  split <;> rfl

/-- The boundary is the next one at all points of time since the boundary before it. -/
theorem of_between {between : Instant}
    (since : ⟨second - stepSeconds interval, 0⟩ ≤ between) (before : between < ⟨second, 0⟩) :
    IsNextSecond interval between second :=
  isNextSecond_iff.mpr ⟨(isNextSecond_iff.mp next).1, Instant.start_le_iff.mp since,
    Instant.lt_start_iff.mp before⟩

theorem minSeconds_le (present : Instant.inRange instant.seconds = true) :
    Instant.minSeconds ≤ second :=
  Int.le_trans (Instant.inRange_iff.mp present).1 (Int.le_of_lt (isNextSecond_iff.mp next).2.2)

end IsNextSecond

/-- There is no boundary behind the latest time. -/
theorem nextBoundary_max (interval : Span) : nextBoundary Instant.max interval = Instant.max := by
  have next := isNextSecond_ediv interval Instant.max
  rw [next.nextBoundary_eq, Instant.orLatest_of_late (isNextSecond_iff.mp next).2.2]

theorem nextBoundary_mono (present : Instant.inRange a.seconds = true) (le : a ≤ b) :
    nextBoundary a interval ≤ nextBoundary b interval := by
  have former := isNextSecond_ediv interval a
  have latter := isNextSecond_ediv interval b
  have order : a.seconds ≤ b.seconds := Instant.seconds_le_of_le le
  -- What lies behind the later point of time lies behind the earlier one.
  have still := former.2 ⟨latter.1.1, Instant.lt_start_iff.mpr
    (Int.lt_of_le_of_lt order (Instant.lt_start_iff.mp latter.1.2))⟩
  rw [former.nextBoundary_eq, latter.nextBoundary_eq]
  exact Instant.orLatest_mono (former.minSeconds_le present) still

/-- From one boundary to the next it is a step. Behind the end of time there is no further boundary,
whatever the multiple. -/
theorem nextBoundary_orLatest (multiple : stepSeconds interval ∣ second)
    (early : Instant.minSeconds ≤ second) :
    nextBoundary (Instant.orLatest second) interval =
      Instant.orLatest (second + stepSeconds interval) := by
  have positive := stepSeconds_pos interval
  obtain inside | late := Instant.inRange_or_late early
  · have next : IsNextSecond interval ⟨second, 0⟩ (second + stepSeconds interval) :=
      isNextSecond_iff.mpr ⟨Int.dvd_add multiple (Int.dvd_refl _),
        Int.le_of_eq (Int.add_sub_cancel ..), Int.lt_add_of_pos_right _ positive⟩
    rw [Instant.orLatest_of_inRange inside, next.nextBoundary_eq]
  · rw [Instant.orLatest_of_late late, nextBoundary_max,
      Instant.orLatest_of_late (Int.lt_trans late (Int.lt_add_of_pos_right _ positive))]

/-- The boundaries that are met one after the other. -/
theorem tickTime_succ_eq (present : Instant.inRange instant.seconds = true)
    (next : IsNextSecond interval instant second) (n : Nat) :
    tickTime interval instant (n + 1) = Instant.orLatest (second + n * stepSeconds interval) := by
  have positive := stepSeconds_pos interval
  induction n with
  | zero =>
    rw [Int.natCast_zero, Int.zero_mul, Int.add_zero]
    exact next.nextBoundary_eq
  | succ n inductionHypothesis =>
    have multiple : stepSeconds interval ∣ second + n * stepSeconds interval :=
      Int.dvd_add next.1.1 (Int.dvd_mul_left _ _)
    have early : Instant.minSeconds ≤ second + n * stepSeconds interval :=
      Int.le_trans (next.minSeconds_le present)
        (Int.le_add_of_nonneg_right (Int.mul_nonneg (Int.natCast_nonneg n) (Int.le_of_lt positive)))
    rw [tickTime, inductionHypothesis, nextBoundary_orLatest multiple early, Int.natCast_succ,
      Int.add_mul, Int.one_mul, Int.add_assoc]

/-! ### The numbers on the way -/

theorem stepSeconds_le (bounded : interval.Bounded) :
    stepSeconds interval ≤ Span.maxMillis / 1000 := by
  have shorter : interval.seconds ≤ Span.max.seconds :=
    Int.tdiv_le_tdiv (by decide) bounded.most
  exact Int.max_le.mpr ⟨shorter, by decide⟩

/-- None of the numbers on the way to the next boundary has more than 64 bits. -/
theorem nextSecond?_eq (bounded : interval.Bounded) (present : Instant.inRange second = true) :
    nextSecond? second interval =
      some (second / stepSeconds interval * stepSeconds interval + stepSeconds interval) := by
  have positive := stepSeconds_pos interval
  have short := stepSeconds_le bounded
  have present := Instant.inRange_iff.mp present
  obtain ⟨behind, near⟩ := boundary_bounds second positive
  have quotient := Int.natAbs_ediv_le_natAbs second (stepSeconds interval)
  -- All of them lie within a step of a second that can be represented.
  have holds {value : Int} (least : Instant.minSeconds - stepSeconds interval ≤ value)
      (most : value ≤ -Instant.minSeconds + stepSeconds interval) :
      Word.checked64? value = some value := by
    refine if_pos ?_
    simp only [Word.holds64, Bool.and_eq_true, decide_eq_true_eq]
    simp only [Word.least64, Word.most64, Instant.minSeconds, Span.maxMillis] at *
    omega
  simp only [Instant.minSeconds, Instant.maxSeconds] at present holds
  have step : Word.checked64? (stepSeconds interval) = some _ := holds (by omega) (by omega)
  have passed : Word.checked64? (second / stepSeconds interval) = some _ :=
    holds (by omega) (by omega)
  have boundary : Word.checked64? (second / stepSeconds interval * stepSeconds interval) =
      some _ := holds (by omega) (by omega)
  have next : Word.checked64? (second / stepSeconds interval * stepSeconds interval +
      stepSeconds interval) = some _ := holds (by omega) (by omega)
  simp only [nextSecond?, Option.bind_eq_bind, Option.bind_some, step, passed, boundary, next]

/-- The next boundary is computed without an overflow, and is the start of the least multiple of the
step that lies behind the point of time, or the latest time if that cannot be represented. Later
points of time have no earlier boundaries, the points of time since the boundary before have the same
one, and going on from boundary to boundary leads from every multiple to the one after it, until the
end of time. -/
theorem meets_every_boundary (bounded : interval.Bounded) {start : Instant}
    (present : Instant.inRange start.seconds = true) :
    ∃ first, IsLeast {second | stepSeconds interval ∣ second ∧ start < ⟨second, 0⟩} first ∧
      nextSecond? start.seconds interval = some first ∧
      nextBoundary start interval = Instant.orLatest first ∧
      (∀ between, ⟨first - stepSeconds interval, 0⟩ ≤ between → between < ⟨first, 0⟩ →
        nextBoundary between interval = nextBoundary start interval) ∧
      (∀ later, start ≤ later → nextBoundary start interval ≤ nextBoundary later interval) ∧
      ∀ n : Nat, tickTime interval start (n + 1) =
        Instant.orLatest (first + n * stepSeconds interval) := by
  have next := isNextSecond_ediv interval start
  refine ⟨_, next, nextSecond?_eq bounded present, next.nextBoundary_eq,
    fun between since before => ?_, fun later le => nextBoundary_mono present le,
    tickTime_succ_eq present next⟩
  rw [(next.of_between since before).nextBoundary_eq, next.nextBoundary_eq]

/-- Half a second before 1970 the next full hour is the start of 1970, and two steps later it is two
o'clock. The fraction of a second in the interval does not count. -/
theorem meets_every_boundary_epoch :
    Span.Bounded ⟨3600999999999⟩ ∧ Instant.inRange (-1) = true ∧
      nextBoundary ⟨-1, 500000000⟩ ⟨3600999999999⟩ = ⟨0, 0⟩ ∧
      tickTime ⟨3600999999999⟩ ⟨-1, 500000000⟩ 3 = ⟨7200, 0⟩ := by
  have bounded : Span.Bounded ⟨3600999999999⟩ := ⟨by decide, by decide⟩
  have present : Instant.inRange (-1) = true := by decide
  obtain ⟨first, -, computed, next, -, -, ticks⟩ :=
    @meets_every_boundary _ bounded ⟨-1, 500000000⟩ present
  have zero : nextSecond? (-1) ⟨3600999999999⟩ = some 0 := by decide
  obtain rfl : first = 0 := Option.some.inj (computed.symm.trans zero)
  exact ⟨bounded, present, next.trans (by decide), (ticks 2).trans (by decide)⟩

end TaskAutomation
