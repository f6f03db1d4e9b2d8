import TaskAutomation.Config.Basic
import TaskAutomation.Schedule.Basic
import TaskAutomation.Schedule.Boundary

/-!
This file is about hours and the boundaries between steps of time. A zone whose offset never changes
sees the hours of universal time, moved by the offset. The next boundary lies in the same hour or in
the next one as long as a step is no longer than an hour, so nothing that goes on from boundary to
boundary passes over an hour; with a longer step it does.
-/

namespace TaskAutomation

/-- The length of an hour in seconds. -/
def secondsPerHour : Int := 3600

/-- The whole hour of universal time in which a point of time lies, counted from 1970. -/
def Instant.utcHour (instant : Instant) : Int := instant.seconds / secondsPerHour

/-- An hour of universal time as a clock on the wall shows it there. -/
def LocalHour.ofUtcHour (hour : Int) : LocalHour := ⟨hour / 24, (hour % 24).toNat⟩

theorem Instant.inRange_iff {seconds : Int} :
    inRange seconds = true ↔ minSeconds ≤ seconds ∧ seconds ≤ maxSeconds := by
  rw [inRange, Bool.and_eq_true, decide_eq_true_eq, decide_eq_true_eq]

namespace Zone

/-- Local time is apart from universal time by the same number of seconds at all times. -/
def HasOffset (zone : Zone) (offset : Int) : Prop :=
  ∀ second, zone.history.offsetAt second = offset

variable {zone : Zone} {offset : Int}

theorem hasOffset_constant (name : String) (offset : Int) :
    HasOffset ⟨name, .constant offset⟩ offset := fun _ => rfl

/-- Two points of time lie in the same local hour exactly if they lie in the same hour of universal
time that is moved by the offset. -/
theorem localHour_eq_iff (constant : zone.HasOffset offset) (a b : Instant) :
    zone.localHour a = zone.localHour b ↔
      (a.seconds + offset) / secondsPerHour = (b.seconds + offset) / secondsPerHour := by
  simp only [localHour, localSeconds, constant a.seconds, constant b.seconds, LocalHour.mk.injEq,
    Instant.secondsPerDay, secondsPerHour]
  omega

theorem localHour_of_utc (universal : zone.HasOffset 0) (instant : Instant) :
    zone.localHour instant = LocalHour.ofUtcHour instant.utcHour := by
  simp only [localHour, localSeconds, universal instant.seconds, LocalHour.ofUtcHour,
    Instant.utcHour, LocalHour.mk.injEq, Instant.secondsPerDay, secondsPerHour]
  omega

end Zone

/-! ### Boundaries -/

section

variable {interval : Span} {instant : Instant}

theorem stepSeconds_pos (interval : Span) : 0 < stepSeconds interval := by
  unfold stepSeconds
  omega

/-- The boundary lies behind the point of time, by one step at most. -/
theorem boundary_bounds (seconds : Int) {step : Int} (positive : 0 < step) :
    seconds < seconds / step * step + step ∧ seconds / step * step + step ≤ seconds + step := by
  have split := Int.ediv_mul_add_emod seconds step
  have least := Int.emod_nonneg seconds (Int.ne_of_gt positive)
  have most := Int.emod_lt_of_pos seconds positive
  omega

/-- The next boundary is the first second of a step that can be represented, or the latest time. -/
theorem seconds_nextBoundary (instant : Instant) (interval : Span) :
    ∃ boundary, instant.seconds < boundary ∧ boundary ≤ instant.seconds + stepSeconds interval ∧
      (Instant.inRange boundary = true ∧ (nextBoundary instant interval).seconds = boundary ∨
        Instant.inRange boundary = false ∧ nextBoundary instant interval = Instant.max) := by
  obtain ⟨behind, soon⟩ := boundary_bounds instant.seconds (stepSeconds_pos interval)
  refine ⟨_, behind, soon, ?_⟩
  show _ ∧ ((Instant.ofSeconds? _).getD Instant.max).seconds = _ ∨
    _ ∧ (Instant.ofSeconds? _).getD Instant.max = Instant.max
  unfold Instant.ofSeconds?
  split
  · next inside => exact Or.inl ⟨inside, rfl⟩
  · next outside => exact Or.inr ⟨Bool.eq_false_iff.mpr outside, rfl⟩

theorem inRange_nextBoundary (instant : Instant) (interval : Span) :
    Instant.inRange (nextBoundary instant interval).seconds = true := by
  obtain ⟨boundary, -, -, ⟨inside, same⟩ | ⟨-, latest⟩⟩ := seconds_nextBoundary instant interval
  · rw [same, inside]
  · rw [latest]
    decide

/-- From a point of time that can be represented, the next boundary lies in the same hour or in the
next one, if a step is no longer than an hour. The last hour of all is never left. -/
theorem utcHour_nextBoundary_le (short : stepSeconds interval ≤ secondsPerHour)
    (present : Instant.inRange instant.seconds = true) :
    (nextBoundary instant interval).utcHour ≤ instant.utcHour + 1 := by
  obtain ⟨boundary, behind, soon, ⟨-, same⟩ | ⟨outside, latest⟩⟩ :=
    seconds_nextBoundary instant interval
  · unfold Instant.utcHour
    rw [same]
    unfold secondsPerHour at *
    omega
  · rw [latest]
    rw [← Bool.not_eq_true, Instant.inRange_iff] at outside
    rw [Instant.inRange_iff] at present
    unfold Instant.minSeconds Instant.maxSeconds at *
    simp only [Instant.utcHour, Instant.max, Instant.maxSeconds, secondsPerHour] at short ⊢
    omega

/-- The points of time that are reached from a start by going on from each to its next boundary. -/
def tickTime (interval : Span) (start : Instant) : Nat → Instant
  | 0 => start
  | n + 1 => nextBoundary (tickTime interval start n) interval

theorem inRange_tickTime {start : Instant} (present : Instant.inRange start.seconds = true)
    (n : Nat) : Instant.inRange (tickTime interval start n).seconds = true := by
  cases n with
  | zero => exact present
  | succ n => exact inRange_nextBoundary _ interval

/-- Steps no longer than an hour reach every hour that they do not stop before. -/
theorem exists_tickTime (short : stepSeconds interval ≤ secondsPerHour) {start : Instant}
    (present : Instant.inRange start.seconds = true) {n : Nat} {hour : Int}
    (reached : start.utcHour ≤ hour) (passed : hour ≤ (tickTime interval start n).utcHour) :
    ∃ i ≤ n, (tickTime interval start i).utcHour = hour := by
  induction n with
  | zero => exact ⟨0, Nat.le_refl 0, Int.le_antisymm reached passed⟩
  | succ n inductionHypothesis =>
    by_cases before : hour ≤ (tickTime interval start n).utcHour
    · obtain ⟨i, early, same⟩ := inductionHypothesis before
      exact ⟨i, Nat.le_succ_of_le early, same⟩
    · have next : (tickTime interval start (n + 1)).utcHour ≤ _ :=
        utcHour_nextBoundary_le short (inRange_tickTime present n)
      refine ⟨n + 1, Nat.le_refl _, Int.le_antisymm ?_ passed⟩
      exact Int.le_trans next (Int.not_le.mp before)

/-- A step that is longer than an hour leads from the end of one hour over the whole next one. -/
theorem nextBoundary_of_long (long : secondsPerHour < stepSeconds interval) :
    nextBoundary ⟨-secondsPerHour - 1, 0⟩ interval = ⟨0, 0⟩ := by
  have before : (-secondsPerHour - 1) / stepSeconds interval = -1 := by
    rw [Int.ediv_eq_iff_of_pos (stepSeconds_pos interval)]
    unfold secondsPerHour at *
    omega
  show (Instant.ofSeconds? ((-secondsPerHour - 1) / stepSeconds interval * stepSeconds interval +
    stepSeconds interval)).getD Instant.max = _
  rw [before, Int.neg_mul, Int.one_mul, Int.add_left_neg]
  rfl

end

/-! ### The settings -/

/-- The setting in whole seconds, or as many as the longest span has. -/
theorem Span.seconds_ofSecondsClamped (seconds : Nat) :
    (Span.ofSecondsClamped seconds).seconds = Min.min (seconds : Int) (maxMillis / 1000) := by
  unfold ofSecondsClamped ofSeconds?
  split
  · next few =>
    rw [Option.getD_some, Span.seconds, Int.mul_tdiv_cancel _ (by decide)]
    simp only [maxMillis] at few ⊢
    omega
  · next many =>
    rw [Option.getD_none, show max.seconds = maxMillis / 1000 by decide]
    simp only [maxMillis] at many ⊢
    omega

/-- A step between two ticks is no longer than an hour if and only if the setting says so. -/
theorem AutomateConfig.stepSeconds_le_iff (config : AutomateConfig) :
    stepSeconds config.tickInterval ≤ secondsPerHour ↔ config.tickIntervalSeconds ≤ 3600 := by
  unfold stepSeconds tickInterval
  rw [Span.seconds_ofSecondsClamped]
  simp only [Span.maxMillis, secondsPerHour]
  omega

end TaskAutomation
