import TaskAutomation.Time.Instant

/-!
This file proves what is left of a point of time that is kept in whole milliseconds. Every point of
time that there is can be read again and then lies at the start of its millisecond; one that lay
there already comes back as it was, and such points of time are ordered like their milliseconds.
-/

namespace TaskAutomation.Instant

/-- The points of time that there are: from the earliest to the latest one, with the nanoseconds of
a second or of a leap second. -/
structure Representable (instant : Instant) : Prop where
  least : min ≤ instant
  most : instant ≤ max
  nanos_lt : instant.nanos < 2 * nanosPerSecond

instance (instant : Instant) : Decidable instant.Representable :=
  decidable_of_iff (min ≤ instant ∧ instant ≤ max ∧ instant.nanos < 2 * nanosPerSecond)
    ⟨fun ⟨least, most, nanos_lt⟩ => ⟨least, most, nanos_lt⟩,
      fun ⟨least, most, nanos_lt⟩ => ⟨least, most, nanos_lt⟩⟩

/-- The point of time is a whole number of milliseconds and not in a leap second. -/
structure Whole (instant : Instant) : Prop where
  even : instant.nanos % 1000000 = 0
  ordinary : instant.nanos < nanosPerSecond

instance (instant : Instant) : Decidable instant.Whole :=
  decidable_of_iff (instant.nanos % 1000000 = 0 ∧ instant.nanos < nanosPerSecond)
    ⟨fun ⟨even, ordinary⟩ => ⟨even, ordinary⟩, fun ⟨even, ordinary⟩ => ⟨even, ordinary⟩⟩

/-- The start of the millisecond of a point of time. -/
def floorMillis (instant : Instant) : Instant :=
  ⟨instant.millis / 1000, (instant.millis % 1000).toNat * 1000000⟩

theorem lt_iff (a b : Instant) :
    a < b ↔ a.seconds < b.seconds ∨ a.seconds = b.seconds ∧ a.nanos < b.nanos := by
  show a.lt b = true ↔ _
  simp only [lt, Bool.or_eq_true, Bool.and_eq_true, decide_eq_true_eq]

theorem le_iff (a b : Instant) :
    a ≤ b ↔ a.seconds < b.seconds ∨ a.seconds = b.seconds ∧ a.nanos ≤ b.nanos := by
  show a.le b = true ↔ _
  simp only [le, Bool.or_eq_true, Bool.and_eq_true, decide_eq_true_eq]

variable {instant : Instant}

theorem Representable.seconds_bounds (representable : instant.Representable) :
    minSeconds ≤ instant.seconds ∧ instant.seconds ≤ maxSeconds := by
  obtain ⟨least, most, -⟩ := representable
  rw [le_iff] at least most
  simp only [min, max] at least most
  omega

theorem inRange_millis (representable : instant.Representable) :
    inRange (instant.millis / 1000) = true := by
  obtain ⟨least, most, nanos⟩ := representable
  rw [le_iff] at least most
  simp only [min, max, nanosPerSecond] at least most nanos
  simp only [inRange, Bool.and_eq_true, decide_eq_true_eq]
  simp only [millis, minSeconds, maxSeconds] at least most ⊢
  omega

/-- A point of time is read again from its milliseconds. -/
theorem ofMillis?_millis (representable : instant.Representable) :
    ofMillis? instant.millis = some instant.floorMillis :=
  if_pos (inRange_millis representable)

@[simp] theorem millis_floorMillis (instant : Instant) :
    instant.floorMillis.millis = instant.millis := by
  simp only [floorMillis, millis]
  omega

/-- A point of time that is read from milliseconds has these milliseconds. -/
theorem millis_of_ofMillis? {millis : Int} (read : ofMillis? millis = some instant) :
    instant.millis = millis := by
  simp only [ofMillis?] at read
  split at read
  · cases read
    simp only [Instant.millis]
    omega
  · cases read

theorem representable_floorMillis (representable : instant.Representable) :
    instant.floorMillis.Representable := by
  have range := inRange_millis representable
  simp only [inRange, Bool.and_eq_true, decide_eq_true_eq] at range
  refine ⟨(le_iff _ _).mpr ?_, (le_iff _ _).mpr ?_, ?_⟩
  · simp only [min, floorMillis]
    omega
  · simp only [max, floorMillis]
    omega
  · simp only [floorMillis, nanosPerSecond]
    omega

theorem whole_floorMillis (instant : Instant) : instant.floorMillis.Whole := by
  refine ⟨?_, ?_⟩
  · simp only [floorMillis]
    omega
  · simp only [floorMillis, nanosPerSecond]
    omega

/-- A whole number of milliseconds is kept exactly. -/
theorem Whole.floorMillis_eq (whole : instant.Whole) : instant.floorMillis = instant := by
  obtain ⟨even, ordinary⟩ := whole
  obtain ⟨seconds, nanos⟩ := instant
  simp only [nanosPerSecond] at even ordinary
  simp only [floorMillis, millis, mk.injEq]
  omega

theorem Whole.millis_lt_iff {a b : Instant} (left : a.Whole) (right : b.Whole) :
    a.millis < b.millis ↔ a < b := by
  have leftNanos := left.ordinary
  have rightNanos := right.ordinary
  have leftEven := left.even
  have rightEven := right.even
  simp only [nanosPerSecond] at leftNanos rightNanos
  rw [lt_iff, millis, millis]
  omega

/-- A whole number of milliseconds lies before every point of time of its millisecond that is not in
a leap second. -/
theorem Whole.le_of_millis_le {a b : Instant} (whole : a.Whole) (ordinary : b.nanos < nanosPerSecond)
    (le : a.millis ≤ b.millis) : a ≤ b := by
  have aNanos := whole.ordinary
  have aEven := whole.even
  simp only [nanosPerSecond] at aNanos ordinary
  rw [millis, millis] at le
  rw [le_iff]
  omega

theorem Whole.millis_le_iff {a b : Instant} (left : a.Whole) (right : b.Whole) :
    a.millis ≤ b.millis ↔ a ≤ b := by
  have leftNanos := left.ordinary
  have rightNanos := right.ordinary
  have leftEven := left.even
  have rightEven := right.even
  simp only [nanosPerSecond] at leftNanos rightNanos
  rw [le_iff, millis, millis]
  omega

theorem Whole.millis_eq_iff {a b : Instant} (left : a.Whole) (right : b.Whole) :
    a.millis = b.millis ↔ a = b := by
  refine ⟨fun same => ?_, fun same => by rw [same]⟩
  rw [← left.floorMillis_eq, ← right.floorMillis_eq, floorMillis, floorMillis, same]

end TaskAutomation.Instant
