import TaskAutomation.Proofs.Schedule.Hours
import TaskAutomation.Proofs.Time.Calendar

/-!
This file proves that a schedule sees of a point of time only the date and the hour on the local
clock. Whatever the zone, the clock shows exactly one date and hour at every point of time, and the
schedule tests the fields of that date and that hour. Points of time in the same local hour, among
them those of an hour that a change of the clock repeats, fit the same schedules. They are compared
by their dates, so there is no answer where the calendar ends.
-/

namespace TaskAutomation

/-! ### The local clock -/

namespace Zone

/-- At a point of time the local clock shows a date of the calendar and a full hour of that day: the
hour has begun and is not over. -/
structure Shows (zone : Zone) (instant : Instant) (date : Date) (hour : Nat) : Prop where
  valid : date.isValid = true
  hour_lt : hour < 24
  begun : date.toDays * Instant.secondsPerDay + hour * secondsPerHour ≤ zone.localSeconds instant
  not_over :
    zone.localSeconds instant < date.toDays * Instant.secondsPerDay + (hour + 1) * secondsPerHour

variable {zone : Zone} {instant a b : Instant} {date : Date} {hour : Nat}

theorem Shows.localHour_eq (shows : zone.Shows instant date hour) :
    zone.localHour instant = ⟨date.toDays, hour⟩ := by
  obtain ⟨-, hour_lt, begun, not_over⟩ := shows
  simp only [localHour, LocalHour.mk.injEq]
  simp only [Instant.secondsPerDay, secondsPerHour] at *
  omega

/-- The clock always shows a date and an hour. -/
theorem shows_localHour (zone : Zone) (instant : Instant) :
    zone.Shows instant (zone.localHour instant).date (zone.localHour instant).hour := by
  have days : (zone.localHour instant).date.toDays =
      zone.localSeconds instant / Instant.secondsPerDay := Date.toDays_ofDays _
  refine ⟨Date.isValid_ofDays _, ?_, ?_, ?_⟩
  · simp only [localHour, Instant.secondsPerDay]
    omega
  · rw [days]
    simp only [localHour, Instant.secondsPerDay, secondsPerHour]
    omega
  · rw [days]
    simp only [localHour, Instant.secondsPerDay, secondsPerHour]
    omega

/-- The clock shows one date and one hour only. -/
theorem Shows.unique {other : Date} {late : Nat} (shows : zone.Shows instant date hour)
    (again : zone.Shows instant other late) : date = other ∧ hour = late := by
  have same := shows.localHour_eq.symm.trans again.localHour_eq
  obtain ⟨days, hours⟩ := LocalHour.mk.inj same
  exact ⟨Date.toDays_inj shows.valid again.valid days, hours⟩

theorem localHour_eq_iff_shows :
    zone.localHour a = zone.localHour b ↔
      ∃ date hour, zone.Shows a date hour ∧ zone.Shows b date hour := by
  constructor
  · intro same
    refine ⟨_, _, zone.shows_localHour a, ?_⟩
    rw [same]
    exact zone.shows_localHour b
  · rintro ⟨date, hour, first, second⟩
    rw [first.localHour_eq, second.localHour_eq]

/-- The points of time at which the local date can be represented. -/
abbrev Dated (zone : Zone) : Type := { instant : Instant // zone.hasDateAt instant = true }

end Zone

/-! ### Schedules -/

namespace Schedule

variable {schedule : Schedule} {instant a b : Instant} {date : Date} {hour : Nat}

/-- A schedule tests the hour that the clock shows and the day, the month and the day of the week of
the date. -/
theorem isDueAt_iff_of_shows (shows : schedule.zone.Shows instant date hour) :
    schedule.isDueAt instant = true ↔
      schedule.hour.test hour = true ∧ schedule.day.test date.day = true ∧
        schedule.month.test date.month = true ∧
        schedule.weekDay.test (Date.weekday date.toDays) = true := by
  rw [isDueAt, shows.localHour_eq]
  simp only [matchesHour, LocalHour.date, LocalHour.weekday, Date.ofDays_toDays shows.valid,
    Bool.and_eq_true, and_assoc]

theorem sameHour?_eq_some_iff {answer : Bool} :
    schedule.sameHour? a b = some answer ↔
      (schedule.zone.hasDateAt a = true ∧ schedule.zone.hasDateAt b = true) ∧
        schedule.sameHour a b = answer := by
  rw [sameHour?, Option.ite_none_right_eq_some, Bool.and_eq_true, Option.some.injEq]

theorem sameHour?_eq_none_iff :
    schedule.sameHour? a b = none ↔
      ¬ (schedule.zone.hasDateAt a = true ∧ schedule.zone.hasDateAt b = true) := by
  rw [sameHour?, ← Bool.and_eq_true]
  split <;> simp [*]

theorem sameHour_iff_shows :
    schedule.sameHour a b = true ↔
      ∃ date hour, schedule.zone.Shows a date hour ∧ schedule.zone.Shows b date hour := by
  rw [sameHour, beq_iff_eq, Zone.localHour_eq_iff_shows]

/-- Two points of time are in the same hour if the clock shows the same date and hour. -/
theorem sameHour?_eq_true_iff :
    schedule.sameHour? a b = some true ↔
      (schedule.zone.hasDateAt a = true ∧ schedule.zone.hasDateAt b = true) ∧
        ∃ date hour, schedule.zone.Shows a date hour ∧ schedule.zone.Shows b date hour := by
  rw [sameHour?_eq_some_iff, sameHour_iff_shows]

theorem equivalence_sameHour? (schedule : Schedule) :
    Equivalence fun a b : schedule.zone.Dated => schedule.sameHour? a b = some true where
  refl a := sameHour?_eq_true_iff.mpr
    ⟨⟨a.2, a.2⟩, _, _, schedule.zone.shows_localHour a, schedule.zone.shows_localHour a⟩
  symm same := by
    obtain ⟨⟨first, second⟩, date, hour, former, latter⟩ := sameHour?_eq_true_iff.mp same
    exact sameHour?_eq_true_iff.mpr ⟨⟨second, first⟩, date, hour, latter, former⟩
  trans left right := by
    obtain ⟨⟨first, -⟩, date, hour, former, middle⟩ := sameHour?_eq_true_iff.mp left
    obtain ⟨⟨-, second⟩, later, lateHour, again, latter⟩ := sameHour?_eq_true_iff.mp right
    obtain ⟨rfl, rfl⟩ := middle.unique again
    exact sameHour?_eq_true_iff.mpr ⟨⟨first, second⟩, date, hour, former, latter⟩

theorem isDueAt_eq_of_shows (former : schedule.zone.Shows a date hour)
    (latter : schedule.zone.Shows b date hour) : schedule.isDueAt a = schedule.isDueAt b := by
  rw [Bool.eq_iff_iff, isDueAt_iff_of_shows former, isDueAt_iff_of_shows latter]

/-- Points of time are compared by the date and the hour that the local clock shows, wherever both
dates can be represented, and there this is an equivalence. A schedule tests nothing but that date and
that hour, so it is due at all points of time of an hour or at none of them. -/
theorem sees_only_local_hours (schedule : Schedule) :
    (∀ a b, schedule.sameHour? a b = none ↔
      ¬ (schedule.zone.hasDateAt a = true ∧ schedule.zone.hasDateAt b = true)) ∧
    (Equivalence fun a b : schedule.zone.Dated => schedule.sameHour? a b = some true) ∧
    (∀ a b, schedule.sameHour? a b = some true ↔
      (schedule.zone.hasDateAt a = true ∧ schedule.zone.hasDateAt b = true) ∧
        ∃ date hour, schedule.zone.Shows a date hour ∧ schedule.zone.Shows b date hour) ∧
    (∀ instant, ∃ date hour, schedule.zone.Shows instant date hour ∧
      (schedule.isDueAt instant = true ↔
        schedule.hour.test hour = true ∧ schedule.day.test date.day = true ∧
          schedule.month.test date.month = true ∧
          schedule.weekDay.test (Date.weekday date.toDays) = true)) ∧
    ∀ a b, schedule.sameHour? a b = some true → schedule.isDueAt a = schedule.isDueAt b := by
  refine ⟨fun _ _ => sameHour?_eq_none_iff, schedule.equivalence_sameHour?,
    fun _ _ => sameHour?_eq_true_iff, fun instant => ?_, fun a b same => ?_⟩
  · have shows := schedule.zone.shows_localHour instant
    exact ⟨_, _, shows, isDueAt_iff_of_shows shows⟩
  · obtain ⟨-, date, hour, former, latter⟩ := sameHour?_eq_true_iff.mp same
    exact isDueAt_eq_of_shows former latter

/-- Two o'clock in Berlin. In the night in which the clock is put back this hour comes twice. -/
def berlinAtTwo : Schedule where
  hour := ⟨⟨.exactly 2, []⟩, []⟩
  day := ⟨⟨.any, []⟩, []⟩
  month := ⟨⟨.any, []⟩, []⟩
  weekDay := ⟨⟨.any, []⟩, []⟩
  zone := ⟨"Europe/Berlin", .berlin⟩

theorem sees_only_local_hours_repeated :
    ScheduleTemplate.compileWith Zone.ofName? { hour := "2", timezone := some "Europe/Berlin" } =
        .ok berlinAtTwo ∧
      berlinAtTwo.sameHour? ⟨1698539400, 0⟩ ⟨1698543000, 0⟩ = some true ∧
      berlinAtTwo.isDueAt ⟨1698539400, 0⟩ = true ∧
      berlinAtTwo.isDueAt ⟨1698543000, 0⟩ = true := by
  have same : berlinAtTwo.sameHour? ⟨1698539400, 0⟩ ⟨1698543000, 0⟩ = some true := by decide +kernel
  have due : berlinAtTwo.isDueAt ⟨1698539400, 0⟩ = true := by decide +kernel
  have again := berlinAtTwo.sees_only_local_hours.2.2.2.2 _ _ same
  exact ⟨by decide +kernel, same, due, again ▸ due⟩

/-- In Tokyo the last hours of time lie on a day beyond the calendar. A schedule tests that day, but
its hours are not compared with anything, not even with themselves. -/
theorem last_hours_not_compared :
    ∃ schedule,
      ScheduleTemplate.compileWith Zone.ofName? { timezone := some "Asia/Tokyo" } = .ok schedule ∧
      schedule.isDueAt .max = true ∧ schedule.sameHour? .max .max = none ∧
      ¬ Equivalence fun a b => schedule.sameHour? a b = some true := by
  refine ⟨⟨⟨⟨.any, []⟩, []⟩, ⟨⟨.any, []⟩, []⟩, ⟨⟨.any, []⟩, []⟩, ⟨⟨.any, []⟩, []⟩,
    ⟨"Asia/Tokyo", .japanese⟩⟩, by decide +kernel, by decide, by decide, fun equivalence => ?_⟩
  exact absurd (equivalence.refl .max) (by decide)

end Schedule

end TaskAutomation
