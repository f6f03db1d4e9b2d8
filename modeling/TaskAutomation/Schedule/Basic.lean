import TaskAutomation.Schedule.Field
import TaskAutomation.Time.Zone
import TaskAutomation.Validation

/-!
This file defines schedules: four field expressions for the hour, the day of the month, the month
and the day of the week, and a time zone. A schedule sees of a point of time only the local date and
hour. Its template is the text that people write; compiling it checks every field against its
bounds.
-/

namespace TaskAutomation

/-- A schedule as it is written. -/
structure ScheduleTemplate where
  hour : String := "*"
  day : String := "*"
  month : String := "*"
  /-- Sunday is day 0. -/
  weekDay : String := "*"
  /-- The name of a zone; universal time when there is none. -/
  timezone : Option String := none
  deriving DecidableEq, Repr, Inhabited

/-- A schedule whose fields are known to be sound. -/
structure Schedule where
  hour : FieldExpression
  day : FieldExpression
  month : FieldExpression
  weekDay : FieldExpression
  zone : Zone
  deriving DecidableEq, Repr

namespace ScheduleTemplate

/-- Compiles the expression of one field and checks its bounds. -/
def compileField (name text : String) (least most : Nat) : Except Invalid FieldExpression :=
  match FieldExpression.read text with
  | .error fault => .error (.withDetail name fault.message)
  | .ok expression =>
    if expression.within least most then .ok expression
    else
      .error (.withDetail name
        ("'" ++ text ++ "' is outside " ++ toString least ++ "-" ++ toString most))

/-- Finds the zone of a template among those that are known by their names. -/
def compileZone (known : KnownZones) : Option String → Except Invalid Zone
  | none => .ok Zone.utc
  | some name =>
    match known name with
    | some zone => .ok zone
    | none => .error (.withDetail "timezone" name)

/-- Compiles a template, when zones are known by their names. The zone is looked at first and then
the fields in their order. -/
def compileWith (known : KnownZones) (template : ScheduleTemplate) : Except Invalid Schedule := do
  let zone ← compileZone known template.timezone
  let hour ← compileField "hour" template.hour 0 23
  let day ← compileField "day" template.day 1 31
  let month ← compileField "month" template.month 1 12
  let weekDay ← compileField "weekDay" template.weekDay 0 6
  .ok ⟨hour, day, month, weekDay, zone⟩

end ScheduleTemplate

namespace Schedule

/-- A local hour fits all fields. -/
def matchesHour (schedule : Schedule) (hour : LocalHour) : Bool :=
  schedule.hour.test hour.hour && schedule.day.test hour.date.day &&
    schedule.month.test hour.date.month && schedule.weekDay.test hour.weekday

/-- The schedule is due in the local hour of a point of time. -/
def isDueAt (schedule : Schedule) (instant : Instant) : Bool :=
  schedule.matchesHour (schedule.zone.localHour instant)

/-- Two points of time lie in the same hour of the same day on the local clock. -/
def sameHour (schedule : Schedule) (a b : Instant) : Bool :=
  schedule.zone.localHour a == schedule.zone.localHour b

/-- The same question, asked of dates that can be represented: there is no answer if the local date of
one of the points of time lies beyond the calendar. -/
def sameHour? (schedule : Schedule) (a b : Instant) : Option Bool :=
  if schedule.zone.hasDateAt a && schedule.zone.hasDateAt b then some (schedule.sameHour a b)
  else none

end Schedule

end TaskAutomation
