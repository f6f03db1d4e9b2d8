import TaskAutomation.Automation.Trigger
import TaskAutomation.Proofs.Schedule.LocalHours
import TaskAutomation.Proofs.Schedule.Printing

/-!
This file proves what a trigger that fires at times means. Its numbers are printed into a template,
and the template is read, checked and tested field by field; in the end the trigger compiles if and
only if its numbers are an hour, a day of the month and a day of the week and its zone is known, and
it fires exactly when the local clock shows these numbers.
-/

namespace TaskAutomation

namespace FieldExpression

open Text

/-- The expression that only one number passes, or that every number passes if none is given. -/
def chosen : Option Nat → FieldExpression
  | some k => ⟨⟨.exactly k, []⟩, []⟩
  | none => ⟨⟨.any, []⟩, []⟩

theorem test_chosen (number : Option Nat) (value : Nat) :
    (chosen number).test value = true ↔ ∀ k ∈ number, value = k := by
  cases number <;> simp [chosen, test, items, FieldItem.test, FieldRange.contains]

theorem within_chosen (number : Option Nat) (least most : Nat) :
    (chosen number).within least most = true ↔ ∀ k ∈ number, least ≤ k ∧ k ≤ most := by
  cases number <;> simp [chosen, within, items, FieldRange.literals]

/-! ### Reading a printed number -/

variable {mark : Char}

theorem notMem_toString (k : Nat) (noDigit : mark.isDigit = false) :
    mark ∉ (toString k).toList := fun member =>
  Bool.false_ne_true (noDigit.symm.trans (isDigit_of_mem_toString member))

theorem trim_toString (k : Nat) : trim (toString k).toList = (toString k).toList :=
  trim_eq_self fun _ member => isBlank_eq_false_of_isDigit (isDigit_of_mem_toString member)

theorem natural?_toString (k : Nat) : natural? (toString k).toList = some k :=
  natural?_eq_some_iff.mpr ⟨[], _, rfl, Or.inl rfl, digits?_eq_some_iff.mpr
    ⟨toString_ne_nil k, fun _ => isDigit_of_mem_toString, (ofDigitChars_toString k).symm⟩⟩

theorem number_toString (k : Nat) :
    number (toString k).toList =
      if k < Word.size32 then .ok k else .error (.invalidNumber (toString k)) := by
  have filled := List.isEmpty_eq_false_iff.mpr (toString_ne_nil k)
  simp only [number, trim_toString, filled, natural?_toString, String.ofList_toList,
    Bool.false_eq_true, if_false]

/-- A number that has been printed is read as a number and as nothing else. -/
theorem read_toString (k : Nat) :
    read (toString k) = (number (toString k).toList).map fun value => chosen (some value) := by
  have noStar : (toString k).toList ≠ ['*'] := fun star =>
    notMem_toString k (show '*'.isDigit = false by decide) (star ▸ List.mem_singleton_self '*')
  have asRange : range (toString k).toList = (number (toString k).toList).map .exactly := by
    have filled := List.isEmpty_eq_false_iff.mpr (toString_ne_nil k)
    simp only [range, trim_toString, filled, noStar,
      splitFirst?_of_notMem (notMem_toString k (show '-'.isDigit = false by decide)),
      Bool.false_eq_true, if_false]
  unfold read readItem
  rw [splitAt_of_notMem (notMem_toString k (show ','.isDigit = false by decide)), List.mapM_cons,
    splitAt_of_notMem (notMem_toString k (show '/'.isDigit = false by decide)),
    List.reverse_singleton, item, asRange]
  cases number (toString k).toList <;> rfl

end FieldExpression

/-! ### Compiling a template -/

namespace ScheduleTemplate

open FieldExpression (chosen)

/-- The text of a field that names a number, or leaves it open. -/
def fieldText : Option Nat → String
  | some k => toString k
  | none => "*"

variable {known : String → Option Zone} {template : ScheduleTemplate} {schedule : Schedule}
  {name : String} {number : Option Nat} {least most : Nat} {expression : FieldExpression}

theorem read_fieldText :
    FieldExpression.read (fieldText number) = .ok expression ↔
      (∀ k ∈ number, k < Word.size32) ∧ expression = chosen number := by
  cases number with
  | none =>
    have star : FieldExpression.read (fieldText none) = .ok (chosen none) := by decide
    rw [star, Except.ok.injEq, eq_comm]
    exact (and_iff_right nofun).symm
  | some k =>
    rw [fieldText, FieldExpression.read_toString, map_eq_ok, FieldExpression.number_toString]
    split
    · next small => simp [small, eq_comm]
    · next large => simp [large]

theorem compileField_eq_ok_iff {text : String} :
    compileField name text least most = .ok expression ↔
      FieldExpression.read text = .ok expression ∧ expression.within least most = true := by
  unfold compileField
  split
  · next fault refused => simp [refused]
  · next found read =>
    rw [read, Except.ok.injEq]
    split
    · next inside =>
      rw [Except.ok.injEq]
      exact ⟨fun same => ⟨same, same ▸ inside⟩, And.left⟩
    · next outside =>
      exact ⟨nofun, fun ⟨same, inside⟩ => absurd (same ▸ inside) outside⟩

/-- A number passes its check if and only if it lies between the bounds. -/
theorem compileField_fieldText (bounded : most < Word.size32) :
    compileField name (fieldText number) least most = .ok expression ↔
      (∀ k ∈ number, least ≤ k ∧ k ≤ most) ∧ expression = chosen number := by
  rw [compileField_eq_ok_iff, read_fieldText]
  constructor
  · rintro ⟨⟨-, rfl⟩, inside⟩
    exact ⟨(FieldExpression.within_chosen number least most).mp inside, rfl⟩
  · rintro ⟨inside, rfl⟩
    exact ⟨⟨fun k member => Nat.lt_of_le_of_lt (inside k member).2 bounded, rfl⟩,
      (FieldExpression.within_chosen number least most).mpr inside⟩

theorem compileZone_eq_ok_iff {timezone : Option String} {zone : Zone} :
    compileZone known timezone = .ok zone ↔
      timezone.elim (some Zone.utc) known = some zone := by
  cases timezone with
  | none => rw [compileZone, Option.elim_none, Except.ok.injEq, Option.some.injEq]
  | some name =>
    rw [compileZone, Option.elim_some]
    cases known name <;> simp

theorem compileWith_eq_ok_iff :
    template.compileWith known = .ok schedule ↔
      compileZone known template.timezone = .ok schedule.zone ∧
        compileField "hour" template.hour 0 23 = .ok schedule.hour ∧
        compileField "day" template.day 1 31 = .ok schedule.day ∧
        compileField "month" template.month 1 12 = .ok schedule.month ∧
        compileField "weekDay" template.weekDay 0 6 = .ok schedule.weekDay := by
  simp only [compileWith, bind_eq_ok]
  constructor
  · rintro ⟨zone, placed, hour, first, day, second, month, third, weekDay, fourth, same⟩
    cases same
    exact ⟨placed, first, second, third, fourth⟩
  · rintro ⟨placed, first, second, third, fourth⟩
    exact ⟨_, placed, _, first, _, second, _, third, _, fourth, rfl⟩

end ScheduleTemplate

/-! ### Kinds of triggers -/

namespace TriggerKind

/-- The hour at which the trigger fires. -/
def hour? : TriggerKind → Option Nat
  | everyMonth _ hour _ | everyWeek _ hour _ | everyDay hour _ => some hour
  | everyHour | contractEvent .. => none

/-- The day of the month on which the trigger fires. -/
def monthDay? : TriggerKind → Option Nat
  | everyMonth monthDay _ _ => some monthDay
  | everyWeek .. | everyDay .. | everyHour | contractEvent .. => none

/-- The day of the week on which the trigger fires, 0 for Sunday. -/
def weekDay? : TriggerKind → Option Nat
  | everyWeek weekDay _ _ => some weekDay
  | everyMonth .. | everyDay .. | everyHour | contractEvent .. => none

/-- The name of the zone whose clock the trigger goes by. -/
def timezone? : TriggerKind → Option String
  | everyMonth _ _ timezone | everyWeek _ _ timezone | everyDay _ timezone => timezone
  | everyHour | contractEvent .. => none

/-- The zone whose clock the trigger goes by: that of its name, if there is such a zone, and universal
time if it names none. -/
def zone? (known : String → Option Zone) (kind : TriggerKind) : Option Zone :=
  kind.timezone?.elim (some Zone.utc) known

/-- The numbers that the kind has are an hour, a day of a month and a day of the week. -/
structure InBounds (kind : TriggerKind) : Prop where
  hour : ∀ hour ∈ kind.hour?, hour ≤ 23
  monthDay : ∀ monthDay ∈ kind.monthDay?, 1 ≤ monthDay ∧ monthDay ≤ 31
  weekDay : ∀ weekDay ∈ kind.weekDay?, weekDay ≤ 6

/-- The trigger fires in an hour of a date: the numbers that the kind has are those of the hour, of
the day of the month and of the day of the week. -/
structure FiresAt (kind : TriggerKind) (date : Date) (hour : Nat) : Prop where
  hour : ∀ own ∈ kind.hour?, hour = own
  monthDay : ∀ own ∈ kind.monthDay?, date.day = own
  weekDay : ∀ own ∈ kind.weekDay?, Date.weekday date.toDays = own

variable {kind : TriggerKind} {known : String → Option Zone} {schedule : Schedule}

/-- The template that the numbers of the kind are printed into. -/
def printed (kind : TriggerKind) : ScheduleTemplate where
  hour := ScheduleTemplate.fieldText kind.hour?
  day := ScheduleTemplate.fieldText kind.monthDay?
  weekDay := ScheduleTemplate.fieldText kind.weekDay?
  timezone := kind.timezone?

theorem template?_eq_printed (timeBased : kind.isTimeBased = true) :
    kind.template? = some kind.printed := by
  cases kind with
  | contractEvent => cases timeBased
  | _ => rfl

/-- The numbers pass the checks of the fields exactly if they are in bounds, and every field then
asks for its number. -/
theorem compileWith_printed :
    kind.printed.compileWith known = .ok schedule ↔
      kind.InBounds ∧ kind.zone? known = some schedule.zone ∧
        schedule.hour = .chosen kind.hour? ∧ schedule.day = .chosen kind.monthDay? ∧
        schedule.month = .chosen none ∧ schedule.weekDay = .chosen kind.weekDay? := by
  have hour : ScheduleTemplate.compileField "hour" kind.printed.hour 0 23 = .ok schedule.hour ↔ _ :=
    ScheduleTemplate.compileField_fieldText (by decide)
  have day : ScheduleTemplate.compileField "day" kind.printed.day 1 31 = .ok schedule.day ↔ _ :=
    ScheduleTemplate.compileField_fieldText (by decide)
  have month : ScheduleTemplate.compileField "month" (ScheduleTemplate.fieldText none) 1 12 =
      .ok schedule.month ↔ _ := ScheduleTemplate.compileField_fieldText (by decide)
  have weekDay : ScheduleTemplate.compileField "weekDay" kind.printed.weekDay 0 6 =
      .ok schedule.weekDay ↔ _ := ScheduleTemplate.compileField_fieldText (by decide)
  rw [ScheduleTemplate.compileWith_eq_ok_iff, ScheduleTemplate.compileZone_eq_ok_iff, hour, day,
    show kind.printed.month = ScheduleTemplate.fieldText none from rfl, month, weekDay]
  constructor
  · rintro ⟨placed, ⟨hours, hour⟩, ⟨days, day⟩, ⟨-, month⟩, weekDays, weekDay⟩
    exact ⟨⟨fun own member => (hours own member).2, days, fun own member => (weekDays own member).2⟩,
      placed, hour, day, month, weekDay⟩
  · rintro ⟨⟨hours, days, weekDays⟩, placed, hour, day, month, weekDay⟩
    exact ⟨placed, ⟨fun own member => ⟨Nat.zero_le own, hours own member⟩, hour⟩, ⟨days, day⟩,
      ⟨nofun, month⟩, fun own member => ⟨Nat.zero_le own, weekDays own member⟩, weekDay⟩

theorem exists_compileWith_printed :
    (∃ schedule, kind.printed.compileWith known = .ok schedule) ↔
      kind.InBounds ∧ ∃ zone, kind.zone? known = some zone := by
  constructor
  · rintro ⟨schedule, compiled⟩
    obtain ⟨inBounds, placed, -⟩ := compileWith_printed.mp compiled
    exact ⟨inBounds, _, placed⟩
  · rintro ⟨inBounds, zone, placed⟩
    exact ⟨⟨_, _, _, _, zone⟩, compileWith_printed.mpr ⟨inBounds, placed, rfl, rfl, rfl, rfl⟩⟩

variable {instant : Instant} {date : Date} {hour : Nat}

/-- A compiled trigger is due in the hours of its numbers. -/
theorem isDueAt_printed (compiled : kind.printed.compileWith known = .ok schedule)
    (shows : schedule.zone.Shows instant date hour) :
    schedule.isDueAt instant = true ↔ kind.FiresAt date hour := by
  obtain ⟨-, -, hours, days, months, weekDays⟩ := compileWith_printed.mp compiled
  rw [Schedule.isDueAt_iff_of_shows shows, hours, days, months, weekDays]
  simp only [FieldExpression.test_chosen]
  constructor
  · rintro ⟨hour, day, -, weekDay⟩
    exact ⟨hour, day, weekDay⟩
  · rintro ⟨hour, day, weekDay⟩
    exact ⟨hour, day, nofun, weekDay⟩

/-- A trigger that fires at times compiles if and only if its numbers are in bounds and its zone is
known, whichever zones are known by their names. It then goes by the clock of that zone, and is due
exactly when the numbers that it has are those of the hour and the date on this clock. -/
theorem means_its_fields (known : String → Option Zone) (timeBased : kind.isTimeBased = true) :
    ∃ template, kind.template? = some template ∧
      ((∃ schedule, template.compileWith known = .ok schedule) ↔
        kind.InBounds ∧ ∃ zone, kind.zone? known = some zone) ∧
      ∀ schedule, template.compileWith known = .ok schedule →
        kind.zone? known = some schedule.zone ∧
        ∀ instant, ∃ date hour, schedule.zone.Shows instant date hour ∧
          (schedule.isDueAt instant = true ↔ kind.FiresAt date hour) := by
  refine ⟨kind.printed, template?_eq_printed timeBased, exists_compileWith_printed,
    fun schedule compiled => ⟨(compileWith_printed.mp compiled).2.1, fun instant => ?_⟩⟩
  have shows := schedule.zone.shows_localHour instant
  exact ⟨_, _, shows, isDueAt_printed compiled shows⟩

/-- The last hour of the last day of a month in Tokyo has begun when it is two in the afternoon in
universal time. -/
theorem means_its_fields_lastHour :
    (everyMonth 31 23 (some "Asia/Tokyo")).isTimeBased = true ∧
      ∃ template schedule, (everyMonth 31 23 (some "Asia/Tokyo")).template? = some template ∧
        template.compileWith Zone.ofName? = .ok schedule ∧ schedule.isDueAt ⟨1706709600, 0⟩ = true := by
  have timeBased : (everyMonth 31 23 (some "Asia/Tokyo")).isTimeBased = true := rfl
  obtain ⟨template, printed, compiles, means⟩ := means_its_fields Zone.ofName? timeBased
  have inBounds : (everyMonth 31 23 (some "Asia/Tokyo")).InBounds := by
    constructor <;> simp [hour?, monthDay?, weekDay?]
  have tokyo : zone? Zone.ofName? (everyMonth 31 23 (some "Asia/Tokyo")) =
      some ⟨"Asia/Tokyo", .japanese⟩ := by decide
  obtain ⟨schedule, compiled⟩ := compiles.mpr ⟨inBounds, _, tokyo⟩
  obtain ⟨placed, means⟩ := means schedule compiled
  obtain ⟨date, hour, shows, fires⟩ := means ⟨1706709600, 0⟩
  have lastHour : schedule.zone.Shows ⟨1706709600, 0⟩ ⟨2024, 1, 31⟩ 23 := by
    rw [Option.some.inj (placed.symm.trans tokyo)]
    exact ⟨by decide, by decide, by decide, by decide⟩
  obtain ⟨rfl, rfl⟩ := shows.unique lastHour
  refine ⟨timeBased, template, schedule, printed, compiled, fires.mpr ?_⟩
  constructor <;> simp [hour?, monthDay?, weekDay?]

end TriggerKind

end TaskAutomation
