import Mathlib.Data.List.TakeWhile
import TaskAutomation.Engine.Tick
import TaskAutomation.Proofs.Schedule.LocalHours

/-!
This file says which triggers are to be run. A tick of the clock calls for those whose schedule fits
the local hour, once in each hour, as long as the hours it has to compare lie in the calendar, and an
event calls for those that listen to its source.
-/

namespace TaskAutomation

/-! ### Triggers that fire at times -/

/-- The trigger is to be run at a time, when zones are known by their names: it is active and fires at
times, its schedule compiles and fits the local hour, and it has not been called in this hour. -/
structure Trigger.IsEligible (trigger : Trigger) (known : KnownZones) (now : Instant) : Prop where
  active : trigger.active = true
  timeBased : trigger.kind.isTimeBased = true
  fits : ∃ template schedule, trigger.kind.template? = some template ∧
    template.compileWith known = .ok schedule ∧
    schedule.matchesHour (schedule.zone.localHour now) = true ∧
    ∀ last, trigger.lastCallAt = some last →
      schedule.zone.localHour last ≠ schedule.zone.localHour now

/-- The last call of the trigger has to be compared with a time that fits its schedule, and one of
the two local dates lies beyond the calendar. -/
structure Trigger.LeavesCalendar (trigger : Trigger) (known : KnownZones) (now : Instant) : Prop where
  active : trigger.active = true
  compares : ∃ template schedule last, trigger.kind.template? = some template ∧
    template.compileWith known = .ok schedule ∧
    schedule.matchesHour (schedule.zone.localHour now) = true ∧ trigger.lastCallAt = some last ∧
    ¬ (schedule.zone.hasDateAt last = true ∧ schedule.zone.hasDateAt now = true)

/-- Two times lie in the same hour on the local clock of every schedule of some triggers. -/
def ShareHours (known : KnownZones) (triggers : List Trigger) (a b : Instant) : Prop :=
  ∀ trigger ∈ triggers, ∀ template schedule, trigger.kind.template? = some template →
    template.compileWith known = .ok schedule →
      schedule.zone.localHour a = schedule.zone.localHour b

theorem TriggerKind.isTimeBased_of_template? {kind : TriggerKind} {template : ScheduleTemplate}
    (timed : kind.template? = some template) : kind.isTimeBased = true := by
  cases kind with
  | contractEvent => cases timed
  | _ => rfl

/-- A time in the calendar on the local clock is in it with its whole hour. -/
theorem Zone.hasDateAt_eq_of_localHour {zone : Zone} {a b : Instant}
    (same : zone.localHour a = zone.localHour b) : zone.hasDateAt a = zone.hasDateAt b := by
  obtain ⟨days, hours⟩ := LocalHour.mk.inj same
  simp only [Instant.secondsPerDay] at days hours
  rw [Bool.eq_iff_iff]
  rw [hasDateAt, hasDateAt, Instant.inRange_iff, Instant.inRange_iff, Instant.minSeconds,
    Instant.maxSeconds]
  omega

namespace Trigger

variable {trigger : Trigger} {known : KnownZones} {now later : Instant}

theorem isDueAt?_eq_none_iff :
    trigger.isDueAt? known now = none ↔ trigger.LeavesCalendar known now := by
  constructor
  · intro untold
    unfold isDueAt? at untold
    split at untold
    · next schedule compiled =>
      obtain ⟨template, timed, compiled⟩ := Option.map_eq_some_iff.mp compiled
      split at untold
      · next fits =>
        obtain ⟨active, fits⟩ := Bool.and_eq_true_iff.mp fits
        split at untold
        · next last called =>
          exact ⟨active, template, schedule, last, timed, compiled, fits, called,
            Schedule.sameHour?_eq_none_iff.mp (Option.map_eq_none_iff.mp untold)⟩
        · cases untold
      · cases untold
    · cases untold
  · rintro ⟨active, template, schedule, last, timed, compiled, fits, called, beyond⟩
    have fits : (trigger.active && schedule.isDueAt now) = true :=
      Bool.and_eq_true_iff.mpr ⟨active, fits⟩
    rw [isDueAt?, timed, Option.map_some, compiled]
    simp only [fits, called, Schedule.sameHour?_eq_none_iff.mpr beyond, if_true, Option.map_none]

/-- A run is due if the trigger is to be run and its hours can be compared. -/
theorem isDueAt?_eq_true_iff :
    trigger.isDueAt? known now = some true ↔
      trigger.IsEligible known now ∧ ¬ trigger.LeavesCalendar known now := by
  constructor
  · intro due
    refine ⟨?_, fun leaves => nomatch due.symm.trans (isDueAt?_eq_none_iff.mpr leaves)⟩
    unfold isDueAt? at due
    split at due
    · next schedule compiled =>
      obtain ⟨template, timed, compiled⟩ := Option.map_eq_some_iff.mp compiled
      split at due
      · next fits =>
        obtain ⟨active, fits⟩ := Bool.and_eq_true_iff.mp fits
        refine ⟨active, TriggerKind.isTimeBased_of_template? timed, template, schedule, timed,
          compiled, fits, fun last called => ?_⟩
        rw [called] at due
        obtain ⟨answer, asked, new⟩ := Option.map_eq_some_iff.mp due
        obtain ⟨-, apart⟩ := Schedule.sameHour?_eq_some_iff.mp asked
        rw [(Bool.not_eq_true' answer).mp new] at apart
        exact beq_eq_false_iff_ne.mp apart
      · cases due
    · cases due
  · rintro ⟨⟨active, -, template, schedule, timed, compiled, fits, new⟩, stays⟩
    have fits : (trigger.active && schedule.isDueAt now) = true :=
      Bool.and_eq_true_iff.mpr ⟨active, fits⟩
    rw [isDueAt?, timed, Option.map_some, compiled]
    simp only [fits, if_true]
    cases called : trigger.lastCallAt with
    | none => rfl
    | some last =>
      have dated : schedule.zone.hasDateAt last = true ∧ schedule.zone.hasDateAt now = true :=
        not_not.mp fun beyond => stays ⟨active, template, schedule, last, timed, compiled,
          (Bool.and_eq_true_iff.mp fits).2, called, beyond⟩
      have apart : schedule.sameHour? last now = some false :=
        Schedule.sameHour?_eq_some_iff.mpr ⟨dated, beq_eq_false_iff_ne.mpr (new last called)⟩
      simp only [apart, Option.map_some, Bool.not_false]

/-- Only the local hour counts. -/
theorem isDueAt?_of_localHour
    (same : ∀ template schedule, trigger.kind.template? = some template →
      template.compileWith known = .ok schedule →
        schedule.zone.localHour now = schedule.zone.localHour later) :
    trigger.isDueAt? known later = trigger.isDueAt? known now := by
  unfold isDueAt?
  split
  · next schedule compiled =>
    obtain ⟨template, timed, compiled⟩ := Option.map_eq_some_iff.mp compiled
    have hour := same template schedule timed compiled
    simp only [Schedule.isDueAt, Schedule.sameHour?, Schedule.sameHour, hour,
      Zone.hasDateAt_eq_of_localHour hour]
    rfl
  · rfl

end Trigger

/-! ### The triggers of a tick -/

namespace TickSettings

variable {settings : TickSettings} {now later : Instant} {triggers former rest : List Trigger}
  {trigger : Trigger}

theorem tellsAll_iff : settings.tellsAll now triggers = true ↔
    ∀ trigger ∈ triggers, ¬ trigger.LeavesCalendar settings.zones now := by
  rw [tellsAll, List.all_eq_true]
  refine forall₂_congr fun trigger _ => ?_
  rw [← Trigger.isDueAt?_eq_none_iff, Option.isSome_iff_ne_none]

theorem told_sublist (settings : TickSettings) (now : Instant) (triggers : List Trigger) :
    (settings.told now triggers).Sublist triggers :=
  (List.takeWhile_prefix _).sublist

theorem due_sublist (settings : TickSettings) (now : Instant) (triggers : List Trigger) :
    (settings.due now triggers).Sublist triggers :=
  List.filter_sublist.trans (settings.told_sublist now triggers)

theorem told_eq_self (tells : settings.tellsAll now triggers = true) :
    settings.told now triggers = triggers :=
  List.takeWhile_eq_self_iff.mpr (List.all_eq_true.mp tells)

/-- A tick looks at the triggers up to the first one that leaves the calendar. -/
theorem told_append (tells : settings.tellsAll now former = true)
    (leaves : trigger.LeavesCalendar settings.zones now) :
    settings.told now (former ++ trigger :: rest) = former := by
  have untold : (trigger.isDueAt? settings.zones now).isSome = false := by
    rw [Trigger.isDueAt?_eq_none_iff.mpr leaves]
    rfl
  rw [told, List.takeWhile_append_of_pos (List.all_eq_true.mp tells), List.takeWhile_cons, untold]
  exact List.append_nil former

/-- The triggers that are due are those that are to be run, among the triggers that a tick looks at. -/
theorem mem_due_iff : trigger ∈ settings.due now triggers ↔
    trigger ∈ settings.told now triggers ∧ trigger.IsEligible settings.zones now := by
  rw [due, List.mem_filter, beq_iff_eq, Trigger.isDueAt?_eq_true_iff]
  refine and_congr_right fun member => and_iff_left fun leaves => ?_
  have asked := List.mem_takeWhile_imp member
  rw [Trigger.isDueAt?_eq_none_iff.mpr leaves] at asked
  cases asked

end TickSettings

/-- In one local hour the same triggers are due. -/
theorem ShareHours.due_eq {settings : TickSettings} {triggers : List Trigger} {now later : Instant}
    (share : ShareHours settings.zones triggers now later) :
    settings.due later triggers = settings.due now triggers := by
  have same : ∀ trigger ∈ triggers,
      trigger.isDueAt? settings.zones later = trigger.isDueAt? settings.zones now :=
    fun trigger member => Trigger.isDueAt?_of_localHour (share trigger member)
  have told : settings.told later triggers = settings.told now triggers := by
    clear share
    unfold TickSettings.told
    induction triggers with
    | nil => rfl
    | cons trigger rest inductionHypothesis =>
      obtain ⟨first, others⟩ := List.forall_mem_cons.mp same
      rw [List.takeWhile_cons, List.takeWhile_cons, first, inductionHypothesis others]
  rw [TickSettings.due, TickSettings.due, told]
  exact List.filter_congr fun trigger member => by
    rw [same trigger ((settings.told_sublist now triggers).subset member)]

/-! ### Sources -/

namespace EventSource

theorem same_iff (a b : EventSource) :
    a.same b = true ↔ a.network = b.network ∧
      a.address.toList.map Char.toLower = b.address.toList.map Char.toLower ∧
      a.event = b.event := by
  simp [same, Text.equalIgnoringAsciiCase, and_assoc]

theorem same_refl (source : EventSource) : source.same source = true :=
  (same_iff source source).mpr ⟨rfl, rfl, rfl⟩

/-- What is the same as a source is the same as all that the source is the same as. -/
theorem same_of_same {held new made : EventSource} (first : held.same new = true)
    (second : held.same made = true) : new.same made = true := by
  obtain ⟨network, address, event⟩ := (same_iff held new).mp first
  obtain ⟨network', address', event'⟩ := (same_iff held made).mp second
  exact (same_iff new made).mpr ⟨network.symm.trans network', address.symm.trans address',
    event.symm.trans event'⟩

end EventSource

/-! ### Triggers that listen -/

/-- The trigger is to be run upon the events of a source: it is active and fires upon the events with
this name of the same network, and its address differs in the case of Latin letters at most. -/
structure Trigger.Hears (trigger : Trigger) (source : EventSource) : Prop where
  active : trigger.active = true
  called : ∃ own subscription, trigger.kind = .contractEvent own subscription ∧
    own.network = source.network ∧
    own.address.toList.map Char.toLower = source.address.toList.map Char.toLower ∧
    own.event = source.event

theorem Trigger.listensTo_iff {trigger : Trigger} {source : EventSource} :
    trigger.listensTo source = true ↔ trigger.Hears source := by
  rw [listensTo, Bool.and_eq_true]
  constructor
  · rintro ⟨active, same⟩
    cases kind : trigger.kind with
    | contractEvent own subscription =>
      rw [kind] at same
      exact ⟨active, own, subscription, kind, (EventSource.same_iff _ _).mp same⟩
    | _ =>
      rw [kind] at same
      cases same
  · rintro ⟨active, own, subscription, kind, same⟩
    rw [kind]
    exact ⟨active, (EventSource.same_iff _ _).mpr same⟩

end TaskAutomation
