import TaskAutomation.Proofs.Engine.CalledTriggers
import TaskAutomation.Proofs.Engine.HeldRuns

/-!
This file says exactly what a tick does. It adds one record for each trigger that is to be run, in the
order of the identifiers, and changes nothing else. In the first and the last hours of the calendar a
tick breaks off at a trigger whose last call it has to compare with a local date beyond the calendar.
A tick that could not push all runs leaves the rest to the next one: if that comes before the runs are
over and in the same hour, runs of the same triggers are in flight as after one tick that nothing has
disturbed.
-/

namespace TaskAutomation

open StoredTask

namespace World

variable {State : Type} [Outside State]

/-- The request leaves the runs alone that are in flight in a world: none of them is reported done or
failed, and no other one is pushed. -/
structure SparesRuns (world : World State) (request : Request) : Prop where
  goesOn : request.EndsNone fun task =>
    ∃ trigger, IsRunInFlight world.backend.records trigger task
  pushes : request.PushesNoRun

/-- After a tick the next one may follow that nothing disturbs: since then no run is over and the
triggers are as they were. -/
structure AwaitsTick (ticked again : World State) : Prop where
  spared : ∃ moments, Through answer ticked.SparesRuns ticked moments again
  store : again.automate = ticked.automate
  fresh : again.IssuesNew again.automate.triggers.length
  lists : again.Spares .listTriggers
  pushes : again.Spares .taskPush

variable {ticked again : World State} {trigger : TriggerId}

/-- Until the next tick, runs of the same triggers are in flight. -/
theorem AwaitsTick.runInFlight_iff (awaits : ticked.AwaitsTick again)
    (orderly : ticked.backend.Orderly ticked.pushed) :
    RunInFlight again.backend.records trigger ↔ RunInFlight ticked.backend.records trigger := by
  obtain ⟨moments, through⟩ := awaits.spared
  have unique := (List.nodup_append.mp awaits.fresh).1
  constructor
  · exact runInFlight_of_through through orderly unique fun _ spares => spares.pushes
  · intro before
    obtain ⟨task, own⟩ := orderly.runInFlight_iff.mp before
    have still := isRunInFlight_through through orderly unique (fun _ spares => spares.goesOn)
      ⟨trigger, own⟩ own
    exact (orderly_through through orderly unique).runInFlight_iff.mpr ⟨task, still⟩

/-- The queue is ready for the next tick. -/
theorem AwaitsTick.ready (awaits : ticked.AwaitsTick again)
    (orderly : ticked.backend.Orderly ticked.pushed) :
    again.Ready again.automate.triggers.length := by
  obtain ⟨moments, through⟩ := awaits.spared
  exact ⟨orderly_through through orderly (List.nodup_append.mp awaits.fresh).1, awaits.fresh⟩

end World

/-! ### One tick and the next -/

namespace TickSettings

variable {State : Type} [Outside State] {settings : TickSettings} {world : World State}
  {task other : Task} {now later : Instant}

/-- What a tick at a time has queued, of the triggers that it has looked at: one record was added for
each that was to be run, in the order of their identifiers. -/
structure QueuesRuns (settings : TickSettings) (now : Instant) (looked : List Trigger)
    (before after : World State) (due : List Trigger) (added : List StoredTask) : Prop where
  due_iff : ∀ trigger, trigger ∈ due ↔ trigger ∈ looked ∧ trigger.IsEligible settings.zones now
  ascends : AutomateStore.Ascends due
  pushed : World.PushedRuns settings.runs due before after added

/-- What a tick at a time has done to a world: it has looked at all triggers, and it asks to be run
again at the next boundary and says how many of the runs wait. -/
structure Ticks (settings : TickSettings) (now : Instant) (before after : World State)
    (outcome : Outcome) (due : List Trigger) (added : List StoredTask) : Prop
    extends QueuesRuns settings now before.automate.triggers before after due added where
  concludes : outcome = ⟨.later (nextBoundary now settings.interval), none,
    ["queued " ++ toString (added.countP fun record => record.status? = some .pending)]⟩

/-- The triggers that are due get their runs, up to the first push that is refused. If none is, the
tick ends in order or breaks off, depending on whether a trigger leaves the calendar. -/
theorem perform_handler (ready : world.Ready world.automate.triggers.length)
    (ascends : AutomateStore.Ascends world.automate.triggers) (settings : TickSettings)
    (parsed : ScheduleTick.parse task.params = .ok ⟨⟩) (now : Instant) :
    ∃ outcome after tried added,
      World.perform (settings.handler task now) world = (outcome, after) ∧
        tried <+: settings.due now world.automate.triggers ∧
        World.PushedRuns settings.runs tried world after added ∧
        (world.Spares .listTriggers → world.Spares .taskPush →
          settings.QueuesRuns now (settings.told now world.automate.triggers) world after
            (settings.due now world.automate.triggers) added ∧
          ((∀ trigger ∈ world.automate.triggers, ¬ trigger.LeavesCalendar settings.zones now) →
            ∃ own, outcome = some own ∧ settings.Ticks now world after own
              (settings.due now world.automate.triggers) added) ∧
          ((∃ trigger ∈ world.automate.triggers, trigger.LeavesCalendar settings.zones now) →
            ∀ limit, World.perform ((settings.handler task now).within limit) world =
              (some (.panicked beyondCalendar), after))) := by
  obtain ⟨outcome, after, tried, added, ran, front, pushes, spared⟩ :=
    ready.perform_handingOut ascends settings.runs parsed
      (fun run => settings.due run.now) (fun run => settings.tellsAll run.now)
      (fun run queued =>
        (run.addInfo (queuedLine queued)).later (nextBoundary run.now settings.interval)) now
      (settings.due_sublist now _)
  refine ⟨outcome, after, tried, added, ran, front, pushes, fun lists accepts => ?_⟩
  obtain ⟨rfl, concludes, breaks⟩ := spared lists accepts
  have queues : settings.QueuesRuns now (settings.told now world.automate.triggers) world after
      (settings.due now world.automate.triggers) added :=
    ⟨fun trigger => mem_due_iff, ascends.sublist (settings.due_sublist now _), pushes⟩
  refine ⟨queues, fun stays => ?_, fun ⟨trigger, member, leaves⟩ => breaks ?_⟩
  · have tells := tellsAll_iff.mpr stays
    rw [told_eq_self tells] at queues
    exact ⟨_, concludes tells, queues, rfl⟩
  · exact eq_false_of_ne_true fun tells => tellsAll_iff.mp tells trigger member leaves

/-- After an undisturbed tick runs of all triggers that are due are in flight besides those that were
before. -/
theorem runInFlight_perform_handler (ready : world.Ready world.automate.triggers.length)
    (ascends : AutomateStore.Ascends world.automate.triggers) (settings : TickSettings)
    (parsed : ScheduleTick.parse task.params = .ok ⟨⟩) (now : Instant)
    (lists : world.Spares .listTriggers) (accepts : world.Spares .taskPush) (trigger : TriggerId) :
    RunInFlight (World.perform (settings.handler task now) world).2.backend.records trigger ↔
      RunInFlight world.backend.records trigger ∨
        ∃ own ∈ settings.due now world.automate.triggers, own.id = trigger := by
  obtain ⟨outcome, after, tried, added, ran, -, -, spared⟩ :=
    perform_handler ready ascends settings parsed now
  have pushed := (spared lists accepts).1.pushed
  rw [ran, pushed.records]
  exact pushed.rows.runInFlight_iff

/-- A tick adds one record for each trigger that is to be run, unless a fault disturbs it. It ends in
order as long as no trigger leaves the calendar. Where one does, the tick breaks off: only the triggers
before the first such one have got their runs. Whatever faults disturb a tick, after an undisturbed one
that follows in the same hour, runs of the same triggers are in flight as if the first one had not been
disturbed. -/
theorem ticks_exactly (settings : TickSettings) (reached : world.Reached)
    (fresh : world.IssuesNew world.automate.triggers.length)
    (parsed : ScheduleTick.parse task.params = .ok ⟨⟩) (now : Instant) :
    (world.Spares .listTriggers → world.Spares .taskPush →
      ((∀ trigger ∈ world.automate.triggers, ¬ trigger.LeavesCalendar settings.zones now) →
        ∃ outcome after due added,
          World.perform (settings.handler task now) world = (some outcome, after) ∧
            settings.Ticks now world after outcome due added) ∧
      ∀ former trigger rest, world.automate.triggers = former ++ trigger :: rest →
        (∀ earlier ∈ former, ¬ earlier.LeavesCalendar settings.zones now) →
        trigger.LeavesCalendar settings.zones now → ∃ after due added,
          (∀ limit, World.perform ((settings.handler task now).within limit) world =
            (some (.panicked "Local time out of range for `NaiveDateTime`"), after)) ∧
          settings.QueuesRuns now former world after due added) ∧
      ∀ again other later, (World.perform (settings.handler task now) world).2.AwaitsTick again →
        ScheduleTick.parse other.params = .ok ⟨⟩ →
        ShareHours settings.zones world.automate.triggers now later → ∀ trigger,
          (RunInFlight
              (World.perform (settings.handler other later) again).2.backend.records trigger ↔
            RunInFlight (World.perform (settings.handler task now)
              { world with faults := .none }).2.backend.records trigger) := by
  have ready := reached.ready fresh
  have ascends := reached.ascends
  obtain ⟨outcome, after, tried, added, ran, front, pushes, spared⟩ :=
    perform_handler ready ascends settings parsed now
  refine ⟨fun lists accepts => ?_, ?_⟩
  · obtain ⟨queues, ends, breaks⟩ := spared lists accepts
    refine ⟨fun stays => ?_, fun former trigger rest split early leaves => ?_⟩
    · obtain ⟨own, rfl, ticks⟩ := ends stays
      exact ⟨own, after, _, added, ran, ticks⟩
    · have told : settings.told now world.automate.triggers = former := by
        rw [split]
        exact told_append (tellsAll_iff.mpr early) leaves
      rw [told] at queues
      refine ⟨after, _, added, breaks ⟨trigger, ?_, leaves⟩, queues⟩
      rw [split]
      exact List.mem_append_right _ List.mem_cons_self
  intro again other later awaits parses share trigger
  rw [ran] at awaits
  have same : again.automate = world.automate := awaits.store.trans pushes.store
  have repeated : settings.due later again.automate.triggers =
      settings.due now world.automate.triggers := by
    rw [same]
    exact share.due_eq
  rw [runInFlight_perform_handler (awaits.ready pushes.orderly) (same ▸ ascends) settings parses later
      awaits.lists awaits.pushes,
    @runInFlight_perform_handler _ _ { world with faults := .none } _ ⟨ready.orderly, ready.fresh⟩
      ascends settings parsed now nofun nofun,
    awaits.runInFlight_iff pushes.orderly, repeated, pushes.records, pushes.rows.runInFlight_iff]
  -- What the disturbed tick has pushed is due, and so it is pushed by the other as well.
  constructor
  · rintro ((before | ⟨own, member, same⟩) | due)
    · exact Or.inl before
    · exact Or.inr ⟨own, front.subset member, same⟩
    · exact Or.inr due
  · rintro (before | due)
    · exact Or.inl (Or.inl before)
    · exact Or.inr due

/-- A world with two triggers that fire every hour, and with verdicts on the next pushes. -/
def hourlyWorld (verdicts : List (Option String)) : World Logging :=
  [1, 2].foldl (fun world number => (World.answer (.automate (.saveTrigger
      (Trigger.new ⟨.ofNat number⟩ ⟨.ofNat 1⟩ "hourly" .everyHour ⟨0, 0⟩))) world).2)
    { World.holding .empty with faults := FaultPlan.none.set .taskPush verdicts }

/-- Ticks that are an hour apart. -/
def hourlySettings : TickSettings := ⟨Zone.ofName?, ⟨defaultTopic, 0⟩, ⟨3600000000000⟩⟩

/-- The task that watches the clock. -/
def tickTask : Task :=
  Task.new ⟨.ofNat 9⟩ TaskKind.scheduleTick.name (ScheduleTick.encode ⟨⟩) {} ⟨0, 0⟩

/-- The world after its first tick, in which the second push is refused. -/
def tickedWorld : World Logging :=
  (World.perform (hourlySettings.handler tickTask ⟨7, 0⟩) (hourlyWorld [none, some "busy"])).2

/-- The last hour of the calendar in universal time. -/
def lastHour : Instant := ⟨Instant.maxSeconds - 3599, 0⟩

/-- A world with a trigger that fires every hour and one that fires at eight o'clock in Tokyo and has
been called before. -/
def tokyoWorld : World Logging :=
  [Trigger.new ⟨.ofNat 1⟩ ⟨.ofNat 1⟩ "hourly" .everyHour ⟨0, 0⟩,
    { Trigger.new ⟨.ofNat 2⟩ ⟨.ofNat 1⟩ "early" (.everyDay 8 (some "Asia/Tokyo")) ⟨0, 0⟩ with
      lastCallAt := some ⟨0, 0⟩ }].foldl
    (fun world trigger => (World.answer (.automate (.saveTrigger trigger)) world).2)
    (World.holding .empty)

theorem reached_tokyoWorld : tokyoWorld.Reached :=
  .answered _ _ (.answered _ _ (.blank _ .memory rfl rfl rfl))

theorem shareHours_hourlyWorld :
    ShareHours Zone.ofName? (hourlyWorld [none, some "busy"]).automate.triggers ⟨7, 0⟩ ⟨8, 0⟩ := by
  have kinds : ∀ trigger ∈ (hourlyWorld [none, some "busy"]).automate.triggers,
      trigger.kind = .everyHour := by decide +kernel
  have same : (ScheduleTemplate.compileWith Zone.ofName? {}).toOption.map (fun schedule =>
      decide (schedule.zone.localHour ⟨7, 0⟩ = schedule.zone.localHour ⟨8, 0⟩)) = some true := by
    decide +kernel
  intro trigger member template schedule timed compiled
  rw [kinds trigger member] at timed
  cases timed
  rw [compiled] at same
  exact of_decide_eq_true (Option.some.inj same)

theorem ticks_exactly_refused :
    (∃ outcome after due added,
        World.perform (hourlySettings.handler tickTask ⟨7, 0⟩) (hourlyWorld []) =
            (some outcome, after) ∧
          hourlySettings.Ticks ⟨7, 0⟩ (hourlyWorld []) after outcome due added) ∧
      (∃ after due added,
        (∀ limit, World.perform ((hourlySettings.handler tickTask lastHour).within limit) tokyoWorld =
          (some (.panicked "Local time out of range for `NaiveDateTime`"), after)) ∧
        hourlySettings.QueuesRuns lastHour (tokyoWorld.automate.triggers.take 1) tokyoWorld after due
          added) ∧
      tickedWorld.pushed.length = 1 ∧ ∀ trigger,
        (RunInFlight (World.perform (hourlySettings.handler tickTask ⟨8, 0⟩)
            tickedWorld).2.backend.records trigger ↔
          RunInFlight (World.perform (hourlySettings.handler tickTask ⟨7, 0⟩)
            { hourlyWorld [none, some "busy"] with faults := .none }).2.backend.records trigger) := by
  have reached (verdicts : List (Option String)) : (hourlyWorld verdicts).Reached :=
    .answered _ _ (.answered _ _ (.blank _ .memory rfl rfl rfl))
  have parsed : ScheduleTick.parse tickTask.params = .ok ⟨⟩ := rfl
  have awaits : tickedWorld.AwaitsTick tickedWorld :=
    ⟨⟨[], .here _⟩, rfl, by decide +kernel, by decide +kernel, by decide +kernel⟩
  have stays : ∀ trigger ∈ (hourlyWorld []).automate.triggers,
      ¬ trigger.LeavesCalendar Zone.ofName? ⟨7, 0⟩ :=
    (@tellsAll_iff hourlySettings _ _).mp (by decide +kernel)
  exact ⟨((ticks_exactly hourlySettings (reached []) (by decide +kernel) parsed ⟨7, 0⟩).1
      (by decide +kernel) (by decide +kernel)).1 stays,
    ((ticks_exactly hourlySettings reached_tokyoWorld (by decide +kernel) parsed lastHour).1
      nofun nofun).2 _ _ _ rfl
        ((@tellsAll_iff hourlySettings _ _).mp (by decide +kernel))
        (Trigger.isDueAt?_eq_none_iff.mp (by decide +kernel)),
    by decide +kernel,
    (ticks_exactly hourlySettings (reached [none, some "busy"]) (by decide +kernel) parsed ⟨7, 0⟩).2
      tickedWorld tickTask ⟨8, 0⟩ awaits parsed shareHours_hourlyWorld⟩

/-- In the last hour of the calendar a trigger is to be run, but the tick has no conclusion, and no run
of the trigger is in flight. -/
theorem ticks_not_to_conclusion :
    tokyoWorld.Reached ∧ tokyoWorld.Spares .listTriggers ∧ tokyoWorld.Spares .taskPush ∧
      Instant.inRange lastHour.seconds = true ∧
      ∃ trigger ∈ tokyoWorld.automate.triggers, trigger.IsEligible Zone.ofName? lastHour ∧
        (World.perform (hourlySettings.handler tickTask lastHour) tokyoWorld).1 = none ∧
        ¬ RunInFlight (World.perform (hourlySettings.handler tickTask lastHour)
          tokyoWorld).2.backend.records trigger.id := by
  have fits : (ScheduleTemplate.compileWith Zone.ofName?
      { hour := toString 8, timezone := some "Asia/Tokyo" }).toOption.map (fun schedule =>
        schedule.matchesHour (schedule.zone.localHour lastHour) &&
          decide (schedule.zone.localHour ⟨0, 0⟩ ≠ schedule.zone.localHour lastHour)) =
      some true := by decide +kernel
  cases compiled : ScheduleTemplate.compileWith Zone.ofName?
      { hour := toString 8, timezone := some "Asia/Tokyo" } with
  | error invalid =>
    rw [compiled] at fits
    cases fits
  | ok schedule =>
    rw [compiled] at fits
    obtain ⟨fits, apart⟩ := Bool.and_eq_true_iff.mp (Option.some.inj fits)
    refine ⟨reached_tokyoWorld, nofun, nofun, by decide, _, List.mem_cons_of_mem _
      (List.mem_singleton_self _), ⟨rfl, rfl, _, schedule, rfl, compiled, fits, ?_⟩,
      Option.isNone_iff_eq_none.mp (by decide +kernel), by decide +kernel⟩
    rintro _ ⟨⟩
    exact of_decide_eq_true apart

end TickSettings

end TaskAutomation
