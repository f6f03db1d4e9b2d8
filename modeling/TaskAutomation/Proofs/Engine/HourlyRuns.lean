import TaskAutomation.Proofs.Engine.OwnSteps
import TaskAutomation.Proofs.Engine.RunKeeping
import Mathlib.Logic.Relation

/-!
This file proves that a trigger that fires at times has at most one entry in its history for each hour
of its local clock. Ticks, claims, runs, reports and changes of the trigger may follow each other in
any order, and runs may be carried out at any later time, as long as the clock does not go back.
-/

namespace TaskAutomation

/-! ### A new trigger -/

theorem TimedTrigger.isTimeBased (trigger : TimedTrigger) : trigger.kind.isTimeBased = true := by
  have compiled := trigger.compiled
  cases kind : trigger.kind with
  | contractEvent =>
    rw [kind] at compiled
    cases compiled
  | everyMonth | everyWeek | everyDay | everyHour => rfl

namespace World

variable {State : Type} [Outside State] {start created : World State} {service : AutomateService}
  {wallet : WalletId} {name : String} {made : Trigger} {trigger : TimedTrigger}

/-- A new trigger that fires at times has been saved with the kind that was asked for. -/
theorem saved_of_creates
    (creates : perform (service.createTrigger wallet name trigger.kind).run start =
      (some (.ok made), created)) :
    created.automate = start.automate.saveTrigger made ∧ made.kind = trigger.kind ∧
      made.lastCallAt = none := by
  have leads : AutomateService.Saves start.automate _
      (perform (service.createTrigger wallet name trigger.kind).run start).1
      (perform (service.createTrigger wallet name trigger.kind).run start).2.automate :=
    AutomateService.leads_createTrigger automateHost service wallet name trigger.kind start
  rw [creates] at leads
  generalize created.automate = store at leads ⊢
  cases leads with
  | saved _ fit =>
    obtain ⟨own, held, now, rfl, kept⟩ := fit.made
    exact ⟨rfl, kept trigger.isTimeBased, rfl⟩

/-- The book of a trigger that was just made is kept. -/
theorem keeps_created (reached : start.Reached) (calm : start.SparesAutomation)
    (creates : perform (service.createTrigger wallet name trigger.kind).run start =
      (some (.ok made), created))
    (id : made.id = trigger.id) (silent : start.automate.historyOf trigger.id = [])
    (idle : ∀ record ∈ start.backend.records, ¬ record.IsRunOf trigger.id) :
    created.Keeps trigger [] [] := by
  have ledger := @ledger_perform _ _ [] [] start _ _
    (service.still_createTrigger wallet name trigger.kind start)
  have still : SparesAutomation
      (perform (service.createTrigger wallet name trigger.kind).run start).2 :=
    automateHost.steady_run _ calm
  have later := reached.perform (service.createTrigger wallet name trigger.kind).run
  rw [creates] at ledger still later
  have queue : created.backend = start.backend := congrArg RunLedger.queue ledger
  obtain ⟨store, kind, uncalled⟩ := saved_of_creates creates
  have found := start.automate.trigger?_saveTrigger_self made
  rw [id, ← store] at found
  have history : created.automate.historyOf trigger.id = [] := by
    rw [store]
    exact silent
  exact ⟨still, fun unique => RunLedger.isKept_of_silent (later.orderly unique) later.ascends found
    kind uncalled history (queue ▸ idle)⟩

end World

/-- The steps of an engine pass every trigger by. -/
theorem Engine.stepsPassBy {State : Type} {answer : (request : Request) → State →
    request.Reply × State} {known : KnownZones} {config : Config}
    {conditions : List ConditionKind} {actions : List ActionKind} {engine : Engine}
    (assembled : Engine.assemble known config conditions actions = .ok engine) (id : TriggerId) :
    engine.runner.StepsAsk answer (Request.PassesBy id) := by
  refine stepsAsk assembled trivial (fun _ _ => trivial) fun params options handled => ?_
  exact absurd handled (by decide)

/-! ### What goes on -/

/-- A world, the tasks that have been claimed in it to run a trigger, and those of them that have been
carried out. -/
structure Stage (State : Type) where
  world : World State
  claimed : List Task
  executed : List TaskId

namespace Stage

variable {State : Type} [Outside State]

/-- The stage after a request. -/
def ask (stage : Stage State) (request : Request) : Stage State :=
  { stage with world := (World.answer request stage.world).2 }

/-- The stage after some work. -/
def work {α : Type} (stage : Stage State) (program : Program α) : Stage State :=
  { stage with world := (World.perform program stage.world).2 }

/-- The stage after a task has been claimed. -/
def claim (stage : Stage State) (topics : List String) (now : Instant) (task : Task) :
    Stage State :=
  { stage.ask (.tasks (.claim topics now)) with claimed := task :: stage.claimed }

/-- The stage after a task has been carried out. -/
def carryOut (stage : Stage State) (runner : TriggerRunner) (task : Task) (now : Instant) :
    Stage State :=
  { stage.work (runner.handler task now) with
    claimed := stage.claimed.filter fun other => other.id ≠ task.id
    executed := task.id :: stage.executed }

/-- What goes on where runs of a trigger are asked for by ticks alone and tasks are not taken back. -/
inductive Moves (known : KnownZones) (id : TriggerId) (stage : Stage State) : Stage State → Prop
  /-- Somebody makes a request that does not bear on the trigger. -/
  | passes (request : Request) (passes : request.PassesBy id) :
      Moves known id stage (stage.ask request)
  /-- A tick is handled at the time that the clock shows. -/
  | ticks (settings : TickSettings) (zones : settings.zones = known) (task : Task) :
      Moves known id stage (stage.work (settings.handler task stage.world.clock))
  /-- A worker claims a run of whatever trigger. -/
  | claims (topics : List String) (now : Instant) (task : Task)
      (handed : (World.answer (.tasks (.claim topics now)) stage.world).1 = .ok (some task))
      (runs : task.handler = TaskKind.triggerRun.name) :
      Moves known id stage (stage.claim topics now task)
  /-- A run that was claimed is carried out, at whatever time. -/
  | executes (runner : TriggerRunner)
      (steps : runner.StepsAsk (@World.answer State _) (Request.PassesBy id)) (task : Task)
      (member : task ∈ stage.claimed) (now : Instant) :
      Moves known id stage (stage.carryOut runner task now)
  /-- A run that was carried out is reported to be complete, or there is a report on a task that runs
  no trigger. -/
  | reports (request : TaskRequest) (report : RunReport) (reports : request.report? = some report)
      (fair : request = .complete report ∧ report.id ∈ stage.executed ∨
        ∀ record ∈ stage.world.backend.records, record.id? = some report.id →
          record.handler? ≠ some TaskKind.triggerRun.name) :
      Moves known id stage (stage.ask (.tasks request))
  /-- Any trigger is changed, but not the kind of the one. -/
  | updates (service : AutomateService) (other : TriggerId) (update : TriggerUpdate)
      (fixed : other = id → update.kind = none) :
      Moves known id stage (stage.work (service.updateTrigger other update).run)

/-- The book of a trigger is kept. -/
def Keeps (stage : Stage State) (trigger : TimedTrigger) : Prop :=
  stage.world.Keeps trigger stage.claimed stage.executed

variable {stage later : Stage State} {trigger : TimedTrigger}

/-- Whatever goes on, the book is kept. -/
theorem Keeps.moves (keeps : stage.Keeps trigger)
    (moves : Moves trigger.zones trigger.id stage later) : later.Keeps trigger := by
  cases moves with
  | passes request passes => exact World.Keeps.passes keeps passes
  | ticks settings zones task => exact World.Keeps.ticks keeps zones task
  | claims topics now task handed runs => exact World.Keeps.claims keeps handed runs
  | executes runner steps task member now => exact World.Keeps.executes keeps steps member now
  | reports request report reports fair => exact World.Keeps.reports keeps reports fair
  | updates service other update fixed => exact World.Keeps.updates keeps service fixed

open Relation

theorem Keeps.run (keeps : stage.Keeps trigger)
    (run : ReflTransGen (Moves trigger.zones trigger.id) stage later) : later.Keeps trigger := by
  induction run with
  | refl => exact keeps
  | tail earlier moves inductionHypothesis => exact inductionHypothesis.moves moves

/-- After a trigger was made that fires at times, in a zone with a constant distance from universal
time, no two entries of its history lie in the same hour of the same day there, whatever goes on. -/
theorem hourly_runs {start created : World State} (reached : start.Reached)
    (calm : start.SparesAutomation) {service : AutomateService} {wallet : WalletId} {name : String}
    {kind : TriggerKind} {trigger : Trigger}
    (creates : World.perform (service.createTrigger wallet name kind).run start =
      (some (.ok trigger), created))
    (silent : start.automate.historyOf trigger.id = [])
    (idle : ∀ record ∈ start.backend.records, ¬ record.IsRunOf trigger.id)
    {schedule : Schedule}
    (compiled : kind.template?.map (ScheduleTemplate.compileWith service.zones) =
      some (.ok schedule))
    {offset : Int} (constant : schedule.zone.HasOffset offset) {final : Stage State}
    (run : ReflTransGen (Moves service.zones trigger.id) ⟨created, [], []⟩ final)
    (unique : final.world.pushed.Nodup) :
    (final.world.automate.historyOf trigger.id).Pairwise fun former latter =>
      schedule.zone.localHour former.createdAt ≠ schedule.zone.localHour latter.createdAt := by
  have begins : Keeps ⟨created, [], []⟩
      ⟨trigger.id, kind, service.zones, schedule, compiled, offset, constant⟩ :=
    World.keeps_created reached calm creates rfl silent idle
  have hourly := ((begins.run run).kept unique).hourly
  exact hourly.imp fun earlier same =>
    Int.ne_of_lt earlier ((Zone.localHour_eq_iff constant _ _).mp same)

/-! ### Three rounds -/

/-- Looks at the clock. -/
def look (stage : Stage Logging) : Stage Logging :=
  stage.work (Engine.default.tick.handler
    (Task.new ⟨.ofNat 0⟩ TaskKind.scheduleTick.name (ScheduleTick.encode ⟨⟩) {} stage.world.clock)
    stage.world.clock)

/-- Claims a run if there is one. -/
def fetch (stage : Stage Logging) : Stage Logging :=
  match (World.answer (.tasks (.claim [defaultTopic] stage.world.clock)) stage.world).1 with
  | .ok (some task) =>
    if task.handler = TaskKind.triggerRun.name then
      stage.claim [defaultTopic] stage.world.clock task
    else stage.ask (.tasks (.claim [defaultTopic] stage.world.clock))
  | _ => stage

/-- Carries out what was claimed last. -/
def carry (stage : Stage Logging) : Stage Logging :=
  match stage.claimed with
  | task :: _ => stage.carryOut Engine.default.runner task stage.world.clock
  | [] => stage

/-- Reports that what was carried out last is complete. -/
def close (stage : Stage Logging) : Stage Logging :=
  match stage.executed with
  | id :: _ => stage.ask (.tasks (.complete ⟨id, none, [], .zero, stage.world.clock, false⟩))
  | [] => stage

/-- All this, one after the other. -/
def round (stage : Stage Logging) : Stage Logging := stage.look.fetch.carry.close

variable {known : KnownZones} {id : TriggerId}

theorem moves_fetch (stage : Stage Logging) : ReflTransGen (Moves known id) stage stage.fetch := by
  unfold fetch
  split
  · next task handed =>
    split
    · next runs => exact .single (.claims _ _ task handed runs)
    · exact .single (.passes _ trivial)
  · exact .refl

theorem moves_carry (stage : Stage Logging) : ReflTransGen (Moves known id) stage stage.carry := by
  unfold carry
  split
  · next task rest claimed =>
    have member : task ∈ stage.claimed := claimed ▸ List.mem_cons_self
    exact .single (.executes _ (Engine.stepsPassBy Engine.assemble_default id) task member _)
  · exact .refl

theorem moves_close (stage : Stage Logging) : ReflTransGen (Moves known id) stage stage.close := by
  unfold close
  split
  · next id rest executed =>
    have member : id ∈ stage.executed := executed ▸ List.mem_cons_self
    exact .single (.reports _ _ rfl (Or.inl ⟨rfl, member⟩))
  · exact .refl

theorem moves_round (stage : Stage Logging) :
    ReflTransGen (Moves Engine.default.service.zones id) stage stage.round :=
  (((ReflTransGen.single (.ticks Engine.default.tick rfl _)).trans (moves_fetch stage.look)).trans
    (moves_carry _)).trans (moves_close _)

/-- A world in which a trigger was made that fires every hour. -/
def hourlyWorld : World Logging :=
  (World.perform (Engine.default.service.createTrigger ⟨.ofNat 1⟩ "hourly" .everyHour).run
    (.holding .empty)).2

/-- A round, another one after a minute, and a third one after an hour. -/
def hourlyRounds : Stage Logging :=
  (((round ⟨hourlyWorld, [], []⟩).ask (.elapse ⟨60000000000⟩)).round.ask
    (.elapse ⟨3600000000000⟩)).round

/-- The trigger was run in the first round and in the third one. -/
theorem hourly_runs_twice :
    (World.holding .empty).Reached ∧ (World.holding .empty).SparesAutomation ∧
      ReflTransGen (Moves Engine.default.service.zones ⟨.ofNat 1⟩) ⟨hourlyWorld, [], []⟩
        hourlyRounds ∧
      hourlyRounds.world.pushed.Nodup ∧
      (hourlyRounds.world.automate.historyOf ⟨.ofNat 1⟩).map Call.createdAt =
        [⟨7, 0⟩, ⟨3667, 0⟩] ∧
      (hourlyRounds.world.automate.historyOf ⟨.ofNat 1⟩).Pairwise fun former latter =>
        Zone.utc.localHour former.createdAt ≠ Zone.utc.localHour latter.createdAt := by
  have reached : (World.holding .empty).Reached := .blank _ .memory rfl rfl rfl
  have calm : (World.holding .empty).SparesAutomation := fun _ => rfl
  have run : ReflTransGen (Moves Engine.default.service.zones ⟨.ofNat 1⟩) ⟨hourlyWorld, [], []⟩
      hourlyRounds :=
    (((moves_round _).tail (.passes (.elapse ⟨60000000000⟩) (Int.le_of_lt (by decide)))).trans
      ((moves_round _).tail (.passes (.elapse ⟨3600000000000⟩) (Int.le_of_lt (by decide))))).trans
        (moves_round _)
  have unique : hourlyRounds.world.pushed.Nodup := by decide +kernel
  have times : (hourlyRounds.world.automate.historyOf ⟨.ofNat 1⟩).map Call.createdAt =
      [⟨7, 0⟩, ⟨3667, 0⟩] := by decide +kernel
  have returned : (World.perform (Engine.default.service.createTrigger ⟨.ofNat 1⟩ "hourly"
      .everyHour).run (.holding .empty)).1.bind Except.toOption =
        some (Trigger.new ⟨.ofNat 1⟩ ⟨.ofNat 1⟩ "hourly" .everyHour ⟨7, 0⟩) := by
    decide +kernel
  have zone : (ScheduleTemplate.compileWith Engine.default.service.zones {}).toOption.map
      Schedule.zone = some .utc := by decide +kernel
  obtain ⟨result, same, ok⟩ := Option.bind_eq_some_iff.mp returned
  cases compiled : ScheduleTemplate.compileWith Engine.default.service.zones {} with
  | error invalid =>
    rw [compiled] at zone
    cases zone
  | ok schedule =>
    rw [compiled] at zone
    have utc : schedule.zone = .utc := Option.some.inj zone
    have constant : schedule.zone.HasOffset 0 := utc ▸ Zone.hasOffset_constant "UTC" 0
    match result, ok with
    | .ok _, rfl =>
      have hourly := hourly_runs reached calm (Prod.ext same rfl) rfl
        (fun record member => absurd member List.not_mem_nil) (congrArg some compiled) constant run
        unique
      rw [utc] at hourly
      exact ⟨reached, calm, run, unique, times, hourly⟩

end Stage

end TaskAutomation
