import TaskAutomation.Proofs.Engine.Moments
import TaskAutomation.Proofs.Automation.Signs
import TaskAutomation.Proofs.Engine.OwnHandlers
import TaskAutomation.Proofs.Engine.WorldQueue
import TaskAutomation.Proofs.Queue.Content

/-!
This file proves which runs of triggers an event brings about. The sign of a run is held while the run
waits and also while it is under way. A push that meets a run that waits is not needed, but one that
meets a run under way is lost, and that run may have asked its conditions before the event. So an
event that has been handed out makes a run wait of every trigger that listens, unless one run of that
trigger has been under way from before the event until the push.
-/

namespace TaskAutomation

open StoredTask

namespace StoredTask

variable {records newRecords : List StoredTask} {operation : QueueOperation} {reply : QueueReply}
  {record changed : StoredTask} {id : TriggerId} {task : TaskId}

/-! ### Runs in a queue -/

/-- A record is of a task that runs triggers, and it carries the sign of the run of one. -/
structure IsSignedRun (record : StoredTask) (id : TriggerId) : Prop where
  handler : record.handler? = some TaskKind.triggerRun.name
  sign : record.sign? = some (TriggerRun.collisionSign ⟨id⟩)

/-- A run of a trigger waits in a queue. -/
def RunWaits (records : List StoredTask) (id : TriggerId) : Prop :=
  ∃ record ∈ records, record.IsSignedRun id ∧ record.status? = some .pending

instance (record : StoredTask) (id : TriggerId) : Decidable (record.IsSignedRun id) :=
  decidable_of_iff (record.handler? = some TaskKind.triggerRun.name ∧
      record.sign? = some (TriggerRun.collisionSign ⟨id⟩))
    ⟨fun ⟨handler, sign⟩ => ⟨handler, sign⟩, fun ⟨handler, sign⟩ => ⟨handler, sign⟩⟩

instance (records : List StoredTask) (id : TriggerId) : Decidable (RunWaits records id) := by
  unfold RunWaits
  infer_instance

/-- A task is a run of a trigger that is under way. -/
def RunIsUnderway (records : List StoredTask) (id : TriggerId) (task : TaskId) : Prop :=
  Has (fun record => record.IsSignedRun id ∧ record.status? = some .process) records task

/-- The signs of runs are carried by runs only. -/
def SignsRuns (records : List StoredTask) : Prop :=
  ∀ record ∈ records, ∀ id, record.sign? = some (TriggerRun.collisionSign ⟨id⟩) →
    record.handler? = some TaskKind.triggerRun.name

theorem IsSignedRun.of_change (run : changed.IsSignedRun id)
    (change : Change operation record changed) : record.IsSignedRun id :=
  ⟨change.sameOrigin.handler?_eq.symm.trans run.handler, change.sign?_eq.symm.trans run.sign⟩

/-- The signs of runs stay with runs, if only runs are pushed under them. -/
theorem Effect.signsRuns (effect : Effect records operation reply newRecords)
    (distinct : Distinct records) (signs : SignsRuns records)
    (pushes : ∀ id now handler params options, operation = .push id now handler params options →
      ∀ trigger, options.collisionSign = some (TriggerRun.collisionSign ⟨trigger⟩) →
        handler = TaskKind.triggerRun.name) : SignsRuns newRecords := by
  intro record member trigger signed
  cases operation with
  | push id now handler params options =>
    obtain ⟨task, added, rfl, stored, made⟩ := effect.push_adds
    obtain before | new := List.mem_append.mp member
    · exact signs record before trigger signed
    · rw [List.mem_singleton.mp new] at signed ⊢
      have own : task.handler = handler ∧ task.collisionSign = options.collisionSign := by
        obtain rfl | ⟨existing, rfl⟩ := made <;> exact ⟨rfl, rfl⟩
      have sign := own.2.symm.trans ((sign?_of_isOf stored).symm.trans signed)
      rw [handler?_of_isOf stored, own.1, pushes _ _ _ _ _ rfl trigger sign]
  | _ =>
    obtain ⟨former, before, change⟩ := effect.exists_change distinct rfl member
    exact change.sameOrigin.handler?_eq.trans
      (signs former before trigger (change.sign?_eq.symm.trans signed))

/-- A run that is under way after an operation was so before it, or waited. -/
theorem Effect.underway_before (effect : Effect records operation reply newRecords)
    (distinct : Distinct records) (after : RunIsUnderway newRecords id task) :
    RunIsUnderway records id task ∨ RunWaits records id := by
  obtain ⟨record, member, named, run, process⟩ := after
  obtain ⟨former, before, change⟩ | ⟨new, -, -, pending | collision⟩ :=
    effect.backward distinct member
  · have origin := run.of_change change
    have same := change.id?_eq.symm.trans named
    cases change with
    | kept => exact Or.inl ⟨_, before, named, run, process⟩
    | claimed topics now record claims due =>
      exact Or.inr ⟨_, before, origin, status?_of_isDue due⟩
    | settled report apply record held reports own read process' =>
      rw [status?_settled] at process
      exact absurd (Option.some.inj process) (QueueOperation.status_settlement_ne reports held)
    | reaped now cutoff record reaps stale =>
      rw [status?_reaped] at process
      cases process
  · cases pending.symm.trans process
  · cases collision.symm.trans process

/-- While a run of a trigger is under way, none waits. -/
theorem Exclusive.not_waits (exclusive : Exclusive records) (distinct : Distinct records)
    (underway : RunIsUnderway records id task) : ¬ RunWaits records id := by
  obtain ⟨record, member, -, run, process⟩ := underway
  rintro ⟨other, inside, waiting, pending⟩
  have same := exclusive _ record member other inside ⟨run.sign, Or.inr process⟩
    ⟨waiting.sign, Or.inl pending⟩
  obtain rfl := distinct.eq_of_id?_eq member inside same
  cases process.symm.trans pending

end StoredTask

/-! ### Worlds in which runs are pushed under their signs -/

/-- A request pushes only runs of triggers under the signs of such runs. -/
def Request.SignsRuns (request : Request) : Prop :=
  ∀ handler params options, request = .tasks (.push handler params options) →
    ∀ id, options.collisionSign = some (TriggerRun.collisionSign ⟨id⟩) →
      handler = TaskKind.triggerRun.name

theorem Request.signsRuns_of_spares {request : Request} (spares : request.SparesQueue) :
    request.SignsRuns := fun _ _ _ same => absurd same (spares _)

theorem RunSettings.signsRuns_runRequest (settings : RunSettings) (id : TriggerId) :
    (settings.runRequest id).SignsRuns := by
  intro handler params options same other signed
  cases same
  rfl

/-- The workers of an engine push only runs of triggers under the signs of such runs. -/
theorem Engine.signsRuns {known : KnownZones} {config : Config}
    {conditions : List ConditionKind} {actions : List ActionKind} {engine : Engine}
    (assembled : assemble known config conditions actions = .ok engine) {State : Type}
    {answer : (request : Request) → State → request.Reply × State} (state : State) :
    engine.dispatcher.runOnce.run.Asks answer Request.SignsRuns state := by
  refine Dispatcher.asks_runOnce ?_ (Request.signsRuns_of_spares nofun) ?_ state
  · refine handlers_ask assembled (fun _ => Request.signsRuns_of_spares)
      config.automate.runs.signsRuns_runRequest fun run _ handler params options same id signed => ?_
    cases same
    exact absurd (Option.some.inj signed) (run.collisionSign_ne id)
  · intro own quiet handler params options same
    cases same
    exact absurd rfl (quiet handler params options)

namespace World

variable {State : Type}

/-- Such requests have led to a world from one without tasks. -/
inductive SignsRuns [Outside State] : World State → Prop
  | blank (world : World State) (storage : Storage) (queue : world.backend = .empty storage)
      (unused : world.pushed = []) : SignsRuns world
  | answered (request : Request) (world : World State) (signs : request.SignsRuns)
      (reached : SignsRuns world) : SignsRuns (answer request world).2

/-- The queue of a world is as it should be, and the signs of runs are carried by runs. -/
structure KeepsSigns (world : World State) : Prop where
  orderly : world.backend.Orderly world.pushed
  signed : StoredTask.SignsRuns world.backend.records

variable [Outside State] {world before final : World State} {request : Request}
  {moments early : List (World State)} {id : TriggerId} {task : TaskId}

theorem KeepsSigns.answer (keeps : world.KeepsSigns) (signs : request.SignsRuns)
    (unique : (answer request world).2.pushed.Nodup) : (World.answer request world).2.KeepsSigns where
  orderly := orderly_answer keeps.orderly unique
  signed := by
    obtain same | ⟨own, new, reply, rfl, effect⟩ := effect_answer keeps.orderly unique
    · rw [same]
      exact keeps.signed
    · refine effect.signsRuns keeps.orderly.distinct keeps.signed ?_
      intro id now handler params options pushes
      cases own <;> cases pushes
      exact signs _ _ _ rfl

theorem SignsRuns.keepsSigns (reached : world.SignsRuns) (unique : world.pushed.Nodup) :
    world.KeepsSigns := by
  induction reached with
  | blank world storage queue unused =>
    refine ⟨?_, ?_⟩
    · rw [queue, unused]
      exact .empty storage
    · rw [queue]
      exact fun record member => absurd member (Backend.not_mem_records_empty storage record)
  | answered request world signs reached inductionHypothesis =>
    have used := (pushed_prefix_answer request world).sublist
    exact (inductionHypothesis (unique.sublist used)).answer signs unique

/-! ### From moment to moment -/

theorem pushed_prefix_through {kind : Request → Prop}
    (through : Through answer kind world moments final) : world.pushed <+: final.pushed := by
  induction through with
  | here => exact List.prefix_rfl
  | step request fits rest inductionHypothesis =>
    exact (pushed_prefix_answer request _).trans inductionHypothesis

theorem KeepsSigns.through (through : Through World.answer Request.SignsRuns world moments final)
    (keeps : world.KeepsSigns) (unique : final.pushed.Nodup) :
    final.KeepsSigns ∧ ∀ moment ∈ moments, moment.KeepsSigns := by
  induction through with
  | here => exact ⟨keeps, nofun⟩
  | step request signs rest inductionHypothesis =>
    have used := (pushed_prefix_through rest).sublist
    obtain ⟨last, others⟩ :=
      inductionHypothesis (keeps.answer signs (unique.sublist used)) unique
    exact ⟨last, List.forall_mem_cons.mpr ⟨keeps, others⟩⟩

/-- What an answer does to a queue, a run that is under way after it was so before it, or waited. -/
theorem KeepsSigns.underway_before (keeps : world.KeepsSigns)
    (unique : (World.answer request world).2.pushed.Nodup)
    (after : RunIsUnderway (World.answer request world).2.backend.records id task) :
    RunIsUnderway world.backend.records id task ∨ RunWaits world.backend.records id := by
  obtain same | ⟨own, new, reply, rfl, effect⟩ := effect_answer keeps.orderly unique
  · rw [same] at after
    exact Or.inl after
  · exact effect.underway_before keeps.orderly.distinct after

/-- A run that is under way in the end has been so from the beginning on, or a run of its trigger
waited at one of the moments. -/
theorem KeepsSigns.underway_throughout
    (through : Through World.answer Request.SignsRuns world early before) (keeps : world.KeepsSigns)
    (unique : before.pushed.Nodup) (underway : RunIsUnderway before.backend.records id task) :
    (RunIsUnderway world.backend.records id task ∧
        ∀ moment ∈ early, RunIsUnderway moment.backend.records id task) ∨
      ∃ moment ∈ early, RunWaits moment.backend.records id := by
  induction through with
  | here => exact Or.inl ⟨underway, nofun⟩
  | step request signs rest inductionHypothesis =>
    have used := unique.sublist (pushed_prefix_through rest).sublist
    obtain ⟨next, still⟩ | ⟨moment, member, waits⟩ :=
      inductionHypothesis (keeps.answer signs used) unique underway
    · obtain now | waits := keeps.underway_before used next
      · exact Or.inl ⟨now, List.forall_mem_cons.mpr ⟨now, still⟩⟩
      · exact Or.inr ⟨_, List.mem_cons_self, waits⟩
    · exact Or.inr ⟨moment, List.mem_cons_of_mem _ member, waits⟩

/-! ### The push of a run -/

variable {settings : RunSettings} {pushed : Pushed}

/-- An accepted push of a run leaves a run that waits behind, unless it meets one under way. It takes
no record away. -/
theorem KeepsSigns.push_run (keeps : before.KeepsSigns)
    (unique : (World.answer (settings.runRequest id) before).2.pushed.Nodup)
    (accepted : (World.answer (settings.runRequest id) before).1 = .ok pushed) :
    (RunWaits (World.answer (settings.runRequest id) before).2.backend.records id ∨
        ∃ task, RunIsUnderway before.backend.records id task) ∧
      before.backend.records ⊆
        (World.answer (settings.runRequest id) before).2.backend.records := by
  obtain ⟨fault, refused, -⟩ | ⟨new, -, -, -, effect⟩ := effect_tasks keeps.orderly _ unique
  · cases refused.symm.trans accepted
  · obtain ⟨record, -, records, stored, -⟩ |
      ⟨existing, record, -, records, -, sign, signed, holder, member, holds, named⟩ :=
        effect.push_inv
    · refine ⟨Or.inl ?_, records ▸ List.subset_append_left _ _⟩
      rw [show (World.answer (settings.runRequest id) before).2.backend.records = _ from records]
      refine ⟨record, List.mem_append_right _ (List.mem_singleton_self record), ?_, ?_⟩
      · exact ⟨handler?_of_isOf stored, sign?_of_isOf stored⟩
      · exact status?_of_isOf stored
    · obtain rfl := Option.some.inj signed
      have run : holder.IsSignedRun id := ⟨keeps.signed holder member id holds.1, holds.1⟩
      refine ⟨?_, records ▸ List.subset_append_left _ _⟩
      obtain pending | process := holds.2
      · exact Or.inl ⟨holder, records ▸ List.mem_append_left _ member, run, pending⟩
      · exact Or.inr ⟨existing, holder, member, named, run, process⟩

/-- A run of a trigger has waited by the time an accepted push of one is over, unless one was under way
all the time. -/
theorem KeepsSigns.run_waits_iff
    (through : Through World.answer Request.SignsRuns world early before) (keeps : world.KeepsSigns)
    (unique : (World.answer (settings.runRequest id) before).2.pushed.Nodup)
    (accepted : (World.answer (settings.runRequest id) before).1 = .ok pushed) :
    (∃ moment ∈ early ++ [before, (World.answer (settings.runRequest id) before).2],
        RunWaits moment.backend.records id) ↔
      ¬ ∃ run, ∀ moment ∈ early ++ [before], RunIsUnderway moment.backend.records id run := by
  have used := unique.sublist (pushed_prefix_answer (settings.runRequest id) before).sublist
  obtain ⟨last, others⟩ := keeps.through through used
  have behind := last.answer (settings.signsRuns_runRequest id) unique
  obtain ⟨outcome, stays⟩ := last.push_run unique accepted
  constructor
  · rintro ⟨moment, member, waits⟩ ⟨run, underway⟩
    have now := underway before (List.mem_append_right _ (List.mem_singleton_self before))
    obtain early | next := List.mem_append.mp member
    · have kept := others moment early
      exact kept.orderly.exclusive.not_waits kept.orderly.distinct
        (underway moment (List.mem_append_left _ early)) waits
    · obtain rfl | after := List.mem_cons.mp next
      · exact last.orderly.exclusive.not_waits last.orderly.distinct now waits
      · rw [List.mem_singleton.mp after] at waits
        obtain ⟨record, inside, held⟩ := now
        exact behind.orderly.exclusive.not_waits behind.orderly.distinct
          ⟨record, stays inside, held⟩ waits
  · intro free
    obtain waits | ⟨run, underway⟩ := outcome
    · exact ⟨_, List.mem_append_right _ (List.mem_cons_of_mem _ (List.mem_singleton_self _)), waits⟩
    · obtain ⟨-, still⟩ | ⟨moment, member, waits⟩ :=
        keeps.underway_throughout through used underway
      · refine absurd ⟨run, fun moment member => ?_⟩ free
        obtain early | last := List.mem_append.mp member
        · exact still moment early
        · rw [List.mem_singleton.mp last]
          exact underway
      · exact ⟨moment, List.mem_append_left _ member, waits⟩

end World

/-! ### Events -/

namespace RunSettings

variable {State : Type} [Outside State] {settings : RunSettings}
  {others rest : List (Program Unit)} {world final : World State} {task : Task} {now : Instant}
  {outcome : Outcome}

/-- The work on an event. -/
def eventWork (settings : RunSettings) (run : Run ContractEvent) : Work Failure Outcome := do
  let triggers ← Work.needingStore (AutomateRequest.ask .listTriggers)
  let listening := triggers.filter fun trigger => trigger.listensTo run.params.source
  let queued ← Work.needingStore (settings.pushRuns listening)
  return (run.addInfo (queuedLine queued)).done

/-- The work on an event lists the triggers at one moment, and all further moments are those of the
pushes of runs for the ones that listen. -/
theorem of_run_eventWork {run : Run ContractEvent} {finished : Outcome}
    (worked : (settings.eventWork run).run.run (answerAmid World.answer) (others, world) =
      (some (.ok finished), (rest, final))) :
    ∃ between queued,
      (settings.pushRuns ((othersFirst World.answer (others, world)).automate.triggers.filter
        fun trigger => trigger.listensTo run.params.source)).run.run (answerAmid World.answer) between =
          (some (.ok queued), (rest, final)) ∧
      (settings.eventWork run).run.momentsAmid World.answer (others, world) =
        Program.momentsFirst World.answer (others, world) ++ othersFirst World.answer (others, world) ::
          (settings.pushRuns ((othersFirst World.answer (others, world)).automate.triggers.filter
            fun trigger => trigger.listensTo run.params.source)).run.momentsAmid World.answer
              between := by
  obtain ⟨triggers, between, listed, later⟩ := Work.of_run_bind worked
  obtain ⟨queued, last, pushed, returned⟩ := Work.of_run_bind later
  obtain rfl : last = (rest, final) := congrArg Prod.snd returned
  have asked := Work.of_run_mapFault listed
  have pushes := Work.of_run_mapFault pushed
  have reply : (World.answer (.automate .listTriggers)
      (othersFirst World.answer (others, world))).1 = .ok triggers :=
    Option.some.inj (congrArg Prod.fst asked)
  obtain rfl := (World.automateHost.served_of_ok reply).1
  refine ⟨between, queued, pushes, (Work.momentsAmid_bind listed).trans ?_⟩
  rw [show (Work.needingStore (AutomateRequest.ask .listTriggers)).run.momentsAmid World.answer
      (others, world) = Program.momentsFirst World.answer (others, world) ++
        [othersFirst World.answer (others, world)] from Work.momentsAmid_mapFault asked,
    List.append_assoc]
  refine congrArg _ (congrArg _ ((Work.momentsAmid_bind pushed).trans ?_))
  exact (List.append_nil _).trans (Work.momentsAmid_mapFault pushes)

/-- An event that has been handed out was read from the params, the triggers were listed at one
moment, and a run of each that listens was pushed at a later one. -/
theorem pushes_of_done
    (ran : (settings.eventHandler task now).run (answerAmid World.answer) (others, world) =
      (some outcome, (rest, final))) (done : outcome.conclusion = .done) :
    ∃ event, ContractEvent.parse task.params = .ok event ∧
      ∃ first listed second, (settings.eventHandler task now).momentsAmid World.answer (others, world) =
        first ++ listed :: second ∧
      ∀ trigger ∈ listed.automate.triggers, trigger.Hears event.source →
        ∃ early before after late pushed, second ++ [final] = early ++ before :: after :: late ∧
          World.answer (settings.runRequest trigger.id) before = (.ok pushed, after) := by
  rw [show settings.eventHandler =
    TypedHandler.handler ⟨_, ContractEvent.parse, settings.eventWork⟩ from rfl] at ran ⊢
  cases parsed : ContractEvent.parse task.params with
  | error invalid =>
    rw [RunCourse.handler_of_error parsed] at ran
    cases ran
    cases done
  | ok event =>
    rw [RunCourse.handler_eq parsed] at ran ⊢
    refine ⟨event, rfl, ?_⟩
    obtain ⟨result, changed, worked, ended⟩ := Program.of_run_bind ran
    obtain rfl : changed = (rest, final) := congrArg Prod.snd ended
    cases result with
    | error failure =>
      cases ended
      cases done
    | ok finished =>
      rw [Program.momentsAmid_bind_of_run worked]
      obtain ⟨between, queued, pushed, parts⟩ := of_run_eventWork worked
      refine ⟨_, _, _, (List.append_nil _).trans parts, fun trigger member hears => ?_⟩
      refine exists_moment_of_pushRuns pushed trigger ?_
      exact List.mem_filter.mpr ⟨member, Trigger.listensTo_iff.mpr hears⟩

/-- The moments at which an event is handed out, up to the state behind the last of them, bring about
runs of the triggers that listen. The triggers are listed at one moment. For each of those that are
active and listen, a run is asked for at a later moment, and the queue takes it: the next moment is the
one behind its answer. Up to there a run of the trigger has waited at one of the moments since the
start, unless one run of it was under way at all of them until it was asked for. -/
def BringsRuns (settings : RunSettings) (event : ContractEvent) (moments : List (World State))
    (final : World State) : Prop :=
  ∃ first listed second, moments = first ++ listed :: second ∧
    ∀ trigger ∈ listed.automate.triggers, trigger.Hears event.source →
      ∃ early before after late pushed, second ++ [final] = early ++ before :: after :: late ∧
        World.answer (settings.runRequest trigger.id) before = (.ok pushed, after) ∧
        ((∃ moment ∈ first ++ listed :: early ++ [before, after],
          RunWaits moment.backend.records trigger.id) ↔
        ¬ ∃ run, ∀ moment ∈ first ++ listed :: early ++ [before],
          RunIsUnderway moment.backend.records trigger.id run)

/-- An event that is handed out brings about runs, whatever others do meanwhile. -/
theorem makes_runs_wait (reached : world.SignsRuns)
    (disciplined : ∀ program ∈ others, ∀ state : World State,
      program.Asks World.answer Request.SignsRuns state)
    (unique : final.pushed.Nodup)
    (ran : (settings.eventHandler task now).run (answerAmid World.answer) (others, world) =
      (some outcome, (rest, final))) (done : outcome.conclusion = .done) :
    ∃ event, ContractEvent.parse task.params = .ok event ∧
      settings.BringsRuns event
        ((settings.eventHandler task now).momentsAmid World.answer (others, world)) final := by
  obtain ⟨event, parsed, first, listed, second, moments, pushes⟩ := pushes_of_done ran done
  have asks : (settings.eventHandler task now).Asks (answerAmid World.answer) Request.SignsRuns
      (others, world) :=
    settings.asks_eventHandler (Request.signsRuns_of_spares nofun)
      settings.signsRuns_runRequest task now _
  have through := Program.through_momentsAmid asks disciplined
  rw [ran, moments] at through
  have keeps := reached.keepsSigns (unique.sublist (World.pushed_prefix_through through).sublist)
  refine ⟨event, parsed, first, listed, second, moments, fun trigger member hears => ?_⟩
  obtain ⟨early, before, after, late, pushed, split, answered⟩ := pushes trigger member hears
  refine ⟨early, before, after, late, pushed, split, answered, ?_⟩
  have parts : first ++ listed :: second ++ [final] =
      first ++ listed :: early ++ before :: after :: late := by
    rw [List.append_assoc, List.cons_append, split, List.append_assoc, List.cons_append]
  have former := (through.split parts).1
  obtain ⟨-, others, latter⟩ := through.split (parts.trans (List.append_cons _ before _))
  have used := unique.sublist (World.pushed_prefix_through latter).sublist
  obtain rfl : (World.answer (settings.runRequest trigger.id) before).2 = after :=
    congrArg Prod.snd answered
  exact keeps.run_waits_iff former used (congrArg Prod.fst answered)

/-- A world with a trigger that listens to an event. -/
def listeningWorld : World Logging :=
  .holding ⟨[Trigger.new ⟨.ofNat 1⟩ ⟨.ofNat 1⟩ "t"
    (.contractEvent ⟨"main", "0xab", "Transfer"⟩ (some "sub-1")) ⟨0, 0⟩], [], [], []⟩

/-- How its runs are queued. -/
def plainSettings : RunSettings := ⟨defaultTopic, 0⟩

/-- The world when a run of the trigger is under way. -/
def busyWorld : World Logging :=
  (World.answer (.tasks (.claim [defaultTopic] ⟨7, 0⟩))
    (World.answer (plainSettings.runRequest ⟨.ofNat 1⟩) listeningWorld).2).2

/-- The task that hands the event out. -/
def eventTask : Task :=
  (Task.new ⟨.ofNat 9⟩ TaskKind.contractEvent.name
    (ContractEvent.encode ⟨⟨"main", "0xAB", "Transfer"⟩, none⟩) {} ⟨0, 0⟩).claimed ⟨0, 0⟩

/-- The report that the run under way is done. -/
def reportDone : Program Unit :=
  .call (.tasks (.complete (.bare (busyWorld.pushed.headD ⟨.ofNat 0⟩) ⟨8, 0⟩))) fun _ => .pure ()

/-- A worker of an engine looks for a task. -/
def lookAround : Program Unit := Engine.default.dispatcher.runOnce.run.bind fun _ => .pure ()

/-- The event is handed out among others. -/
def handOut (others : List (Program Unit)) :
    Option Outcome × (List (Program Unit) × World Logging) :=
  (plainSettings.eventHandler eventTask ⟨7, 0⟩).run (answerAmid World.answer) (others, busyWorld)

theorem makes_runs_wait_finished :
    (handOut [lookAround, reportDone]).1.map Outcome.conclusion = some .done ∧
      (handOut [lookAround, reportDone]).2.2.pushed.length = 2 ∧
      ∃ event, ContractEvent.parse eventTask.params = .ok event ∧
        plainSettings.BringsRuns event
          ((plainSettings.eventHandler eventTask ⟨7, 0⟩).momentsAmid World.answer
            ([lookAround, reportDone], busyWorld)) (handOut [lookAround, reportDone]).2.2 := by
  have ended : (handOut [lookAround, reportDone]).1.map Outcome.conclusion = some .done := by
    decide +kernel
  have unique : (handOut [lookAround, reportDone]).2.2.pushed.Nodup := by decide +kernel
  have reached : busyWorld.SignsRuns :=
    .answered _ _ nofun (.answered _ _ (plainSettings.signsRuns_runRequest _)
      (.blank _ .memory rfl rfl))
  have disciplined : ∀ program ∈ [lookAround, reportDone], ∀ state : World Logging,
      program.Asks World.answer Request.SignsRuns state :=
    List.forall_mem_cons.mpr
      ⟨fun state => (Engine.signsRuns Engine.assemble_default state).bind fun _ _ => trivial,
        List.forall_mem_singleton.mpr fun _ => ⟨nofun, trivial⟩⟩
  obtain ⟨outcome, returned, done⟩ := Option.map_eq_some_iff.mp ended
  exact ⟨ended, by decide +kernel,
    makes_runs_wait reached disciplined unique (Prod.ext returned rfl) done⟩

/-- An event is handed out while a run of the trigger is under way, and no further run ever waits. -/
theorem loses_event_to_run_underway :
    (handOut []).1.map Outcome.conclusion = some .done ∧
      ∃ event, ContractEvent.parse eventTask.params = .ok event ∧
        ∃ trigger ∈ busyWorld.automate.triggers, trigger.Hears event.source ∧
          ∀ moment ∈ (plainSettings.eventHandler eventTask ⟨7, 0⟩).momentsAmid World.answer
              ([], busyWorld) ++ [(handOut []).2.2],
            ¬ RunWaits moment.backend.records trigger.id := by
  have parsed : ContractEvent.parse eventTask.params =
      .ok ⟨⟨"main", "0xAB", "Transfer"⟩, none⟩ := by rfl
  refine ⟨by decide +kernel, _, parsed, _, List.mem_singleton_self _, ?_, ?_⟩
  · exact Trigger.listensTo_iff.mp (by decide +kernel)
  decide +kernel

end RunSettings

end TaskAutomation
