import TaskAutomation.Proofs.Engine.RunLedger
import TaskAutomation.Proofs.Engine.Tick
import TaskAutomation.Proofs.Engine.WorldQueue

/-!
This file says what keeps the book of the runs of a trigger in a world: requests that do not bear on
the trigger, claims, runs that are carried out, ticks, and changes of the trigger that leave its kind
as it is.
-/

namespace TaskAutomation

/-! ### What passes a trigger by -/

/-- A request does not bear on a trigger: it neither reaps tasks nor reports on them nor turns the
clock back, and it leaves the trigger and its history alone and queues no run of it. -/
def Request.PassesBy (id : TriggerId) : Request → Prop
  | elapse span => 0 ≤ span.nanos
  | tasks (.push handler params _) =>
    handler = TaskKind.triggerRun.name → ¬ TriggerRun.Names params id
  | tasks (.claim ..) | tasks (.purge _) => True
  | tasks _ => False
  | automate own => ∀ store, SameTrigger id store (own.onStore store).2
  | _ => True

/-- A request does not bear on a trigger, or it is one for a run of it in a free hour. -/
def Request.FitsHour (id : TriggerId) (free : Prop) (request : Request) : Prop :=
  request.PassesBy id ∨ free ∧ ∃ settings : RunSettings, request = settings.runRequest id

/-- The report that a request makes. -/
def TaskRequest.report? : TaskRequest → Option RunReport
  | complete report | fail report _ | reschedule report _ => some report
  | push .. | claim .. | reap _ | purge _ => none

/-- A request reaches no task queue and does not move the clock. -/
def Request.StandsStill : Request → Prop
  | tasks _ | elapse _ => False
  | _ => True

/-- The request for a run of another trigger passes a trigger by. -/
theorem RunSettings.passesBy_runRequest (settings : RunSettings) {id other : TriggerId}
    (different : other ≠ id) : (settings.runRequest other).PassesBy id := fun _ named =>
  different (TriggerRun.names_encode named)

/-- The book of the runs in a world. -/
def World.ledger {State : Type} (world : World State) (claimed : List Task)
    (executed : List TaskId) : RunLedger :=
  ⟨world.clock, world.backend, world.pushed, world.automate, claimed, executed⟩

namespace World

variable {State : Type} {trigger : TimedTrigger} {claimed : List Task} {executed : List TaskId}
  {world : World State}

/-- No call of the automation store is about to fail, and unless an identifier was used twice, the
book of the runs of a trigger is kept. -/
structure Keeps (trigger : TimedTrigger) (claimed : List Task) (executed : List TaskId)
    (world : World State) : Prop where
  calm : world.SparesAutomation
  kept : world.pushed.Nodup → (world.ledger claimed executed).IsKept trigger

/-- The book after a claimed task has been carried out. -/
theorem Keeps.carriedOut (keeps : world.Keeps trigger claimed executed) {task : Task}
    (member : task ∈ claimed) :
    world.Keeps trigger (claimed.filter fun other => other.id ≠ task.id) (task.id :: executed) :=
  ⟨keeps.calm, fun unique => (keeps.kept unique).carriedOut member⟩

variable [Outside State]

/-- A request to the task queue leaves the clock and the automation store alone. -/
theorem aside_tasks (request : TaskRequest) (world : World State) :
    (answer (.tasks request) world).2.clock = world.clock ∧
      (answer (.tasks request) world).2.automate = world.automate := by
  have still : ∀ span, Request.tasks request ≠ .elapse span := fun _ same => by cases same
  have foreign : ∀ own, Request.tasks request ≠ .automate own := fun _ same => by cases same
  exact ⟨clock_answer _ world still, (answer_foreign foreign world).1⟩

/-- A request to the task queue is refused and leaves the book as it is, or the book is the one after
the operation that was asked for. -/
theorem ledger_tasks (claimed : List Task) (executed : List TaskId) (request : TaskRequest)
    (world : World State) :
    (∃ fault, (answer (.tasks request) world).1 = .error fault ∧
        (answer (.tasks request) world).2.ledger claimed executed = world.ledger claimed executed) ∨
      ∃ id, (world.backend.step (request.operation id world.clock)).1 =
          (answer (.tasks request) world).1.map request.toAnswer ∧
        (answer (.tasks request) world).2.ledger claimed executed =
          (world.ledger claimed executed).afterOperation (request.operation id world.clock) := by
  obtain ⟨clock, store⟩ := aside_tasks request world
  have answers := answers_tasks request world
  unfold ledger
  rw [clock, store]
  generalize (answer (.tasks request) world).1 = reply at answers ⊢
  generalize (answer (.tasks request) world).2.backend = queue,
    (answer (.tasks request) world).2.pushed = pushed at answers ⊢
  cases answers with
  | refused fault => exact Or.inl ⟨fault, rfl, rfl⟩
  | served id reply answer => exact Or.inr ⟨id, answer, rfl⟩

/-- A request to the task queue is harmless if whatever it does to the queue is. -/
theorem Keeps.tasks (keeps : world.Keeps trigger claimed executed) (request : TaskRequest)
    (allows : world.pushed.Nodup → ∀ id,
      (world.ledger claimed executed).Allows trigger (request.operation id world.clock)) :
    (answer (.tasks request) world).2.Keeps trigger claimed executed where
  calm := automateHost.calm (.tasks request) world keeps.calm
  kept unique := by
    have before := unique.sublist (pushed_prefix_answer (.tasks request) world).sublist
    obtain ⟨fault, -, same⟩ | ⟨id, -, same⟩ := ledger_tasks claimed executed request world
    · rw [same]
      exact keeps.kept before
    · have used : (answer (.tasks request) world).2.pushed =
          world.pushed ++ (request.operation id world.clock).pushedId?.toList :=
        congrArg RunLedger.used same
      rw [used] at unique
      rw [same]
      exact (keeps.kept before).operation (fresh_of_nodup unique) (allows before id)

/-- A claim hands out a task that has not been carried out. -/
theorem Keeps.claims (keeps : world.Keeps trigger claimed executed) {topics : List String}
    {now : Instant} {task : Task}
    (handed : (answer (.tasks (.claim topics now)) world).1 = .ok (some task))
    (runs : task.handler = TaskKind.triggerRun.name) :
    (answer (.tasks (.claim topics now)) world).2.Keeps trigger (task :: claimed) executed where
  calm := automateHost.calm (.tasks (.claim topics now)) world keeps.calm
  kept unique := by
    have before := unique.sublist (pushed_prefix_answer (.tasks (.claim topics now)) world).sublist
    obtain ⟨fault, refused, -⟩ | ⟨id, replied, same⟩ :=
      ledger_tasks (task :: claimed) executed (.claim topics now) world
    · cases handed.symm.trans refused
    · rw [handed] at replied
      rw [same]
      exact (keeps.kept before).claimed replied runs

/-- A report keeps the book if it completes a run that has been carried out, or if it is about a task
that runs no trigger. -/
theorem Keeps.reports (keeps : world.Keeps trigger claimed executed) {request : TaskRequest}
    {report : RunReport} (reports : request.report? = some report)
    (fair : request = .complete report ∧ report.id ∈ executed ∨
      ∀ record ∈ world.backend.records, record.id? = some report.id →
        record.handler? ≠ some TaskKind.triggerRun.name) :
    (answer (.tasks request) world).2.Keeps trigger claimed executed := by
  refine keeps.tasks request fun _ id => ?_
  cases request with
  | complete =>
    cases reports
    refine ⟨nofun, ?_, nofun⟩
    rintro _ _ ⟨⟩
    exact fair.imp_left fun own => ⟨rfl, own.2⟩
  | fail | reschedule =>
    cases reports
    refine ⟨nofun, ?_, nofun⟩
    rintro _ _ ⟨⟩
    exact Or.inr (fair.resolve_left fun own => nomatch own.1)
  | push | claim | reap | purge => cases reports

/-- A request that reaches no task queue and does not move the clock bears on the book by its store
alone. -/
theorem ledger_still {request : Request} (still : request.StandsStill) (world : World State) :
    (answer request world).2.ledger claimed executed =
      (world.ledger claimed executed).withStore (answer request world).2.automate := by
  have clock := clock_answer request world fun span same => by
    rw [same] at still
    exact still
  have spares : request.SparesQueue := fun own same => by
    rw [same] at still
    exact still
  have queue := (sameQueue_answer spares world).backend
  have pushed := pushed_answer request world spares
  unfold ledger RunLedger.withStore
  rw [clock, queue, pushed]

/-- What passes a trigger by leaves it and its history as they are. -/
theorem sameTrigger_answer {request : Request} (passes : request.PassesBy trigger.id)
    (world : World State) :
    SameTrigger trigger.id world.automate (answer request world).2.automate := by
  by_cases own : ∃ own, request = .automate own
  · obtain ⟨own, rfl⟩ := own
    obtain ⟨-, served⟩ | ⟨fault, -, same, -⟩ := answers_automate own world
    · rw [served]
      exact passes world.automate
    · exact .of_eq same
  · exact .of_eq (answer_foreign (fun other same => own ⟨other, same⟩) world).1

/-- What passes a trigger by does not turn the clock back. -/
theorem le_clock_answer {request : Request} {id : TriggerId} (passes : request.PassesBy id)
    (world : World State) : world.clock ≤ (answer request world).2.clock := by
  by_cases moves : ∃ span, request = .elapse span
  · obtain ⟨span, rfl⟩ := moves
    show world.clock ≤ (world.clock.add? span).getD world.clock
    cases added : world.clock.add? span with
    | none => exact Instant.le_refl _
    | some later => exact Instant.le_of_add? passes added
  · rw [clock_answer request world fun span same => moves ⟨span, same⟩]
    exact Instant.le_refl _

/-- The book is kept through every request that passes the trigger by. -/
theorem Keeps.passes (keeps : world.Keeps trigger claimed executed) {request : Request}
    (passes : request.PassesBy trigger.id) :
    (answer request world).2.Keeps trigger claimed executed := by
  cases request with
  | now | fresh => exact keeps
  | outside own => exact ⟨keeps.calm, keeps.kept⟩
  | elapse span =>
    exact ⟨keeps.calm, fun unique => (keeps.kept unique).later (le_clock_answer passes world)⟩
  | tasks own =>
    refine keeps.tasks own fun _ id => ?_
    cases own with
    | push handler params options =>
      refine ⟨nofun, nofun, ?_⟩
      rintro _ _ _ _ _ ⟨⟩ handled named
      exact absurd named (passes handled)
    | claim | purge => exact ⟨nofun, nofun, nofun⟩
    | complete | fail | reschedule | reap => exact passes.elim
  | automate own =>
    refine ⟨automateHost.calm (.automate own) world keeps.calm, fun unique => ?_⟩
    have same := @ledger_still _ claimed executed _ (.automate own) trivial world
    have pushed : (answer (.automate own) world).2.pushed = world.pushed :=
      congrArg RunLedger.used same
    have kept := keeps.kept (pushed ▸ unique)
    rw [same]
    exact kept.spared (sameTrigger_answer passes world)
      (ascends_answer (.automate own) world kept.ascends)

/-! ### Carrying out a run -/

/-- Between two worlds the book is kept and the trigger is left alone. -/
structure KeepsAside (trigger : TimedTrigger) (claimed : List Task) (executed : List TaskId)
    (before after : World State) : Prop where
  keeps : after.Keeps trigger claimed executed
  same : SameTrigger trigger.id before.automate after.automate

theorem KeepsAside.answer {before after : World State}
    (aside : KeepsAside trigger claimed executed before after) {request : Request}
    (passes : request.PassesBy trigger.id) :
    KeepsAside trigger claimed executed before (answer request after).2 where
  keeps := aside.keeps.passes passes
  same :=
    have next := sameTrigger_answer passes after
    ⟨next.trigger.trans aside.same.trigger, next.history.trans aside.same.history⟩

theorem KeepsAside.run {before after : World State} {α : Type} {program : Program α}
    (aside : KeepsAside trigger claimed executed before after)
    (asks : program.Asks World.answer (Request.PassesBy trigger.id) after) :
    KeepsAside trigger claimed executed before (program.run World.answer after).2 :=
  asks.run (KeepsAside trigger claimed executed before)
    (fun _ _ passes aside => aside.answer passes) aside

/-- A request that only reads the store passes every trigger by. -/
theorem passesBy_of_reads (id : TriggerId) (request : AutomateRequest)
    (reads : ∀ store, (request.onStore store).2 = store) :
    Request.PassesBy id (.automate request) := fun store => .of_eq (reads store)

/-- Whatever is written about another trigger passes a trigger by. -/
theorem passesBy_appendHistory {id : TriggerId} {call : Call} (other : call.trigger ≠ id) :
    Request.PassesBy id (.automate (.appendHistory call)) := fun store =>
  ⟨rfl, store.historyOf_appendHistory_of_ne call other.symm⟩

theorem passesBy_saveTrigger {id : TriggerId} {saved : Trigger} (other : saved.id ≠ id) :
    Request.PassesBy id (.automate (.saveTrigger saved)) := fun store => .saveTrigger store other

open TriggerRunner

variable {runner : TriggerRunner} {id : TriggerId} {held : Trigger} {outcome : CallOutcome}
  {error : Option String} {last : World State}

theorem Keeps.to_begun (keeps : world.Keeps trigger claimed executed) (id : TriggerId) :
    KeepsAside trigger claimed executed world (begun World.answer id world) := by
  have aside : KeepsAside trigger claimed executed world world := ⟨keeps, .of_eq rfl⟩
  exact aside.answer (passesBy_of_reads trigger.id (.getTrigger id) fun _ => rfl)

/-- The steps of a run leave the trigger alone. -/
theorem Keeps.to_ended (keeps : world.Keeps trigger claimed executed)
    (steps : runner.StepsAsk (@answer State _) (Request.PassesBy trigger.id))
    {result : Option (Except StoreFault (CallOutcome × Option String))}
    (performed : (runner.perform id).run.run World.answer (begun World.answer id world) =
      (result, last)) : KeepsAside trigger claimed executed world last := by
  have lists : Request.PassesBy trigger.id (.automate (.conditions id)) ∧
      Request.PassesBy trigger.id (.automate (.actions id)) :=
    ⟨passesBy_of_reads _ _ fun _ => rfl, passesBy_of_reads _ _ fun _ => rfl⟩
  have ends := (keeps.to_begun id).run (asks_perform steps lists _)
  rw [performed] at ends
  exact ends

theorem Keeps.to_saving (keeps : last.Keeps trigger claimed executed) (other : id ≠ trigger.id) :
    (saving World.answer id outcome error last).Keeps trigger claimed executed := by
  have recording : (recording World.answer last).Keeps trigger claimed executed := keeps
  exact recording.passes (passesBy_appendHistory other)

theorem Keeps.to_closing (keeps : last.Keeps trigger claimed executed)
    (finds : Finds World.answer id world held) (other : id ≠ trigger.id) :
    (closing World.answer runner id held outcome error last).Keeps trigger claimed executed := by
  have hosted : Finds (@automateHost State _).answer id world held := finds
  have named : (written (@automateHost State _).answer runner held outcome last).id = id :=
    hosted.id_written last
  exact (keeps.to_saving other).passes (passesBy_saveTrigger (named.symm ▸ other))

/-- A run of another trigger passes the trigger by. -/
theorem Keeps.run_other (keeps : world.Keeps trigger claimed executed)
    (steps : runner.StepsAsk (@answer State _) (Request.PassesBy trigger.id))
    (other : id ≠ trigger.id) :
    ((runner.run id).run.run World.answer world).2.Keeps trigger claimed executed := by
  have ran := runs World.answer runner id world
  generalize (runner.run id).run.run World.answer world = result at ran
  obtain ⟨value, final⟩ := result
  cases ran with
  | unread | idle => exact (keeps.to_begun id).keeps
  | broken finds performed => exact (keeps.to_ended steps performed).keeps
  | unended finds performed => exact (keeps.to_ended steps performed).keeps
  | unrecorded judges refused => exact (keeps.to_ended steps judges.performed).keeps.to_saving other
  | unsaved judges appended refused =>
    exact (keeps.to_ended steps judges.performed).keeps.to_closing judges.toFinds other
  | recorded records =>
    exact (keeps.to_ended steps records.performed).keeps.to_closing records.toFinds other

/-- A run of the trigger that is recorded adds its entry to the book. -/
theorem Keeps.recorded (keeps : world.Keeps trigger claimed executed)
    (steps : runner.StepsAsk (@answer State _) (Request.PassesBy trigger.id)) {task : Task}
    (member : task ∈ claimed) (named : TriggerRun.parse task.params = .ok ⟨trigger.id⟩)
    (records : Records (@automateHost State _).answer runner trigger.id world held outcome error
      last) :
    (closing (@automateHost State _).answer runner trigger.id held outcome error last).Keeps trigger
      (claimed.filter fun other => other.id ≠ task.id) (task.id :: executed) := by
  have aside := keeps.to_ended steps records.performed
  have found : last.automate.trigger? trigger.id = some held :=
    aside.same.trigger.trans records.toFinds.found
  generalize closed : closing (@automateHost State _).answer runner trigger.id held outcome error
    last = final
  have calm : final.SparesAutomation := by
    rw [← closed]
    exact automateHost.calm (.automate _) _ (automateHost.calm (.automate _) last aside.keeps.calm)
  have ledger : final.ledger claimed executed =
      (last.ledger claimed executed).withStore final.automate := by
    rw [← closed]
    have still (own : AutomateRequest) : (Request.automate own).StandsStill := trivial
    refine (ledger_still (still _) _).trans ?_
    exact (congrArg (RunLedger.withStore · _) (ledger_still (still (.appendHistory
      (entry answer trigger.id outcome error last))) last)).trans rfl
  have used : final.pushed = last.pushed := congrArg RunLedger.used ledger
  have recorded := TriggerRunner.recordsRun records found
  rw [closed] at recorded
  refine ⟨calm, fun unique => ?_⟩
  have kept := aside.keeps.kept (used ▸ unique)
  have ascends : AutomateStore.Ascends final.automate.triggers := by
    rw [← closed]
    exact ascends_answer _ _ (ascends_answer (.automate _) last kept.ascends)
  have book := kept.recorded member named recorded rfl ascends
  show ((final.ledger claimed executed).carriedOut task).IsKept trigger
  rw [ledger]
  exact book

/-- A run of the trigger is carried out, whether it is recorded or not. -/
theorem Keeps.run_own (keeps : world.Keeps trigger claimed executed)
    (steps : runner.StepsAsk (@answer State _) (Request.PassesBy trigger.id)) {task : Task}
    (member : task ∈ claimed) (named : TriggerRun.parse task.params = .ok ⟨trigger.id⟩) :
    ((runner.run trigger.id).run.run answer world).2.Keeps trigger
      (claimed.filter fun other => other.id ≠ task.id) (task.id :: executed) := by
  have ran := runs (@automateHost State _).answer runner trigger.id world
  show ((runner.run trigger.id).run.run (@automateHost State _).answer world).2.Keeps trigger _ _
  generalize (runner.run trigger.id).run.run (@automateHost State _).answer world = result at ran
  obtain ⟨value, final⟩ := result
  cases ran with
  | unread | idle => exact (keeps.to_begun trigger.id).keeps.carriedOut member
  | broken finds performed => exact (keeps.to_ended steps performed).keeps.carriedOut member
  | unended finds performed => exact (keeps.to_ended steps performed).keeps.carriedOut member
  | recorded records => exact keeps.recorded steps member named records
  | unrecorded judges refused =>
    have calm := (keeps.to_ended steps judges.performed).keeps.calm
    exact absurd calm (automateHost.unchanged_of_error refused).2
  | unsaved judges appended refused =>
    have calm := (keeps.to_ended steps judges.performed).keeps.calm
    exact absurd (automateHost.calm (.automate _) _ calm) (automateHost.unchanged_of_error refused).2

/-- The handler of runs changes what the run of the trigger changes. -/
theorem perform_handler {task : Task} {run : TriggerRun} (now : Instant)
    (named : TriggerRun.parse task.params = .ok run) (world : World State) :
    (perform (runner.handler task now) world).2 = ((runner.run run.id).run.run answer world).2 := by
  unfold perform TriggerRunner.handler Handler.typed
  rw [named]
  refine (Program.state_run_bind _ (fun result _ => by cases result <;> rfl) world).trans ?_
  refine (Program.state_run_bind (Work.needingStore (runner.run run.id)).run ?_ world).trans ?_
  · rintro (failure | found) state
    · rfl
    · cases found <;> rfl
  · exact Program.state_run_bind _ (fun _ _ => rfl) world

/-- A claimed task is carried out. -/
theorem Keeps.executes (keeps : world.Keeps trigger claimed executed)
    (steps : runner.StepsAsk (@answer State _) (Request.PassesBy trigger.id)) {task : Task}
    (member : task ∈ claimed) (now : Instant) :
    (perform (runner.handler task now) world).2.Keeps trigger
      (claimed.filter fun other => other.id ≠ task.id) (task.id :: executed) := by
  cases named : TriggerRun.parse task.params with
  | error invalid =>
    unfold perform TriggerRunner.handler Handler.typed
    rw [named]
    exact keeps.carriedOut member
  | ok run =>
    rw [perform_handler now named]
    by_cases own : run.id = trigger.id
    · rw [own]
      exact keeps.run_own steps member (own ▸ named)
    · exact (keeps.run_other steps own).carriedOut member

end World

/-! ### Calls of the service -/

namespace AutomateService

variable {State : Type} {answer : (request : Request) → State → request.Reply × State}

theorem still_updateTrigger (service : AutomateService) (id : TriggerId) (update : TriggerUpdate)
    (state : State) : (service.updateTrigger id update).run.Asks answer Request.StandsStill state := by
  refine Work.asks_bind (asks_requireTrigger trivial state) fun held state => ?_
  refine Work.asks_bind (asks_changeKind (fun _ => trivial) _ _ _ _ state) fun kind state => ?_
  refine Work.asks_bind ⟨trivial, trivial⟩ fun now state => ?_
  exact Work.asks_bind ⟨trivial, trivial⟩ fun _ _ => trivial

theorem still_createTrigger (service : AutomateService) (wallet : WalletId) (name : String)
    (kind : TriggerKind) (state : State) :
    (service.createTrigger wallet name kind).run.Asks answer Request.StandsStill state := by
  refine Work.asks_bind trivial fun _ state => ?_
  refine Work.asks_bind (asks_subscribe (fun _ => trivial) kind state) fun held state => ?_
  refine Work.asks_bind ⟨trivial, trivial⟩ fun id state => ?_
  refine Work.asks_bind ⟨trivial, trivial⟩ fun now state => ?_
  exact Work.asks_bind ⟨trivial, trivial⟩ fun _ _ => trivial

end AutomateService

namespace World

variable {State : Type} [Outside State] {trigger : TimedTrigger} {claimed : List Task}
  {executed : List TaskId} {world : World State}

/-- Work that reaches no task queue and does not move the clock bears on the book by its store
alone. -/
theorem ledger_perform {α : Type} {program : Program α}
    (still : program.Asks answer Request.StandsStill world) :
    (perform program world).2.ledger claimed executed =
      (world.ledger claimed executed).withStore (perform program world).2.automate := by
  refine still.run (fun after => after.ledger claimed executed =
    (world.ledger claimed executed).withStore after.automate) (fun request after kind same => ?_) rfl
  rw [ledger_still kind, same]
  rfl

/-- The book is kept through every change of a trigger, if it leaves the kind of this one as it is. -/
theorem Keeps.updates (keeps : world.Keeps trigger claimed executed) (service : AutomateService)
    {id : TriggerId} {update : TriggerUpdate} (fixed : id = trigger.id → update.kind = none) :
    (perform (service.updateTrigger id update).run world).2.Keeps trigger claimed executed := by
  have same := @ledger_perform _ _ claimed executed world _ _
    (service.still_updateTrigger id update world)
  have calm : (perform (service.updateTrigger id update).run world).2.SparesAutomation :=
    automateHost.steady_run _ keeps.calm
  have pushed : (perform (service.updateTrigger id update).run world).2.pushed =
      world.pushed := congrArg RunLedger.used same
  refine ⟨calm, fun unique => ?_⟩
  have kept := keeps.kept (pushed ▸ unique)
  have leads : AutomateService.Saves world.automate _
      (perform (service.updateTrigger id update).run world).1
      (perform (service.updateTrigger id update).run world).2.automate :=
    AutomateService.leads_updateTrigger automateHost service id update world
  rw [same]
  generalize (perform (service.updateTrigger id update).run world).1 = result,
    (perform (service.updateTrigger id update).run world).2.automate = store at leads ⊢
  cases leads with
  | failed | unended => exact kept
  | saved changed fit =>
    obtain ⟨held, fits⟩ := fit
    have ascends := AutomateStore.ascends_insertTrigger changed kept.ascends
    by_cases own : id = trigger.id
    · rw [own] at fits
      have saved := world.automate.trigger?_saveTrigger_self changed
      rw [fits.id_eq] at saved
      exact kept.changed fits.found saved (fits.kind_eq (fixed own)) fits.lastCallAt_eq rfl ascends
    · exact kept.spared (.saveTrigger _ (fits.id_eq.symm ▸ own)) ascends

/-! ### Ticks -/

/-- A trigger that is to be run at a time has no entry in the hour of that time. -/
theorem isClear_of_isEligible {store : AutomateStore} {clock : Instant} {held : Trigger}
    (recalls : trigger.Recalls store clock held) (eligible : held.IsEligible trigger.zones clock) :
    trigger.IsClear store clock := by
  intro call recorded
  obtain ⟨last, called, ordered⟩ := recalls.latest call recorded
  obtain ⟨-, -, template, schedule, timed, compiled, -, new⟩ := eligible
  have own := trigger.compiled
  rw [← recalls.kind, timed, Option.map_some, compiled] at own
  obtain rfl := Except.ok.inj (Option.some.inj own)
  have apart : trigger.hour last ≠ trigger.hour clock := fun same =>
    new last called ((trigger.localHour_eq_iff last clock).mpr same)
  have reached := trigger.hour_mono ordered
  have passed := trigger.hour_mono (recalls.past last called)
  exact Int.lt_of_le_of_lt reached (Int.lt_iff_le_and_ne.mpr ⟨passed, apart⟩)

/-- The book is kept, and if the hour of the clock was free at first, it still is. -/
structure KeepsHour (trigger : TimedTrigger) (claimed : List Task) (executed : List TaskId)
    (free : Prop) (world : World State) : Prop where
  keeps : world.Keeps trigger claimed executed
  clear : free → world.pushed.Nodup → trigger.IsClear world.automate world.clock

theorem KeepsHour.answer {free : Prop} (hour : world.KeepsHour trigger claimed executed free)
    {request : Request} (fits : request.FitsHour trigger.id free) :
    (answer request world).2.KeepsHour trigger claimed executed free := by
  obtain passes | ⟨isFree, settings, rfl⟩ := fits
  · refine ⟨hour.keeps.passes passes, fun isFree unique => ?_⟩
    have before := unique.sublist (pushed_prefix_answer request world).sublist
    have same := (sameTrigger_answer passes world).history
    intro call recorded
    rw [same] at recorded
    exact (hour.clear isFree before).later (le_clock_answer passes world) call recorded
  · refine ⟨hour.keeps.tasks (.push _ _ _) fun unique id => ⟨nofun, nofun, ?_⟩,
      fun isFree unique => ?_⟩
    · rintro _ _ _ _ _ ⟨⟩ - -
      exact ⟨rfl, hour.clear isFree unique⟩
    · have before := unique.sublist (pushed_prefix_answer _ world).sublist
      obtain ⟨clock, store⟩ := aside_tasks _ world
      rw [RunSettings.runRequest, clock, store]
      exact hour.clear isFree before

/-- A tick queues a run of the trigger only if the hour is free. -/
theorem Keeps.ticks (keeps : world.Keeps trigger claimed executed) {settings : TickSettings}
    (zones : settings.zones = trigger.zones) (task : Task) :
    (perform (settings.handler task world.clock) world).2.Keeps trigger claimed executed := by
  have asks : (settings.handler task world.clock).Asks answer (Request.FitsHour trigger.id
      (world.pushed.Nodup → trigger.IsClear world.automate world.clock)) world := by
    refine TickSettings.asks_handler (Or.inl (passesBy_of_reads _ _ fun _ => rfl)) ?_
    intro triggers listed other due
    obtain ⟨looked, eligible⟩ := TickSettings.mem_due_iff.mp due
    have member := (settings.told_sublist world.clock triggers).subset looked
    by_cases own : other.id = trigger.id
    · refine Or.inr ⟨fun unique => ?_, settings.runs, own ▸ rfl⟩
      have known := (@automateHost State _).served_of_ok listed
      obtain ⟨held, recalls⟩ := (keeps.kept unique).recalls
      have same : triggers = world.automate.triggers := known.1
      rw [same] at member
      have found := AutomateStore.trigger?_of_mem (keeps.kept unique).ascends member
      rw [own] at found
      obtain rfl := Option.some.inj (found.symm.trans recalls.found)
      exact isClear_of_isEligible recalls (zones ▸ eligible)
    · exact Or.inl (settings.runs.passesBy_runRequest own)
  exact (asks.run (KeepsHour trigger claimed executed _) (fun _ _ fits hour => hour.answer fits)
    ⟨keeps, fun free => free⟩).keeps

end World

end TaskAutomation
