import TaskAutomation.Proofs.Engine.TriggerRun
import TaskAutomation.Proofs.Engine.TriggerSteps

/-!
This file proves what the run of a trigger does as long as no call of the store fails. A trigger that
does not exist or is switched off is left alone. Otherwise the steps take a course, and the run is
recorded with what the course has come to: one entry of the history and the bookkeeping of the
trigger, and nothing else.
-/

namespace TaskAutomation

namespace TriggerRunner

variable {State : Type}

section

variable (host : AutomateHost State) (runner : TriggerRunner) (id : TriggerId)
  (state : State)

/-- There was nothing to run, and the run did nothing but look. -/
structure Idles : Prop where
  unfit : ∀ trigger, (host.store state).trigger? id = some trigger → trigger.active = false
  returned : host.perform (runner.run id).run state =
    (some (.ok none), host.after (.getTrigger id) state)
  unchanged : host.store (host.after (.getTrigger id) state) = host.store state

/-- An active trigger was run. Its steps took a course, then the run was recorded, and nothing else
was done. -/
structure Completes (trigger : Trigger) (outcome : CallOutcome) (error : Option String)
    (ended : State) (call : Call) (final : State) : Prop where
  found : (host.store state).trigger? id = some trigger
  active : trigger.active = true
  course : runner.Course host id (host.after (.getTrigger id) state) (some (outcome, error)) ended
  returned : host.perform (runner.run id).run state = (some (.ok (some call)), final)
  entry : call.trigger = id ∧ call.outcome = outcome ∧ call.error = error ∧
    call.createdAt = (host.answer .now ended).1
  explained : call.error.isSome = true ↔ outcome = .notFired ∨ outcome = .failed
  /-- What the steps have done to the store stands, and steps that do nothing but read it have done
  nothing. -/
  spared : runner.LeavesStore host.answer → host.store ended = host.store state
  history : (host.store final).history = (host.store ended).history ++ [call]
  saved : (host.store final).trigger? id =
    some (trigger.afterRun runner.maxRetries outcome call.createdAt)
  called : ((host.store final).trigger? id).bind Trigger.lastCallAt = some call.createdAt
  otherTriggers : (host.store final).triggers.filter (fun other => other.id ≠ id) =
    (host.store ended).triggers.filter fun other => other.id ≠ id
  otherHistory : ∀ other, other ≠ id →
    (host.store final).historyOf other = (host.store ended).historyOf other
  conditions : (host.store final).conditions = (host.store ended).conditions
  actions : (host.store final).actions = (host.store ended).actions

/-- An active trigger was run, and one of its steps never ended. Nothing was recorded. -/
structure Stalls (trigger : Trigger) (ended : State) : Prop where
  found : (host.store state).trigger? id = some trigger
  active : trigger.active = true
  course : runner.Course host id (host.after (.getTrigger id) state) none ended
  unreturned : host.perform (runner.run id).run state = (none, ended)
  spared : runner.LeavesStore host.answer → host.store ended = host.store state

end

section

variable {host : AutomateHost State} {runner : TriggerRunner} {id : TriggerId} {trigger : Trigger}
  {outcome : CallOutcome} {error : Option String} {state ended : State}

/-- Both writes of a run together change the history and the record of its own trigger and nothing
else. -/
theorem Records.completes
    (records : Records host.answer runner id state trigger outcome error ended)
    (course : runner.Course host id (begun host.answer id state) (some (outcome, error)) ended)
    (returned : host.perform (runner.run id).run state =
      (some (.ok (some (entry host.answer id outcome error ended))),
        closing host.answer runner id trigger outcome error ended)) :
    runner.Completes host id state trigger outcome error ended
      (entry host.answer id outcome error ended)
      (closing host.answer runner id trigger outcome error ended) := by
  have store := store_closing records
  have own : (written host.answer runner trigger outcome ended).id = id :=
    records.id_written ended
  have saved := AutomateStore.trigger?_saveTrigger_self
    ((host.store ended).appendHistory (entry host.answer id outcome error ended))
    (written host.answer runner trigger outcome ended)
  have others := AutomateStore.triggers_saveTrigger_ne
    ((host.store ended).appendHistory (entry host.answer id outcome error ended))
    (written host.answer runner trigger outcome ended)
  rw [← store, own] at saved others
  exact {
    found := records.found
    active := records.active
    course, returned, saved
    entry := ⟨rfl, rfl, rfl, rfl⟩
    explained := course.isSome_error_iff
    spared := store_ended records.performed
    history := by rw [store]; rfl
    called := by rw [saved]; exact lastCallAt_afterRun _ _ _ _
    otherTriggers := others
    otherHistory := fun other different => by
      rw [store]
      exact AutomateStore.historyOf_appendHistory_of_ne _ _ different
    conditions := by rw [store]; rfl
    actions := by rw [store]; rfl }

end

/-- As long as no call of the store is about to fail, a run either finds nothing to do and does
nothing, or it takes the steps of the trigger in their order up to the first that does not pass and
records what came of it, or a step never ends. A step without a handler or with params that are
refused does not pass. -/
theorem takes_steps_in_order (host : AutomateHost State) (runner : TriggerRunner) (id : TriggerId)
    {state : State} (steady : host.Steady state) :
    (runner.Idles host id state ∨
      (∃ trigger outcome error ended call final,
        runner.Completes host id state trigger outcome error ended call final) ∨
      ∃ trigger ended, runner.Stalls host id state trigger ended) ∧
    runner.conditions.FailsUnfit host.answer ConditionKind.name ∧
    runner.actions.FailsUnfit host.answer ActionKind.name := by
  refine ⟨?_, Registry.failsUnfit _ _ _, Registry.failsUnfit _ _ _⟩
  -- No call is about to fail, all along the run.
  have accepts {request : AutomateRequest} {fault : StoreFault} {state : State}
      (steady : host.Steady state) : (host.answer (.automate request) state).1 ≠ .error fault :=
    fun refused => (host.unchanged_of_error refused).2 steady
  have calm : host.Steady (begun host.answer id state) := host.calm _ state steady
  obtain ⟨judged, ended, course, performs⟩ := exists_course runner id calm
  have still : host.Steady (recording host.answer ended) := by
    have still := host.steady_run (runner.perform id).run calm
    rw [show (runner.perform id).run.run host.answer _ = _ from performs] at still
    exact host.calm _ _ (host.calm _ _ still)
  have ran := runs host.answer runner id state
  generalize returned : (runner.run id).run.run host.answer state = result at ran
  obtain ⟨value, final⟩ := result
  cases ran with
  | unread refused => exact absurd refused (accepts steady)
  | idle read unfit =>
    have found := (host.served_of_ok read).1
    exact Or.inl ⟨fun trigger same => unfit trigger (found.trans same), returned,
      store_begun host id state⟩
  | broken finds performed => cases judged <;> cases performs.symm.trans performed
  | unended finds performed =>
    cases judged <;> cases performs.symm.trans performed
    exact Or.inr (Or.inr ⟨_, _, finds.found, finds.active, course, returned,
      store_ended performed⟩)
  | unrecorded judges refused =>
    cases judged <;> cases performs.symm.trans judges.performed
    exact absurd refused (accepts still)
  | unsaved judges appended refused =>
    cases judged <;> cases performs.symm.trans judges.performed
    exact absurd refused (accepts (host.calm _ _ still))
  | recorded records =>
    cases judged <;> cases performs.symm.trans records.performed
    exact Or.inr (Or.inl ⟨_, _, _, _, _, _, records.completes course returned⟩)

/-- A world with a trigger that has a condition and an action. -/
def busyWorld : World Logging := .holding {
  triggers := [Trigger.new ⟨.ofNat 1⟩ ⟨.ofNat 1⟩ "busy" .everyHour ⟨0, 0⟩]
  conditions := [Step.new ⟨.ofNat 1⟩ ⟨.ofNat 1⟩ .contractMetric (.list []) 0 ⟨0, 0⟩]
  actions := [Step.new ⟨.ofNat 1⟩ ⟨.ofNat 1⟩ .notification (.list []) 0 ⟨0, 0⟩]
  history := [] }

/-- The condition holds, and the action cannot be done. -/
def busyRunner : TriggerRunner where
  conditions := ⟨[(.contractMetric, ⟨fun _ => .ok (), fun _ => Work.ofExcept (.ok true)⟩)]⟩
  actions := ⟨[(.notification,
    ⟨fun _ => .ok (), fun _ => Work.ofExcept (.error (.transient "busy"))⟩)]⟩
  maxRetries := 5

theorem takes_steps_in_order_busy :
    World.automateHost.Steady busyWorld ∧ ∃ trigger error ended call final,
      busyRunner.Completes World.automateHost ⟨.ofNat 1⟩ busyWorld trigger .failed error ended call
        final := by
  have steady : World.automateHost.Steady busyWorld := fun _ => rfl
  refine ⟨steady, ?_⟩
  have ran : ((World.automateHost.perform (busyRunner.run ⟨.ofNat 1⟩).run busyWorld).1.bind
      fun result => result.toOption.join.map Call.outcome) = some .failed := by decide +kernel
  obtain idles | ⟨trigger, outcome, error, ended, call, final, completes⟩ | ⟨trigger, ended, stalls⟩ :=
    (takes_steps_in_order World.automateHost busyRunner ⟨.ofNat 1⟩ steady).1
  · rw [idles.returned] at ran
    cases ran
  · rw [completes.returned] at ran
    obtain rfl := completes.entry.2.1.symm.trans (Option.some.inj ran)
    exact ⟨trigger, error, ended, call, final, completes⟩
  · rw [stalls.unreturned] at ran
    cases ran

end TriggerRunner

end TaskAutomation
