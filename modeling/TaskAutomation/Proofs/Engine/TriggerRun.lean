import TaskAutomation.Engine.TriggerRun
import TaskAutomation.Proofs.Engine.AutomateHost
import TaskAutomation.Proofs.Engine.Course

/-!
This file follows the run of a trigger. A run reads the trigger, takes its steps, and then writes
twice: an entry of the history and the trigger itself. All that a run can come to is listed once,
with the requests on the way, and from this it is said what the writes do to the store.
-/

namespace TaskAutomation

namespace TriggerRunner

variable {State : Type} (answer : (request : Request) → State → request.Reply × State)
  (runner : TriggerRunner) (id : TriggerId)

/-- The state in which a run begins with the steps. -/
def begun (state : State) : State := (answer (.automate (.getTrigger id)) state).2

/-- The entry that a run writes after its steps have ended in a state. -/
def entry (outcome : CallOutcome) (error : Option String) (ended : State) : Call :=
  ⟨⟨(answer (.fresh .call) (answer .now ended).2).1⟩, id, outcome, error, (answer .now ended).1⟩

/-- The state in which a run writes its entry. -/
def recording (ended : State) : State := (answer (.fresh .call) (answer .now ended).2).2

/-- The state in which a run writes its trigger back. -/
def saving (outcome : CallOutcome) (error : Option String) (ended : State) : State :=
  (answer (.automate (.appendHistory (entry answer id outcome error ended)))
    (recording answer ended)).2

/-- The trigger as a run writes it back. -/
def written (trigger : Trigger) (outcome : CallOutcome) (ended : State) : Trigger :=
  trigger.afterRun runner.maxRetries outcome (answer .now ended).1

/-- The state in which a run has written its trigger back. -/
def closing (trigger : Trigger) (outcome : CallOutcome) (error : Option String) (ended : State) :
    State :=
  (answer (.automate (.saveTrigger (written answer runner trigger outcome ended)))
    (saving answer id outcome error ended)).2

/-- A run finds a trigger to be active. -/
structure Finds (state : State) (trigger : Trigger) : Prop where
  read : (answer (.automate (.getTrigger id)) state).1 = .ok (some trigger)
  active : trigger.active = true

/-- A run finds a trigger to be active, and its steps end. -/
structure Judges (state : State) (trigger : Trigger) (outcome : CallOutcome)
    (error : Option String) (ended : State) : Prop extends Finds answer id state trigger where
  performed : (runner.perform id).run.run answer (begun answer id state) =
    (some (.ok (outcome, error)), ended)

/-- The run of an active trigger is recorded by two writes. -/
structure Records (state : State) (trigger : Trigger) (outcome : CallOutcome)
    (error : Option String) (ended : State) : Prop
    extends Judges answer runner id state trigger outcome error ended where
  appended : (answer (.automate (.appendHistory (entry answer id outcome error ended)))
    (recording answer ended)).1 = .ok ()
  saved : (answer (.automate (.saveTrigger (written answer runner trigger outcome ended)))
    (saving answer id outcome error ended)).1 = .ok ()

/-- All that the run of a trigger can come to, one request after the other. -/
inductive Runs (state : State) : Option (Except StoreFault (Option Call)) → State → Prop
  | unread {fault : StoreFault}
      (refused : (answer (.automate (.getTrigger id)) state).1 = .error fault) :
      Runs state (some (.error fault)) (begun answer id state)
  | idle {found : Option Trigger}
      (read : (answer (.automate (.getTrigger id)) state).1 = .ok found)
      (unfit : ∀ trigger ∈ found, trigger.active = false) :
      Runs state (some (.ok none)) (begun answer id state)
  | broken {trigger : Trigger} {fault : StoreFault} {ended : State}
      (finds : Finds answer id state trigger)
      (performed : (runner.perform id).run.run answer (begun answer id state) =
        (some (.error fault), ended)) :
      Runs state (some (.error fault)) ended
  | unended {trigger : Trigger} {ended : State} (finds : Finds answer id state trigger)
      (performed : (runner.perform id).run.run answer (begun answer id state) = (none, ended)) :
      Runs state none ended
  | unrecorded {trigger : Trigger} {outcome : CallOutcome} {error : Option String}
      {fault : StoreFault} {ended : State}
      (judges : Judges answer runner id state trigger outcome error ended)
      (refused : (answer (.automate (.appendHistory (entry answer id outcome error ended)))
        (recording answer ended)).1 = .error fault) :
      Runs state (some (.error fault)) (saving answer id outcome error ended)
  | unsaved {trigger : Trigger} {outcome : CallOutcome} {error : Option String}
      {fault : StoreFault} {ended : State}
      (judges : Judges answer runner id state trigger outcome error ended)
      (appended : (answer (.automate (.appendHistory (entry answer id outcome error ended)))
        (recording answer ended)).1 = .ok ())
      (refused : (answer (.automate (.saveTrigger (written answer runner trigger outcome ended)))
        (saving answer id outcome error ended)).1 = .error fault) :
      Runs state (some (.error fault)) (closing answer runner id trigger outcome error ended)
  | recorded {trigger : Trigger} {outcome : CallOutcome} {error : Option String} {ended : State}
      (records : Records answer runner id state trigger outcome error ended) :
      Runs state (some (.ok (some (entry answer id outcome error ended))))
        (closing answer runner id trigger outcome error ended)

/-- The run of a trigger goes on with the steps if it finds the trigger to be active. -/
theorem run_of_finds {trigger : Trigger} {state : State} (finds : Finds answer id state trigger) :
    (runner.run id).run.run answer state =
      Program.run answer (do
        let (outcome, error) ← runner.perform id
        let now ← Request.time
        let callId ← Request.freshId .call
        AutomateRequest.ask (.appendHistory ⟨callId, id, outcome, error, now⟩)
        AutomateRequest.ask (.saveTrigger (trigger.afterRun runner.maxRetries outcome now))
        return some (⟨callId, id, outcome, error, now⟩ : Call) :
          Work StoreFault (Option Call)).run (begun answer id state) := by
  refine (Work.run_bind (AutomateRequest.run_ask finds.read)).trans ?_
  show (if _ then _ else _ : Work StoreFault (Option Call)).run.run answer _ = _
  rw [if_neg (by rw [finds.active]; decide)]
  rfl

/-- A run whose steps have ended writes its entry and then its trigger. -/
theorem run_of_judges {trigger : Trigger} {outcome : CallOutcome} {error : Option String}
    {state ended : State} (judges : Judges answer runner id state trigger outcome error ended) :
    (runner.run id).run.run answer state =
      Program.run answer (do
        AutomateRequest.ask (.appendHistory (entry answer id outcome error ended))
        AutomateRequest.ask (.saveTrigger (written answer runner trigger outcome ended))
        return some (entry answer id outcome error ended) : Work StoreFault (Option Call)).run
        (recording answer ended) := by
  refine (run_of_finds answer runner id judges.toFinds).trans ?_
  refine (Work.run_bind judges.performed).trans ((Work.run_bind (Work.run_time ended)).trans ?_)
  exact Work.run_bind (Work.run_ofProgram rfl)

/-- A run that finds its trigger to be inactive does nothing. -/
theorem run_of_inactive {trigger : Trigger} {state : State}
    (read : (answer (.automate (.getTrigger id)) state).1 = .ok (some trigger))
    (inactive : trigger.active = false) :
    (runner.run id).run.run answer state = (some (.ok none), begun answer id state) := by
  refine (Work.run_bind (AutomateRequest.run_ask read)).trans ?_
  show (if _ then _ else _ : Work StoreFault (Option Call)).run.run answer _ = _
  rw [if_pos (by rw [inactive]; decide)]
  rfl

theorem runs_of_judges {trigger : Trigger} {outcome : CallOutcome} {error : Option String}
    {state ended : State} (judges : Judges answer runner id state trigger outcome error ended) :
    Runs answer runner id state ((runner.run id).run.run answer state).1
      ((runner.run id).run.run answer state).2 := by
  have writes := run_of_judges answer runner id judges
  cases appended : (answer (.automate (.appendHistory (entry answer id outcome error ended)))
      (recording answer ended)).1 with
  | error fault =>
    rw [writes.trans (Work.run_bind_error _ (AutomateRequest.run_ask appended))]
    exact .unrecorded judges appended
  | ok =>
    have saves := writes.trans (Work.run_bind (AutomateRequest.run_ask appended))
    cases saved : (answer (.automate (.saveTrigger (written answer runner trigger outcome ended)))
        (saving answer id outcome error ended)).1 with
    | error fault =>
      rw [saves.trans (Work.run_bind_error _ (AutomateRequest.run_ask saved))]
      exact .unsaved judges appended saved
    | ok =>
      rw [saves.trans (Work.run_bind (AutomateRequest.run_ask saved))]
      exact .recorded ⟨judges, appended, saved⟩

/-- A run comes to one of these ends. -/
theorem runs (state : State) :
    Runs answer runner id state ((runner.run id).run.run answer state).1
      ((runner.run id).run.run answer state).2 := by
  cases read : (answer (.automate (.getTrigger id)) state).1 with
  | error fault =>
    have ran : (runner.run id).run.run answer state = (some (.error fault), begun answer id state) :=
      Work.run_bind_error _ (AutomateRequest.run_ask read)
    rw [ran]
    exact .unread read
  | ok found =>
    cases found with
    | none =>
      have ran : (runner.run id).run.run answer state = (some (.ok none), begun answer id state) :=
        Work.run_bind (AutomateRequest.run_ask read)
      rw [ran]
      exact .idle read nofun
    | some trigger =>
      cases active : trigger.active with
      | false =>
        rw [run_of_inactive answer runner id read active]
        exact .idle read fun _ same => Option.some.inj same ▸ active
      | true =>
        have finds : Finds answer id state trigger := ⟨read, active⟩
        cases performed : (runner.perform id).run.run answer (begun answer id state) with
        | mk result ended =>
          match result with
          | none =>
            rw [(run_of_finds answer runner id finds).trans (Work.run_bind_unended _ performed)]
            exact .unended finds performed
          | some (.error fault) =>
            rw [(run_of_finds answer runner id finds).trans (Work.run_bind_error _ performed)]
            exact .broken finds performed
          | some (.ok (outcome, error)) =>
            exact runs_of_judges answer runner id ⟨finds, performed⟩

end TriggerRunner

/-! ### Steps that leave the store alone -/

/-- The handlers of a registry do nothing to an automation store but read it. -/
def Registry.LeavesStore {State Kind α : Type} (registry : Registry Kind (StepHandler α))
    (answer : (request : Request) → State → request.Reply × State) : Prop :=
  ∀ entry ∈ registry.entries, ∀ params state,
    (entry.2.perform params).run.Asks answer Request.LeavesStore state

/-- The steps of triggers do nothing to an automation store but read it. -/
structure TriggerRunner.LeavesStore {State : Type} (runner : TriggerRunner)
    (answer : (request : Request) → State → request.Reply × State) : Prop where
  conditions : runner.conditions.LeavesStore answer
  actions : runner.actions.LeavesStore answer

/-- The steps of triggers make only requests of a kind. -/
structure TriggerRunner.StepsAsk {State : Type} (runner : TriggerRunner)
    (answer : (request : Request) → State → request.Reply × State) (kind : Request → Prop) :
    Prop where
  conditions : ∀ entry ∈ runner.conditions.entries, ∀ params state,
    (entry.2.perform params).run.Asks answer kind state
  actions : ∀ entry ∈ runner.actions.entries, ∀ params state,
    (entry.2.perform params).run.Asks answer kind state

section

variable {State : Type} {answer : (request : Request) → State → request.Reply × State}
  {kind : Request → Prop}

theorem Registry.asks_performStep {record : IdKind} {Kind α : Type} [BEq Kind] [LawfulBEq Kind]
    {registry : Registry Kind (StepHandler α)}
    (asks : ∀ entry ∈ registry.entries, ∀ params state,
      (entry.2.perform params).run.Asks answer kind state)
    (name : Kind → String) (step : Step record Kind) (state : State) :
    (registry.performStep name step).run.Asks answer kind state := by
  unfold Registry.performStep Registry.resolve
  split
  · next handler found => exact asks _ (mem_of_find? found) step.params state
  · trivial

end

namespace TriggerRunner

variable {State : Type} {answer : (request : Request) → State → request.Reply × State}
  {runner : TriggerRunner} {kind : Request → Prop}

theorem LeavesStore.stepsAsk (leaves : runner.LeavesStore answer) :
    runner.StepsAsk answer Request.LeavesStore := ⟨leaves.conditions, leaves.actions⟩

theorem asks_askAll (steps : runner.StepsAsk answer kind) (conditions : List Condition)
    (state : State) : (runner.askAll conditions).Asks answer kind state := by
  induction conditions generalizing state with
  | nil => trivial
  | cons condition rest inductionHypothesis =>
    refine Program.Asks.bind (Registry.asks_performStep steps.conditions _ condition state)
      fun result state => ?_
    match result with
    | .ok true => exact inductionHypothesis state
    | .ok false | .error _ => trivial

theorem asks_doAll (steps : runner.StepsAsk answer kind) (actions : List Action)
    (state : State) : (runner.doAll actions).Asks answer kind state := by
  induction actions generalizing state with
  | nil => trivial
  | cons action rest inductionHypothesis =>
    refine Program.Asks.bind (Registry.asks_performStep steps.actions _ action state)
      fun result state => ?_
    match result with
    | .ok () => exact inductionHypothesis state
    | .error _ => trivial

/-- Apart from what its steps ask for, a run lists them. -/
theorem asks_perform (steps : runner.StepsAsk answer kind) {id : TriggerId}
    (lists : kind (.automate (.conditions id)) ∧ kind (.automate (.actions id))) (state : State) :
    (runner.perform id).run.Asks answer kind state := by
  refine Work.asks_bind ⟨lists.1, trivial⟩ fun conditions state => ?_
  refine Work.asks_bind (Work.asks_ofProgram (asks_askAll steps conditions state))
    fun result state => ?_
  match result with
  | some _ => trivial
  | none =>
    refine Work.asks_bind ⟨lists.2, trivial⟩ fun actions state => ?_
    exact Work.asks_ofProgram (asks_doAll steps actions state)

/-- Steps that leave the store alone leave it as the run has found it. -/
theorem store_perform (host : AutomateHost State) (leaves : runner.LeavesStore host.answer)
    {id : TriggerId} {state ended : State}
    {result : Option (Except StoreFault (CallOutcome × Option String))}
    (performed : (runner.perform id).run.run host.answer state = (result, ended)) :
    host.store ended = host.store state := by
  have lists : Request.LeavesStore (.automate (.conditions id)) ∧
      Request.LeavesStore (.automate (.actions id)) :=
    ⟨AutomateRequest.leavesStore fun _ => rfl, AutomateRequest.leavesStore fun _ => rfl⟩
  have same := host.store_run_of_leaves (asks_perform leaves.stepsAsk lists state)
  rw [performed] at same
  exact same

/-! ### What the writes do -/

theorem lastCallAt_afterRun (trigger : Trigger) (maxRetries : Nat) (outcome : CallOutcome)
    (now : Instant) : (trigger.afterRun maxRetries outcome now).lastCallAt = some now := by
  unfold Trigger.afterRun
  split <;> rfl

theorem id_afterRun (trigger : Trigger) (maxRetries : Nat) (outcome : CallOutcome)
    (now : Instant) : (trigger.afterRun maxRetries outcome now).id = trigger.id := by
  unfold Trigger.afterRun
  split <;> rfl

theorem kind_afterRun (trigger : Trigger) (maxRetries : Nat) (outcome : CallOutcome)
    (now : Instant) : (trigger.afterRun maxRetries outcome now).kind = trigger.kind := by
  unfold Trigger.afterRun
  split <;> rfl

theorem name_afterRun (trigger : Trigger) (maxRetries : Nat) (outcome : CallOutcome)
    (now : Instant) : (trigger.afterRun maxRetries outcome now).name = trigger.name := by
  unfold Trigger.afterRun
  split <;> rfl

variable {host : AutomateHost State} {runner : TriggerRunner} {id : TriggerId} {trigger : Trigger}
  {outcome : CallOutcome} {error : Option String} {state ended : State}

/-- Asking for the time and for an identifier leaves the store alone. -/
theorem store_recording (host : AutomateHost State) (ended : State) :
    host.store (recording host.answer ended) = host.store ended := by
  have time : ∀ own, Request.now ≠ .automate own := fun _ same => by cases same
  have call : ∀ own, Request.fresh .call ≠ .automate own := fun _ same => by cases same
  exact (host.spares (.fresh .call) _ call).trans (host.spares .now ended time)

theorem store_saving
    (appended : (host.answer (.automate (.appendHistory (entry host.answer id outcome error ended)))
      (recording host.answer ended)).1 = .ok ()) :
    host.store (saving host.answer id outcome error ended) =
      (host.store ended).appendHistory (entry host.answer id outcome error ended) := by
  rw [saving, (host.served_of_ok appended).2, store_recording]
  rfl

theorem store_closing
    (records : Records host.answer runner id state trigger outcome error ended) :
    host.store (closing host.answer runner id trigger outcome error ended) =
      ((host.store ended).appendHistory (entry host.answer id outcome error ended)).saveTrigger
        (written host.answer runner trigger outcome ended) := by
  rw [closing, (host.served_of_ok records.saved).2, store_saving records.appended]
  rfl

theorem Finds.found (finds : Finds host.answer id state trigger) :
    (host.store state).trigger? id = some trigger :=
  (host.served_of_ok finds.read).1.symm

theorem Finds.id_written (finds : Finds host.answer id state trigger) (ended : State) :
    (written host.answer runner trigger outcome ended).id = id :=
  (id_afterRun _ _ _ _).trans (AutomateStore.id_of_trigger? finds.found)

theorem store_begun (host : AutomateHost State) (id : TriggerId) (state : State) :
    host.store (begun host.answer id state) = host.store state :=
  host.store_answer_of_leaves (AutomateRequest.leavesStore fun _ => rfl) state

/-- Steps that leave the store alone leave it as it was before the run. -/
theorem store_ended {result : Option (Except StoreFault (CallOutcome × Option String))}
    (performed : (runner.perform id).run.run host.answer (begun host.answer id state) =
      (result, ended)) (leaves : runner.LeavesStore host.answer) :
    host.store ended = host.store state :=
  (store_perform host leaves performed).trans (store_begun host id state)

/-- A run of a stored trigger comes to an entry of its history. -/
structure Enters (host : AutomateHost State) (runner : TriggerRunner) (id : TriggerId) (state : State)
    (held : Trigger) (call : Call) : Prop where
  found : (host.store state).trigger? id = some held
  own : call.trigger = id
  performed : ∃ ended, (runner.perform id).run.run host.answer (begun host.answer id state) =
    (some (.ok (call.outcome, call.error)), ended)

/-- What a run of a trigger may write to a store, whichever calls of it are refused. -/
inductive Writes (host : AutomateHost State) (runner : TriggerRunner) (id : TriggerId)
    (state : State) : AutomateStore → Prop
  | nothing : Writes host runner id state (host.store state)
  | entry (held : Trigger) (call : Call) (enters : Enters host runner id state held call) :
      Writes host runner id state ((host.store state).appendHistory call)
  | both (held : Trigger) (call : Call) (enters : Enters host runner id state held call) :
      Writes host runner id state (((host.store state).appendHistory call).saveTrigger
        (held.afterRun runner.maxRetries call.outcome call.createdAt))

theorem Judges.enters (judges : Judges host.answer runner id state trigger outcome error ended) :
    Enters host runner id state trigger (entry host.answer id outcome error ended) :=
  ⟨judges.found, rfl, ended, judges.performed⟩

theorem Runs.writes {value : Option (Except StoreFault (Option Call))} {final : State}
    (ran : Runs host.answer runner id state value final) (leaves : runner.LeavesStore host.answer) :
    Writes host runner id state (host.store final) := by
  cases ran with
  | unread | idle =>
    rw [store_begun host id state]
    exact .nothing
  | broken finds performed | unended finds performed =>
    rw [store_ended performed leaves]
    exact .nothing
  | unrecorded judges refused =>
    rw [saving, (host.unchanged_of_error refused).1, store_recording,
      store_ended judges.performed leaves]
    exact .nothing
  | unsaved judges appended refused =>
    rw [closing, (host.unchanged_of_error refused).1, store_saving appended,
      store_ended judges.performed leaves]
    exact .entry _ _ judges.enters
  | recorded records =>
    rw [store_closing records, store_ended records.performed leaves]
    exact .both _ _ records.enters

/-- Apart from what its steps ask for, a run reads the trigger, asks for the time and for an
identifier, and writes. -/
theorem asks_run {answer : (request : Request) → State → request.Reply × State}
    {kind : Request → Prop} (steps : runner.StepsAsk answer kind)
    (store : ∀ own, kind (.automate own)) (time : kind .now) (fresh : kind (.fresh .call))
    (state : State) : (runner.run id).run.Asks answer kind state := by
  refine Work.asks_bind ⟨store _, trivial⟩ fun found state => ?_
  cases found with
  | none => trivial
  | some trigger =>
    show (if _ then _ else _ : Work StoreFault (Option Call)).run.Asks answer kind state
    split
    · trivial
    · refine Work.asks_bind (asks_perform steps ⟨store _, store _⟩ state) fun result state => ?_
      refine Work.asks_bind ⟨time, trivial⟩ fun now state => ?_
      refine Work.asks_bind ⟨fresh, trivial⟩ fun call state => ?_
      refine Work.asks_bind ⟨store _, trivial⟩ fun _ state => ?_
      exact Work.asks_bind ⟨store _, trivial⟩ fun _ _ => trivial

end TriggerRunner

end TaskAutomation
