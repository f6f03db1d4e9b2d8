import TaskAutomation.Engine.Simulated
import TaskAutomation.Proofs.Automation.Store
import TaskAutomation.Proofs.Engine.Underway

/-!
This file is about where programs reach an automation store. A host is any way of answering requests
in which a request to the store is either served, which does to the store what the request says, or
refused, which does nothing to it, and no other request touches the store. What only reads the store
leaves it as it is, and so does every run that does nothing else to it. A world is such a host, and
it refuses nothing as long as no fault is planned for its automation store.
-/

namespace TaskAutomation

/-- What a request does to a store, with the result it gives. -/
def AutomateRequest.onStore :
    (request : AutomateRequest) → AutomateStore → request.Result × AutomateStore
  | getTrigger id, store => (store.trigger? id, store)
  | listTriggers, store => (store.triggers, store)
  | saveTrigger trigger, store => ((), store.saveTrigger trigger)
  | deleteTrigger id, store => store.deleteTrigger id
  | conditions trigger, store => (store.conditionsOf trigger, store)
  | getCondition id, store => (Step.find? store.conditions id, store)
  | saveCondition condition, store => ((), store.saveCondition condition)
  | deleteCondition id, store => store.deleteCondition id
  | actions trigger, store => (store.actionsOf trigger, store)
  | getAction id, store => (Step.find? store.actions id, store)
  | saveAction action, store => ((), store.saveAction action)
  | deleteAction id, store => store.deleteAction id
  | appendHistory call, store => ((), store.appendHistory call)
  | history trigger, store => (store.historyOf trigger, store)

/-- The request changes no automation store. -/
def Request.LeavesStore (request : Request) : Prop :=
  ∀ own, request = .automate own → ∀ store, (own.onStore store).2 = store

namespace AutomateRequest

variable {State : Type} {answer : (request : Request) → State → request.Reply × State}
  {request : AutomateRequest}

theorem run_ask {state : State} {reply : Except StoreFault request.Result}
    (replied : (answer (.automate request) state).1 = reply) :
    request.ask.run.run answer state = (some reply, (answer (.automate request) state).2) :=
  congrArg (fun reply => (some reply, _)) replied

/-- A request that only reads the store changes none. -/
theorem leavesStore (reads : ∀ store, (request.onStore store).2 = store) :
    Request.LeavesStore (.automate request) := by
  rintro _ ⟨⟩
  exact reads

end AutomateRequest

/-- Where programs reach an automation store. The time and everything else may be answered in any
way. -/
structure AutomateHost (State : Type) where
  answer : (request : Request) → State → request.Reply × State
  store : State → AutomateStore
  /-- No call of the store is about to fail. -/
  Steady : State → Prop
  answers : ∀ (request : AutomateRequest) state,
    (answer (.automate request) state).1 = .ok (request.onStore (store state)).1 ∧
        store (answer (.automate request) state).2 = (request.onStore (store state)).2 ∨
      ∃ fault, (answer (.automate request) state).1 = .error fault ∧
        store (answer (.automate request) state).2 = store state ∧ ¬ Steady state
  spares : ∀ (request : Request) state, (∀ own, request ≠ .automate own) →
    store (answer request state).2 = store state
  calm : ∀ request state, Steady state → Steady (answer request state).2

namespace AutomateHost

variable {State α : Type} (host : AutomateHost State) {state : State}

/-- Runs a program, when nothing else goes on. -/
def perform (program : Program α) (state : State) : Option α × State :=
  program.run host.answer state

/-- A request is served if no call is about to fail. -/
theorem serves (steady : host.Steady state) (request : AutomateRequest) :
    (host.answer (.automate request) state).1 = .ok (request.onStore (host.store state)).1 ∧
      host.store (host.answer (.automate request) state).2 =
        (request.onStore (host.store state)).2 := by
  obtain served | ⟨fault, refused, same, unsteady⟩ := host.answers request state
  · exact served
  · exact absurd steady unsteady

/-- A request that was not refused has done to the store what it says. -/
theorem served_of_ok {request : AutomateRequest} {result : request.Result}
    (ok : (host.answer (.automate request) state).1 = .ok result) :
    result = (request.onStore (host.store state)).1 ∧
      host.store (host.answer (.automate request) state).2 =
        (request.onStore (host.store state)).2 := by
  obtain ⟨served, store⟩ | ⟨fault, refused, -⟩ := host.answers request state
  · exact ⟨Except.ok.inj (ok.symm.trans served), store⟩
  · cases ok.symm.trans refused

/-- A request that was refused has done nothing to the store, and some call was about to fail. -/
theorem unchanged_of_error {request : AutomateRequest} {fault : StoreFault}
    (refused : (host.answer (.automate request) state).1 = .error fault) :
    host.store (host.answer (.automate request) state).2 = host.store state ∧
      ¬ host.Steady state := by
  obtain ⟨served, -⟩ | ⟨_, -, same⟩ := host.answers request state
  · cases refused.symm.trans served
  · exact same

theorem store_answer_of_leaves {request : Request} (leaves : request.LeavesStore) (state : State) :
    host.store (host.answer request state).2 = host.store state := by
  by_cases own : ∃ own, request = .automate own
  · obtain ⟨own, rfl⟩ := own
    obtain ⟨-, served⟩ | ⟨fault, -, same, -⟩ := host.answers own state
    · exact served.trans (leaves own rfl _)
    · exact same
  · exact host.spares request state fun other same => own ⟨other, same⟩

/-- A run that changes nothing in the store leaves it as it is. -/
theorem store_run_of_leaves {program : Program α}
    (asks : program.Asks host.answer Request.LeavesStore state) :
    host.store (program.run host.answer state).2 = host.store state :=
  asks.run (fun changed => host.store changed = host.store state)
    (fun _ changed leaves same => (host.store_answer_of_leaves leaves changed).trans same) rfl

theorem steady_run (program : Program α) (steady : host.Steady state) :
    host.Steady (program.run host.answer state).2 := by
  induction program generalizing state with
  | pure a => exact steady
  | call request next inductionHypothesis =>
    exact inductionHypothesis _ (host.calm request state steady)
  | sleep delay next inductionHypothesis => exact inductionHypothesis steady
  | hang => exact steady
  | panic message => exact steady

end AutomateHost

namespace World

variable {State : Type}

/-- No operation of the automation store is planned to fail. -/
def SparesAutomation (world : World State) : Prop :=
  ∀ request : AutomateRequest, world.faults.verdicts request.gate = []

theorem answerAutomate_eq (world : World State) (request : AutomateRequest) :
    (world.answerAutomate request).1 = (request.onStore world.automate).1 ∧
      (world.answerAutomate request).2.automate = (request.onStore world.automate).2 ∧
      (world.answerAutomate request).2.faults = world.faults := by
  cases request <;> exact ⟨rfl, rfl, rfl⟩

theorem answerTasks_spares (world : World State) (request : TaskRequest) :
    (world.answerTasks request).2.automate = world.automate ∧
      (world.answerTasks request).2.faults = world.faults := by
  cases request <;> exact ⟨rfl, rfl⟩

theorem automate_takeFault (world : World State) (gate : StoreGate) :
    (world.takeFault gate).2.automate = world.automate := rfl

theorem takeFault_of_free (world : World State) {gate : StoreGate}
    (free : world.faults.verdicts gate = []) : world.takeFault gate = (none, world) := by
  simp only [takeFault, FaultPlan.take, free]

variable [Outside State]

theorem answers_automate (request : AutomateRequest) (world : World State) :
    (answer (.automate request) world).1 = .ok (request.onStore world.automate).1 ∧
        (answer (.automate request) world).2.automate = (request.onStore world.automate).2 ∨
      ∃ fault, (answer (.automate request) world).1 = .error fault ∧
        (answer (.automate request) world).2.automate = world.automate ∧
        ¬ world.SparesAutomation := by
  have same := world.automate_takeFault request.gate
  simp only [answer]
  split
  · next why changed verdict =>
    rw [verdict] at same
    refine Or.inr ⟨_, rfl, same, fun spares => ?_⟩
    rw [world.takeFault_of_free (spares request)] at verdict
    cases verdict
  · next changed verdict =>
    rw [verdict] at same
    obtain ⟨result, store, -⟩ := changed.answerAutomate_eq request
    rw [← same]
    exact Or.inl ⟨congrArg _ result, store⟩

/-- No request to another part of the world touches the automation store or the faults that are
planned for it. -/
theorem answer_foreign {request : Request} (foreign : ∀ own, request ≠ .automate own)
    (world : World State) :
    (answer request world).2.automate = world.automate ∧
      ∀ own : AutomateRequest, (answer request world).2.faults.verdicts own.gate =
        world.faults.verdicts own.gate := by
  cases request with
  | now | elapse | fresh | outside => exact ⟨rfl, fun _ => rfl⟩
  | automate own => exact absurd rfl (foreign own)
  | tasks own =>
    have same := world.automate_takeFault own.gate
    have verdicts (other : AutomateRequest) :=
      world.verdicts_takeFault (gate_tasks_ne own other).symm
    simp only [answer]
    split
    · next verdict =>
      rw [verdict] at same verdicts
      exact ⟨same, verdicts⟩
    · next changed verdict =>
      rw [verdict] at same verdicts
      obtain ⟨store, faults⟩ := changed.answerTasks_spares own
      exact ⟨store.trans same, fun other => by rw [faults]; exact verdicts other⟩

/-- A world hosts its automation store. -/
def automateHost : AutomateHost (World State) where
  answer := answer
  store := automate
  Steady := SparesAutomation
  answers := answers_automate
  spares request world foreign := (answer_foreign foreign world).1
  calm request world steady := by
    by_cases own : ∃ own, request = .automate own
    · obtain ⟨own, rfl⟩ := own
      simp only [answer, world.takeFault_of_free (steady own)]
      intro other
      rw [(world.answerAutomate_eq own).2.2]
      exact steady other
    · have foreign := (answer_foreign (fun other same => own ⟨other, same⟩) world).2
      exact fun other => (foreign other).trans (steady other)

/-- A world that holds an automation store and nothing else. -/
def holding (store : AutomateStore) : World Logging where
  clock := ⟨7, 0⟩
  backend := .memory .empty
  ids := .fresh
  draws _ := 0
  drawn := 0
  pushed := []
  automate := store
  supply := ⟨fun _ _ => .ofNat 1, fun _ => 0⟩
  faults := .none
  outside := ⟨⟩

end World

end TaskAutomation
