import TaskAutomation.Engine.Assembly
import TaskAutomation.Proofs.Engine.TriggerRun
import TaskAutomation.Proofs.Queue.KeptRow

/-!
This file says what the steps ask for that an engine is put together with. Conditions ask for the
time and for what the world outside knows; actions tell the world outside something or queue
transactions. So none of them does anything to the automation store.
-/

namespace TaskAutomation

/-! ### Registries -/

namespace Registry

variable {Kind Handler : Type} [BEq Kind]

/-- A handler that was registered stands behind those that were there. -/
theorem entries_register {registry changed : Registry Kind Handler} {name : Kind → String}
    {kind : Kind} {handler : Handler}
    (registered : registry.register name kind handler = .ok changed) :
    changed.entries = registry.entries ++ [(kind, handler)] := by
  unfold register at registered
  split at registered
  · cases registered
  · cases registered
    rfl

theorem entries_registerAll {registry changed : Registry Kind Handler} {name : Kind → String}
    {handlers : List (Kind × Handler)}
    (registered : registry.registerAll name handlers = .ok changed) :
    changed.entries = registry.entries ++ handlers := by
  induction handlers generalizing registry with
  | nil =>
    cases registered
    exact (List.append_nil _).symm
  | cons entry rest inductionHypothesis =>
    obtain ⟨next, first, later⟩ := bind_eq_ok.mp registered
    rw [inductionHypothesis later, entries_register first, List.append_assoc]
    rfl

end Registry

/-! ### Steps -/

/-- The request to queue the transaction of a contract. -/
def TransactionRun.pushRequest (run : TransactionRun) (topic : String) : Request :=
  .tasks (.push TaskKind.transactionRun.name run.encode {
    topic
    collisionSign := some run.collisionSign })

/-- The request is one that steps make: it asks for what the world outside knows, or notifies
somebody. -/
def OutsideRequest.IsOfSteps : OutsideRequest → Prop
  | balance .. | gasPrice _ | latest .. | notify .. => True
  | _ => False

section

variable {State : Type} {answer : (request : Request) → State → request.Reply × State}
  {allowed : Request → Prop}

theorem StepHandler.asks_typed {Params α : Type} {parse : Json → Except Invalid Params}
    {work : Params → Work Failure α}
    (asks : ∀ params state, (work params).run.Asks answer allowed state) (json : Json)
    (state : State) : ((StepHandler.typed parse work).perform json).run.Asks answer allowed state :=
  Work.asks_bind trivial fun params state => asks params state

theorem ConditionKind.asks_handler (time : allowed .now)
    (outside : ∀ own : OutsideRequest, own.IsOfSteps → allowed (.outside own))
    (known : KnownZones) (kind : ConditionKind) (params : Json) (state : State) :
    ((kind.handler known).perform params).run.Asks answer allowed state := by
  cases kind with
  | schedule =>
    refine StepHandler.asks_typed (fun template state => ?_) params state
    exact Work.asks_bind trivial fun _ state => Work.asks_bind ⟨time, trivial⟩ fun _ _ => trivial
  | balance | gasPrice =>
    refine StepHandler.asks_typed (fun query state => ?_) params state
    exact Work.asks_bind ⟨outside _ trivial, trivial⟩ fun _ _ => trivial
  | contractMetric =>
    refine StepHandler.asks_typed (fun query state => ?_) params state
    refine Work.asks_bind ⟨outside _ trivial, trivial⟩ fun found _ => ?_
    cases found <;> trivial

theorem ActionKind.asks_handler {topic : String}
    (outside : ∀ own : OutsideRequest, own.IsOfSteps → allowed (.outside own))
    (pushes : ∀ run : TransactionRun, run.txHash = none → allowed (run.pushRequest topic))
    (kind : ActionKind) (params : Json) (state : State) :
    ((kind.handler topic).perform params).run.Asks answer allowed state := by
  cases kind with
  | notification =>
    refine StepHandler.asks_typed (fun sent state => ?_) params state
    exact ⟨outside _ trivial, trivial⟩
  | automateRun =>
    refine StepHandler.asks_typed (fun run state => ?_) params state
    exact Work.asks_bind ⟨pushes ⟨run.network, run.automate, none⟩ rfl, trivial⟩ fun _ _ => trivial

/-- The runner of an engine has the handlers that the engine was put together with. -/
theorem Engine.runner_of_assemble {known : KnownZones} {config : Config}
    {conditions : List ConditionKind} {actions : List ActionKind} {engine : Engine}
    (assembled : Engine.assemble known config conditions actions = .ok engine) :
    engine.runner.conditions.entries = conditions.map (fun kind => (kind, kind.handler known)) ∧
      engine.runner.actions.entries =
        actions.map fun kind => (kind, kind.handler config.automate.topic) := by
  obtain ⟨askers, asked, assembled⟩ := bind_eq_ok.mp assembled
  obtain ⟨doers, done, assembled⟩ := bind_eq_ok.mp assembled
  obtain ⟨registry, -, assembled⟩ := bind_eq_ok.mp assembled
  cases assembled
  exact ⟨Registry.entries_registerAll (mapError_eq_ok.mp asked),
    Registry.entries_registerAll (mapError_eq_ok.mp done)⟩

/-- The engine with the zones of the table and with all settings at their defaults. -/
def Engine.default : Engine :=
  (Engine.ofConfig Zone.ofName? .default).toOption.get (by decide +kernel)

theorem Engine.assemble_default :
    Engine.assemble Zone.ofName? .default ConditionKind.all ActionKind.all = .ok .default := rfl

/-- The steps of an engine ask for the time, for what the world outside knows, for messages and for
transactions of contracts. -/
theorem Engine.stepsAsk {known : KnownZones} {config : Config} {conditions : List ConditionKind}
    {actions : List ActionKind} {engine : Engine}
    (assembled : Engine.assemble known config conditions actions = .ok engine) (time : allowed .now)
    (outside : ∀ own : OutsideRequest, own.IsOfSteps → allowed (.outside own))
    (pushes : ∀ run : TransactionRun, run.txHash = none →
      allowed (run.pushRequest config.automate.topic)) :
    engine.runner.StepsAsk answer allowed := by
  obtain ⟨askers, doers⟩ := runner_of_assemble assembled
  constructor
  · intro entry member
    rw [askers] at member
    obtain ⟨kind, -, rfl⟩ := List.mem_map.mp member
    exact kind.asks_handler time outside known
  · intro entry member
    rw [doers] at member
    obtain ⟨kind, -, rfl⟩ := List.mem_map.mp member
    exact kind.asks_handler outside pushes

/-- The steps of an engine do nothing to an automation store. -/
theorem Engine.leavesStore {known : KnownZones} {config : Config} {conditions : List ConditionKind}
    {actions : List ActionKind} {engine : Engine}
    (assembled : Engine.assemble known config conditions actions = .ok engine) :
    engine.runner.LeavesStore answer := by
  have steps : engine.runner.StepsAsk answer Request.LeavesStore := by
    refine stepsAsk assembled ?_ (fun _ _ => ?_) fun _ _ => ?_
    all_goals
      intro own same
      cases same
  exact ⟨steps.conditions, steps.actions⟩

end

end TaskAutomation
