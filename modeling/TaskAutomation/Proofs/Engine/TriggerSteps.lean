import TaskAutomation.Engine.TriggerRun
import TaskAutomation.Proofs.Engine.AutomateHost
import TaskAutomation.Proofs.Engine.Course

/-!
This file follows the steps of a trigger. Steps are taken one after the other, and either all of
them pass or one of them is the first that does not: it gives another result, or it never ends. For
conditions to pass is to hold, for actions it is to be done. The steps of a trigger then take one of
six courses, four of which end.
-/

namespace TaskAutomation

/-! ### Steps that cannot be taken -/

namespace Registry

variable {State Kind α : Type} [BEq Kind] {registry : Registry Kind (StepHandler α)}
  {record : IdKind} {step : Step record Kind}

/-- A step of a kind without a handler fails for good, and nothing is asked for it. -/
theorem run_performStep_of_unknown (answer : (request : Request) → State → request.Reply × State)
    (name : Kind → String) (unknown : registry.find? step.kind = none) (state : State) :
    (registry.performStep name step).run.run answer state =
      (some (.error (.permanent (RegistryFault.notFound (name step.kind)).message)), state) := by
  rw [performStep, resolve, unknown]
  rfl

/-- A step whose params are refused fails before its handler works, and nothing is asked for it. -/
theorem run_performStep_of_refused {Params : Type} {parse : Json → Except Invalid Params}
    {work : Params → Work Failure α} {invalid : Invalid}
    (answer : (request : Request) → State → request.Reply × State) (name : Kind → String)
    (known : registry.find? step.kind = some (.typed parse work))
    (refused : parse step.params = .error invalid) (state : State) :
    (registry.performStep name step).run.run answer state =
      (some (.error invalid.failure), state) := by
  rw [performStep, resolve, known]
  show (Work.ofExcept ((parse step.params).mapError Invalid.failure) >>= work).run.run answer
    state = _
  rw [refused]
  rfl

/-- Steps that cannot be taken fail, and nothing is asked for them: those of a kind without a handler,
and those whose params are refused. -/
structure FailsUnfit {State Kind α : Type} [BEq Kind]
    (answer : (request : Request) → State → request.Reply × State)
    (registry : Registry Kind (StepHandler α)) (name : Kind → String) : Prop where
  unknown : ∀ {record : IdKind} (step : Step record Kind) (state : State),
    registry.find? step.kind = none → (registry.performStep name step).run.run answer state =
      (some (.error (.permanent (RegistryFault.notFound (name step.kind)).message)), state)
  refused : ∀ {record : IdKind} {Params : Type} (step : Step record Kind)
    (parse : Json → Except Invalid Params) (work : Params → Work Failure α) (invalid : Invalid)
    (state : State), registry.find? step.kind = some (.typed parse work) →
    parse step.params = .error invalid → (registry.performStep name step).run.run answer state =
      (some (.error invalid.failure), state)

theorem failsUnfit (answer : (request : Request) → State → request.Reply × State)
    (registry : Registry Kind (StepHandler α)) (name : Kind → String) :
    registry.FailsUnfit answer name where
  unknown _ state unknown := run_performStep_of_unknown answer name unknown state
  refused _ _ _ _ state known refused := run_performStep_of_refused answer name known refused state

end Registry

/-! ### Steps one after the other -/

section

variable {State α β : Type} (answer : (request : Request) → State → request.Reply × State)
  (take : α → Work Failure β) (pass : β)

/-- All steps are taken one after the other, from one state to another, and pass. -/
inductive Passes : List α → State → State → Prop
  | none (state : State) : Passes [] state state
  | next {step : α} {rest : List α} {state moment final : State}
      (took : (take step).run.run answer state = (some (.ok pass), moment))
      (later : Passes rest moment final) : Passes (step :: rest) state final

/-- Steps are taken one after the other up to the first that does not pass. It gives a result, or
none if it never ends, and nothing behind it is taken. -/
inductive Stops : List α → State → α → Option (Except Failure β) → State → Prop
  | at {former rest : List α} {state moment : State} {step : α}
      {result : Option (Except Failure β)} {final : State}
      (passed : Passes answer take pass former state moment)
      (took : (take step).run.run answer moment = (result, final))
      (fails : result ≠ some (.ok pass)) :
      Stops (former ++ step :: rest) state step result final

variable {answer take pass} in
theorem Stops.fails {steps : List α} {state : State} {step : α}
    {result : Option (Except Failure β)} {final : State}
    (stops : Stops answer take pass steps state step result final) : result ≠ some (.ok pass) := by
  cases stops
  assumption

theorem passes_or_stops (steps : List α) (state : State) :
    (∃ final, Passes answer take pass steps state final) ∨
      ∃ step result final, Stops answer take pass steps state step result final := by
  induction steps generalizing state with
  | nil => exact Or.inl ⟨state, .none state⟩
  | cons step rest inductionHypothesis =>
    by_cases passed : ((take step).run.run answer state).1 = some (.ok pass)
    · have took : (take step).run.run answer state =
          (some (.ok pass), ((take step).run.run answer state).2) := Prod.ext passed rfl
      obtain ⟨final, later⟩ | ⟨other, result, final, later⟩ := inductionHypothesis
        ((take step).run.run answer state).2
      · exact Or.inl ⟨final, .next took later⟩
      · cases later with
        | «at» before took' fails =>
          exact Or.inr ⟨other, result, final, .at (.next took before) took' fails⟩
    · exact Or.inr ⟨step, _, _, .at (.none state) rfl passed⟩

end

/-! ### Conditions and actions -/

namespace TriggerRunner

variable {State : Type} {answer : (request : Request) → State → request.Reply × State}
  {runner : TriggerRunner} {state final : State}

/-- Conditions that hold are passed over. -/
theorem run_askAll_append {former : List Condition}
    (passes : Passes answer runner.conditions.ask true former state final)
    (rest : List Condition) :
    (runner.askAll (former ++ rest)).run answer state = (runner.askAll rest).run answer final := by
  induction passes with
  | none state => rfl
  | next took later inductionHypothesis =>
    exact (Program.run_bind_of_run took).trans inductionHypothesis

/-- Actions that are done are passed over. -/
theorem run_doAll_append {former : List Action}
    (passes : Passes answer runner.actions.execute () former state final) (rest : List Action) :
    (runner.doAll (former ++ rest)).run answer state = (runner.doAll rest).run answer final := by
  induction passes with
  | none state => rfl
  | next took later inductionHypothesis =>
    exact (Program.run_bind_of_run took).trans inductionHypothesis

theorem run_askAll_of_passes {conditions : List Condition}
    (passes : Passes answer runner.conditions.ask true conditions state final) :
    (runner.askAll conditions).run answer state = (some none, final) := by
  have passed := run_askAll_append passes []
  rw [List.append_nil] at passed
  exact passed

theorem run_doAll_of_passes {actions : List Action}
    (passes : Passes answer runner.actions.execute () actions state final) :
    (runner.doAll actions).run answer state = (some (.fired, none), final) := by
  have passed := run_doAll_append passes []
  rw [List.append_nil] at passed
  exact passed

/-- The conditions end the run with the first that does not hold. -/
theorem run_askAll_of_stops {conditions : List Condition} {condition : Condition}
    {result : Option (Except Failure Bool)}
    (stops : Stops answer runner.conditions.ask true conditions state condition result final) :
    (runner.askAll conditions).run answer state =
      (result.map fun
        | .ok _ => some (.skipped, none)
        | .error failure => some (.notFired,
            some (stepError "condition" condition.kind.name condition.id.display failure)),
        final) := by
  cases stops with
  | «at» passed took fails =>
    rw [run_askAll_append passed, askAll, Program.run_bind, took]
    match result, fails with
    | none, _ => rfl
    | some (.ok false), _ => rfl
    | some (.ok true), fails => exact absurd rfl fails
    | some (.error failure), _ => rfl

/-- The actions end the run with the first that fails. -/
theorem run_doAll_of_stops {actions : List Action} {action : Action}
    {result : Option (Except Failure Unit)}
    (stops : Stops answer runner.actions.execute () actions state action result final) :
    (runner.doAll actions).run answer state =
      (result.map fun
        | .ok _ => (.fired, none)
        | .error failure => (.failed,
            some (stepError "action" action.kind.name action.id.display failure)), final) := by
  cases stops with
  | «at» passed took fails =>
    rw [run_doAll_append passed, doAll, Program.run_bind, took]
    match result, fails with
    | none, _ => rfl
    | some (.ok ()), fails => exact absurd rfl fails
    | some (.error failure), _ => rfl

end TriggerRunner

/-! ### Courses -/

/-- The state after a request to the automation store. -/
def AutomateHost.after {State : Type} (host : AutomateHost State) (request : AutomateRequest)
    (state : State) : State := (host.answer (.automate request) state).2

/-- The courses that the steps of a trigger can take from one state to another, each with the
outcome and the error it leads to. The last two do not end. -/
inductive TriggerRunner.Course {State : Type} (host : AutomateHost State) (runner : TriggerRunner)
    (id : TriggerId) (state : State) : Option (CallOutcome × Option String) → State → Prop
  /-- A condition does not hold, and all before it do. -/
  | skipped {conditions : List Condition} {condition : Condition} {ended : State}
      (asked : Step.InOrder (host.store state).conditions id conditions)
      (stops : Stops host.answer runner.conditions.ask true conditions
        (host.after (.conditions id) state) condition (some (.ok false)) ended) :
      Course host runner id state (some (.skipped, none)) ended
  /-- A condition cannot be asked, and all before it hold. -/
  | notFired {conditions : List Condition} {condition : Condition} {failure : Failure}
      {ended : State} (asked : Step.InOrder (host.store state).conditions id conditions)
      (stops : Stops host.answer runner.conditions.ask true conditions
        (host.after (.conditions id) state) condition (some (.error failure)) ended) :
      Course host runner id state (some (.notFired,
        some (stepError "condition" condition.kind.name condition.id.display failure))) ended
  /-- All conditions hold. An action cannot be done, and all before it are done. -/
  | failed {conditions : List Condition} {actions : List Action} {action : Action}
      {failure : Failure} {moment ended : State}
      (asked : Step.InOrder (host.store state).conditions id conditions)
      (holds : Passes host.answer runner.conditions.ask true conditions
        (host.after (.conditions id) state) moment)
      (due : Step.InOrder (host.store moment).actions id actions)
      (stops : Stops host.answer runner.actions.execute () actions
        (host.after (.actions id) moment) action (some (.error failure)) ended) :
      Course host runner id state (some (.failed,
        some (stepError "action" action.kind.name action.id.display failure))) ended
  /-- All conditions hold and all actions are done. -/
  | fired {conditions : List Condition} {actions : List Action} {moment ended : State}
      (asked : Step.InOrder (host.store state).conditions id conditions)
      (holds : Passes host.answer runner.conditions.ask true conditions
        (host.after (.conditions id) state) moment)
      (due : Step.InOrder (host.store moment).actions id actions)
      (done : Passes host.answer runner.actions.execute () actions
        (host.after (.actions id) moment) ended) :
      Course host runner id state (some (.fired, none)) ended
  /-- A condition is never answered. -/
  | unanswered {conditions : List Condition} {condition : Condition} {ended : State}
      (asked : Step.InOrder (host.store state).conditions id conditions)
      (stops : Stops host.answer runner.conditions.ask true conditions
        (host.after (.conditions id) state) condition none ended) :
      Course host runner id state none ended
  /-- All conditions hold. An action never ends. -/
  | unfinished {conditions : List Condition} {actions : List Action} {action : Action}
      {moment ended : State} (asked : Step.InOrder (host.store state).conditions id conditions)
      (holds : Passes host.answer runner.conditions.ask true conditions
        (host.after (.conditions id) state) moment)
      (due : Step.InOrder (host.store moment).actions id actions)
      (stops : Stops host.answer runner.actions.execute () actions
        (host.after (.actions id) moment) action none ended) :
      Course host runner id state none ended

namespace TriggerRunner

variable {State : Type} {host : AutomateHost State} {state : State}

/-- An error is written down exactly for a run that could not go on. -/
theorem Course.isSome_error_iff {runner : TriggerRunner} {id : TriggerId} {outcome : CallOutcome}
    {error : Option String} {ended : State}
    (course : runner.Course host id state (some (outcome, error)) ended) :
    error.isSome = true ↔ outcome = .notFired ∨ outcome = .failed := by
  cases course <;> simp

/-- The steps of a trigger take a course, or some call of the store is about to fail and keeps them
from being listed. -/
theorem course_or_refused (host : AutomateHost State) (runner : TriggerRunner) (id : TriggerId)
    (state : State) :
    (∃ judged ended, runner.Course host id state judged ended ∧
        (runner.perform id).run.run host.answer state = (judged.map .ok, ended)) ∨
      ∃ fault ended, ¬ host.Steady state ∧
        (runner.perform id).run.run host.answer state = (some (.error fault), ended) := by
  have asked := Step.inOrder_ofTrigger (host.store state).conditions id
  obtain ⟨fault, refused, -, unsteady⟩ | ⟨listed, -⟩ := (host.answers (.conditions id) state).symm
  · exact Or.inr ⟨fault, _, unsteady, Work.run_bind_error _ (AutomateRequest.run_ask refused)⟩
  have listed : (AutomateRequest.ask (.conditions id)).run.run host.answer state =
      (some (.ok ((host.store state).conditionsOf id)), host.after (.conditions id) state) :=
    AutomateRequest.run_ask listed
  obtain ⟨moment, holds⟩ | ⟨condition, result, ended, stops⟩ := passes_or_stops host.answer
    runner.conditions.ask true ((host.store state).conditionsOf id)
    (host.after (.conditions id) state)
  · have answered := run_askAll_of_passes holds
    have due := Step.inOrder_ofTrigger (host.store moment).actions id
    obtain ⟨fault, refused, -, unsteady⟩ | ⟨offered, -⟩ := (host.answers (.actions id) moment).symm
    · refine Or.inr ⟨fault, _, fun steady => unsteady ?_, (Work.run_bind listed).trans
        ((Work.run_bind (Work.run_ofProgram answered)).trans
          (Work.run_bind_error _ (AutomateRequest.run_ask refused)))⟩
      have still := host.steady_run (runner.askAll ((host.store state).conditionsOf id))
        (show host.Steady (host.after (.conditions id) state) from host.calm _ state steady)
      rw [answered] at still
      exact still
    have offered : (AutomateRequest.ask (.actions id)).run.run host.answer moment =
        (some (.ok ((host.store moment).actionsOf id)), host.after (.actions id) moment) :=
      AutomateRequest.run_ask offered
    have performs {judged : Option (CallOutcome × Option String)} {ended : State}
        (ran : (runner.doAll ((host.store moment).actionsOf id)).run host.answer
          (host.after (.actions id) moment) = (judged, ended)) :
        (runner.perform id).run.run host.answer state = (judged.map .ok, ended) := by
      refine (Work.run_bind listed).trans ((Work.run_bind (Work.run_ofProgram answered)).trans ?_)
      refine (Work.run_bind offered).trans ?_
      cases judged with
      | none => exact Work.run_ofProgram_unended ran
      | some judged => exact Work.run_ofProgram ran
    refine Or.inl ?_
    obtain ⟨ended, done⟩ | ⟨action, result, ended, stops⟩ := passes_or_stops host.answer
      runner.actions.execute () ((host.store moment).actionsOf id) (host.after (.actions id) moment)
    · exact ⟨_, _, .fired asked holds due done, performs (run_doAll_of_passes done)⟩
    · have ran := performs (run_doAll_of_stops stops)
      match result, stops with
      | none, stops => exact ⟨_, _, .unfinished asked holds due stops, ran⟩
      | some (.error failure), stops => exact ⟨_, _, .failed asked holds due stops, ran⟩
      | some (.ok ()), stops => exact absurd rfl stops.fails
  · have answered := run_askAll_of_stops stops
    have performs {judged : CallOutcome × Option String}
        (ran : (runner.askAll ((host.store state).conditionsOf id)).run host.answer
          (host.after (.conditions id) state) = (some (some judged), ended)) :
        (runner.perform id).run.run host.answer state = (some (.ok judged), ended) :=
      (Work.run_bind listed).trans (Work.run_bind (Work.run_ofProgram ran))
    refine Or.inl ?_
    match result, stops with
    | none, stops =>
      exact ⟨_, _, .unanswered asked stops, (Work.run_bind listed).trans
        (Work.run_bind_unended _ (Work.run_ofProgram_unended answered))⟩
    | some (.ok false), stops => exact ⟨_, _, .skipped asked stops, performs answered⟩
    | some (.error failure), stops => exact ⟨_, _, .notFired asked stops, performs answered⟩
    | some (.ok true), stops => exact absurd rfl stops.fails

/-- As long as no call of the store is about to fail, the steps of a trigger take a course. -/
theorem exists_course (runner : TriggerRunner) (id : TriggerId) (steady : host.Steady state) :
    ∃ judged ended, runner.Course host id state judged ended ∧
      (runner.perform id).run.run host.answer state = (judged.map .ok, ended) := by
  obtain taken | ⟨fault, ended, unsteady, -⟩ := course_or_refused host runner id state
  · exact taken
  · exact absurd steady unsteady

/-- Steps that came to an outcome have taken the course to it. -/
theorem course_of_performed {runner : TriggerRunner} {id : TriggerId}
    {judged : CallOutcome × Option String} {ended : State}
    (performed : (runner.perform id).run.run host.answer state = (some (.ok judged), ended)) :
    runner.Course host id state (some judged) ended := by
  obtain ⟨other, final, course, ran⟩ | ⟨fault, final, -, ran⟩ :=
    course_or_refused host runner id state
  · cases other with
    | none => cases ran.symm.trans performed
    | some other =>
      cases ran.symm.trans performed
      exact course
  · cases ran.symm.trans performed

end TriggerRunner

end TaskAutomation
