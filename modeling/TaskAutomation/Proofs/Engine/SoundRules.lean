import TaskAutomation.Engine.Rules
import TaskAutomation.Proofs.Engine.OwnSteps
import TaskAutomation.Proofs.Engine.StoredRules
import TaskAutomation.Proofs.Engine.Tick
import TaskAutomation.Proofs.Engine.TriggerChange
import TaskAutomation.Proofs.Engine.TriggerSteps

/-!
This file proves that the rules in a store stay well formed whatever is done with them, and
whichever calls of the store or of the world outside fail on the way. Every part of a call only
reads or makes one write of a record that it has checked against the store as it was when the part
began, so each part keeps the store well formed, and what is put together of such parts does so too.
Then no run can fail because a step has no handler or has params that its handler refuses.
-/

namespace TaskAutomation

/-! ### Programs that keep a store well formed -/

namespace AutomateHost

variable {State α β Fault Other : Type} {host : AutomateHost State} {handlers : StepHandlers}

/-- Wherever a program is run, it leaves a store well formed that was so before. -/
def Preserves (host : AutomateHost State) (handlers : StepHandlers) (program : Program α) : Prop :=
  ∀ state, WellFormed handlers (host.store state) →
    WellFormed handlers (host.store (host.perform program state).2)

theorem preserves_of_reads {program : Program α}
    (reads : ∀ state, program.Asks host.answer Request.LeavesStore state) :
    host.Preserves handlers program := fun state sound => by
  unfold perform
  rw [host.store_run_of_leaves (reads state)]
  exact sound

/-- Work that leads to a well-formed store keeps it well formed. -/
theorem preserves_of_leads {work : Work Fault α}
    (leads : ∀ state, WellFormed handlers (host.store state) →
      host.Leads work state fun _ => WellFormed handlers) : host.Preserves handlers work.run :=
  leads

theorem Preserves.bind {program : Program α} {f : α → Program β}
    (first : host.Preserves handlers program) (second : ∀ a, host.Preserves handlers (f a)) :
    host.Preserves handlers (program.bind f) := by
  intro state sound
  have after := first state sound
  unfold perform at after ⊢
  rw [Program.run_bind]
  cases ran : program.run host.answer state with
  | mk result changed =>
    rw [ran] at after
    cases result with
    | none => exact after
    | some a => exact second a changed after

theorem preserves_bind {work : Work Fault α} {f : α → Work Fault β}
    (first : host.Preserves handlers work.run)
    (second : ∀ a, host.Preserves handlers (f a).run) :
    host.Preserves handlers (work >>= f).run :=
  Preserves.bind (f := ExceptT.bindCont f) first fun result =>
    match result with
    | .ok a => second a
    | .error _ => fun _ sound => sound

theorem preserves_mapFault {work : Work Fault α} (preserves : host.Preserves handlers work.run)
    (change : Fault → Other) : host.Preserves handlers (work.mapFault change).run :=
  preserves.bind fun _ _ sound => sound

end AutomateHost

/-! ### Calls of the service -/

namespace AutomateService

open AutomateHost

variable {State : Type} {host : AutomateHost State} {handlers : StepHandlers}

theorem Saves.wellFormed {before store : AutomateStore} {fits : Trigger → Prop}
    {result : Option (Except ServiceFault Trigger)} (saves : Saves before fits result store)
    (sound : WellFormed handlers before)
    (verified : ∀ trigger, fits trigger →
      verifyTrigger handlers.zones trigger.name trigger.kind = .ok ()) :
    WellFormed handlers store := by
  cases saves with
  | saved trigger fit => exact sound.saveTrigger (verified trigger fit)
  | failed | unended => exact sound

theorem preserves_createTrigger (wallet : WalletId) (name : String) (kind : TriggerKind) :
    host.Preserves handlers (handlers.service.createTrigger wallet name kind).run :=
  fun state sound =>
    (leads_createTrigger host handlers.service wallet name kind state).wellFormed sound
      fun _ new => new.verified

theorem preserves_updateTrigger (id : TriggerId) (update : TriggerUpdate) :
    host.Preserves handlers (handlers.service.updateTrigger id update).run := fun state sound =>
  (leads_updateTrigger host handlers.service id update state).wellFormed sound fun _ ⟨_, changed⟩ =>
    changed.verified

theorem preserves_deleteTrigger (id : TriggerId) :
    host.Preserves handlers (deleteTrigger id).run := fun state sound => by
  obtain deleted | same := leads_deleteTrigger host id state
  · rw [deleted]
    exact sound.deleteTrigger id
  · rw [same]
    exact sound

/-- A call of the store that keeps it well formed. -/
theorem preserves_serve (request : AutomateRequest)
    (keeps : ∀ store, WellFormed handlers store → WellFormed handlers (request.onStore store).2) :
    host.Preserves handlers request.serve.run := fun state sound => by
  obtain ⟨-, served⟩ | ⟨fault, -, same, -⟩ := host.answers request state
  · exact served ▸ keeps _ sound
  · exact same ▸ sound

section

variable {record : IdKind} {Kind : Type} (save : Step record Kind → AutomateRequest)
  {state : State} {before : AutomateStore}

theorem leads_saveAt (here : host.store state = before) (sound : WellFormed handlers before)
    (step : Instant → Step record Kind)
    (saves : ∀ now, WellFormed handlers ((save (step now)).onStore before).2) :
    host.Leads (do
      let now ← Request.time
      let _ ← (save (step now)).serve
      return step now : Work ServiceFault (Step record Kind)) state
      fun _ => WellFormed handlers := by
  refine leads_bind here (Request.reads_time state) sound (fun _ => sound)
    fun now second _ here => ?_
  refine leads_serve here (fun _ => sound) fun last saved => ?_
  show WellFormed handlers (host.store last)
  rw [saved]
  exact saves now

variable {α : Type} [BEq Kind] {typed : List (Kind × TypedStep α)}

/-- To save a step that was checked and belongs to a stored trigger keeps a store well formed. -/
def SavesSound (handlers : StepHandlers) (typed : List (Kind × TypedStep α))
    (before : AutomateStore) : Prop :=
  ∀ step, before.Has step.trigger → Takes typed step.kind step.params →
    WellFormed handlers ((save step).onStore before).2

/-- A step that is added was checked, and it belongs to a stored trigger. -/
theorem leads_addStep (here : host.store state = before) (sound : WellFormed handlers before)
    (saves : SavesSound save handlers typed before) (name : Kind → String) (trigger : TriggerId)
    (kind : Kind) (params : Json) (priority : Int) :
    host.Leads (do
      let _ ← requireTrigger trigger
      verifyStep (.ofTyped typed) name kind params
      let id ← Request.freshId record
      let now ← Request.time
      let _ ← (save (.new id trigger kind params priority now)).serve
      return .new id trigger kind params priority now :
        Work ServiceFault (Step record Kind)) state fun _ => WellFormed handlers := by
  refine leads_bind here (reads_requireTrigger trigger state) sound (fun _ => sound)
    fun held first required stays => ?_
  have has : before.Has trigger := here ▸ ⟨held, trigger?_of_requireTrigger required⟩
  refine leads_bind stays (asks_verifyStep first _ name kind params) sound (fun _ => sound)
    fun _ second verified here => ?_
  refine leads_bind here (Request.reads_freshId record second) sound (fun _ => sound)
    fun id third _ here => ?_
  exact leads_saveAt save here sound _ fun now => saves _ has (takes_of_verifyStep verified)

/-- A step that is changed was checked if its params have changed. -/
theorem leads_changeStep (here : host.store state = before) (sound : WellFormed handlers before)
    (saves : SavesSound save handlers typed before) (name : Kind → String)
    (step : Step record Kind) (has : before.Has step.trigger)
    (takes : Takes typed step.kind step.params) (update : StepUpdate) :
    host.Leads (do
      match update.params with
      | some params => verifyStep (.ofTyped typed) name step.kind params
      | none => pure ()
      let now ← Request.time
      let _ ← (save (changeStep step update now)).serve
      return changeStep step update now : Work ServiceFault (Step record Kind)) state
      fun _ => WellFormed handlers := by
  cases changed : update.params with
  | none =>
    refine leads_saveAt save here sound _ fun now => saves _ has ?_
    show Takes typed step.kind (update.params.getD step.params)
    rw [changed]
    exact takes
  | some params =>
    refine leads_bind here (asks_verifyStep state _ name step.kind params) sound (fun _ => sound)
      fun _ second verified here => ?_
    refine leads_saveAt save here sound _ fun now => saves _ has ?_
    show Takes typed step.kind (update.params.getD step.params)
    rw [changed]
    exact takes_of_verifyStep verified

end

theorem savesSound_condition {before : AutomateStore} (sound : WellFormed handlers before) :
    SavesSound .saveCondition handlers handlers.conditions before :=
  fun _ has takes => sound.saveCondition has takes

theorem savesSound_action {before : AutomateStore} (sound : WellFormed handlers before) :
    SavesSound .saveAction handlers handlers.actions before :=
  fun _ has takes => sound.saveAction has takes

theorem preserves_addCondition (trigger : TriggerId) (kind : ConditionKind) (params : Json)
    (priority : Int) :
    host.Preserves handlers (handlers.service.addCondition trigger kind params priority).run :=
  preserves_of_leads fun _ sound =>
    leads_addStep _ rfl sound (savesSound_condition sound) _ trigger kind params priority

theorem preserves_addAction (trigger : TriggerId) (kind : ActionKind) (params : Json)
    (priority : Int) :
    host.Preserves handlers (handlers.service.addAction trigger kind params priority).run :=
  preserves_of_leads fun _ sound =>
    leads_addStep _ rfl sound (savesSound_action sound) _ trigger kind params priority

theorem preserves_updateCondition (id : ConditionId) (update : StepUpdate) :
    host.Preserves handlers (handlers.service.updateCondition id update).run := by
  refine preserves_of_leads fun state sound =>
    leads_serve rfl (fun _ => sound) fun moment here => ?_
  cases found : Step.find? (host.store state).conditions id with
  | none =>
    simp only [AutomateRequest.onStore, found]
    show WellFormed handlers (host.store moment)
    rw [here]
    exact sound
  | some condition =>
    simp only [AutomateRequest.onStore, found]
    obtain ⟨has, takes⟩ := sound.conditions condition (List.mem_of_find?_eq_some found)
    exact leads_changeStep _ here sound (savesSound_condition sound) _ condition has takes update

theorem preserves_updateAction (id : ActionId) (update : StepUpdate) :
    host.Preserves handlers (handlers.service.updateAction id update).run := by
  refine preserves_of_leads fun state sound =>
    leads_serve rfl (fun _ => sound) fun moment here => ?_
  cases found : Step.find? (host.store state).actions id with
  | none =>
    simp only [AutomateRequest.onStore, found]
    show WellFormed handlers (host.store moment)
    rw [here]
    exact sound
  | some action =>
    simp only [AutomateRequest.onStore, found]
    obtain ⟨has, takes⟩ := sound.actions action (List.mem_of_find?_eq_some found)
    exact leads_changeStep _ here sound (savesSound_action sound) _ action has takes update

end AutomateService

section

variable {State : Type} {host : AutomateHost State} {handlers : StepHandlers}

/-- A run adds an entry to the history of a stored trigger and leaves its name and kind alone. -/
theorem TriggerRunner.preserves_run {runner : TriggerRunner}
    (leaves : runner.LeavesStore host.answer) (id : TriggerId) :
    host.Preserves handlers (runner.run id).run := by
  intro state sound
  have writes := (runs host.answer runner id state).writes leaves
  unfold AutomateHost.perform
  generalize host.store ((runner.run id).run.run host.answer state).2 = store at writes
  cases writes with
  | nothing => exact sound
  | entry held call enters => exact sound.appendHistory ⟨held, enters.own ▸ enters.found⟩
  | both held call enters =>
    refine (sound.appendHistory ⟨held, enters.own ▸ enters.found⟩).saveTrigger ?_
    rw [kind_afterRun, name_afterRun]
    exact sound.verified enters.found

theorem ServiceCall.preserves_after {maxRetries : Nat}
    (leaves : (handlers.runner maxRetries).LeavesStore host.answer) (call : ServiceCall)
    {state : State} (sound : WellFormed handlers (host.store state)) :
    WellFormed handlers
      (host.store (call.after host handlers.service (handlers.runner maxRetries) state)) := by
  cases call with
  | run id => exact TriggerRunner.preserves_run leaves id state sound
  | createTrigger wallet name kind =>
    exact AutomateService.preserves_createTrigger wallet name kind state sound
  | updateTrigger id update => exact AutomateService.preserves_updateTrigger id update state sound
  | deleteTrigger id => exact AutomateService.preserves_deleteTrigger id state sound
  | history id =>
    exact AutomateService.preserves_serve (.history id) (fun _ sound => sound) state sound
  | addCondition trigger kind params priority =>
    exact AutomateService.preserves_addCondition trigger kind params priority state sound
  | updateCondition id update =>
    exact AutomateService.preserves_updateCondition id update state sound
  | deleteCondition id =>
    exact AutomateService.preserves_serve (.deleteCondition id)
      (fun _ sound => sound.deleteCondition id) state sound
  | addAction trigger kind params priority =>
    exact AutomateService.preserves_addAction trigger kind params priority state sound
  | updateAction id update => exact AutomateService.preserves_updateAction id update state sound
  | deleteAction id =>
    exact AutomateService.preserves_serve (.deleteAction id)
      (fun _ sound => sound.deleteAction id) state sound

/-! ### Rules -/

open AutomateHost

theorem TriggerRule.preserves_install (rule : TriggerRule) :
    host.Preserves handlers (rule.install handlers.service).run := by
  have owner : host.Preserves handlers rule.owner.run := by
    refine preserves_of_reads fun state => ?_
    unfold TriggerRule.owner
    cases rule.wallet with
    | none => exact Request.reads_freshId .wallet state
    | some wallet => trivial
  have conditions (trigger : TriggerId) : ∀ steps : List (StepRule ConditionKind),
      host.Preserves handlers (rule.installConditions handlers.service trigger steps).run := by
    intro steps
    induction steps with
    | nil => exact fun _ sound => sound
    | cons step rest inductionHypothesis =>
      exact preserves_bind (preserves_mapFault
        (AutomateService.preserves_addCondition trigger step.kind step.params step.priority) _)
        fun _ => inductionHypothesis
  have actions (trigger : TriggerId) : ∀ steps : List (StepRule ActionKind),
      host.Preserves handlers (rule.installActions handlers.service trigger steps).run := by
    intro steps
    induction steps with
    | nil => exact fun _ sound => sound
    | cons step rest inductionHypothesis =>
      exact preserves_bind (preserves_mapFault
        (AutomateService.preserves_addAction trigger step.kind step.params step.priority) _)
        fun _ => inductionHypothesis
  refine preserves_bind owner fun wallet => ?_
  refine preserves_bind (preserves_mapFault
    (AutomateService.preserves_createTrigger wallet rule.name rule.kind) _) fun trigger => ?_
  exact preserves_bind (conditions trigger.id rule.conditions) fun _ =>
    actions trigger.id rule.actions

theorem AutomateService.preserves_install (rules : List TriggerRule) :
    host.Preserves handlers (handlers.service.install rules).run := by
  have each : host.Preserves handlers (handlers.service.installEach rules).run := by
    induction rules with
    | nil => exact fun _ sound => sound
    | cons rule rest inductionHypothesis =>
      exact preserves_bind rule.preserves_install fun _ => inductionHypothesis
  exact preserves_bind each fun _ _ sound => sound

/-- A tick only reads the triggers. -/
theorem TickSettings.preserves_handler (settings : TickSettings) (task : Task) (now : Instant) :
    host.Preserves handlers (settings.handler task now) :=
  preserves_of_reads fun _ =>
    asks_handler (AutomateRequest.leavesStore fun _ => rfl) fun _ _ _ _ _ same => nomatch same

end

/-! ### Steps that fail -/

section

variable {State Kind α : Type} [BEq Kind] {record : IdKind}

/-- A step has failed in the work of its handler, which had taken the params. -/
def WorkFails (answer : (request : Request) → State → request.Reply × State)
    (handlers : List (Kind × TypedStep α)) (step : Step record Kind) (failure : Failure) : Prop :=
  ∃ typed read moment ended, handlers.lookup step.kind = some typed ∧
    typed.parse step.params = .ok read ∧
    (typed.work read).run.run answer moment = (some (.error failure), ended)

/-- A step that was checked can only fail in the work of its handler. -/
theorem workFails_of_takes {answer : (request : Request) → State → request.Reply × State}
    {handlers : List (Kind × TypedStep α)} {name : Kind → String} {step : Step record Kind}
    {failure : Failure} {moment ended : State} (takes : Takes handlers step.kind step.params)
    (ran : ((Registry.ofTyped handlers).performStep name step).run.run answer moment =
      (some (.error failure), ended)) : WorkFails answer handlers step failure := by
  obtain ⟨typed, known, read, parsed⟩ := takes
  refine ⟨typed, read, moment, ended, known, parsed, ?_⟩
  rw [Registry.performStep, Registry.resolve, Registry.find?_ofTyped, known] at ran
  have works : (Work.ofExcept ((typed.parse step.params).mapError Invalid.failure) >>=
      typed.work).run.run answer moment = (some (.error failure), ended) := ran
  rw [parsed] at works
  exact works

end

/-- What a run of a trigger is recorded for that could not go on: a stored step of the trigger has
failed in the work of its handler. -/
inductive Blames {State : Type} (answer : (request : Request) → State → request.Reply × State)
    (handlers : StepHandlers) (store : AutomateStore) (id : TriggerId) :
    CallOutcome → Option String → Prop
  | condition (condition : Condition) (member : condition ∈ store.conditions)
      (own : condition.trigger = id) (failure : Failure)
      (fails : WorkFails answer handlers.conditions condition failure) :
      Blames answer handlers store id .notFired (some (TriggerRunner.stepError "condition"
        condition.kind.name condition.id.display failure))
  | action (action : Action) (member : action ∈ store.actions) (own : action.trigger = id)
      (failure : Failure) (fails : WorkFails answer handlers.actions action failure) :
      Blames answer handlers store id .failed (some (TriggerRunner.stepError "action"
        action.kind.name action.id.display failure))

theorem Stops.took {State α β : Type} {answer : (request : Request) → State → request.Reply × State}
    {take : α → Work Failure β} {pass : β} {steps : List α} {state final : State} {step : α}
    {result : Option (Except Failure β)}
    (stops : Stops answer take pass steps state step result final) :
    step ∈ steps ∧ ∃ moment, (take step).run.run answer moment = (result, final) := by
  cases stops with
  | «at» passed took fails =>
    exact ⟨List.mem_append_right _ List.mem_cons_self, _, took⟩

theorem Step.InOrder.mem {record : IdKind} {Kind : Type} {steps taken : List (Step record Kind)}
    {trigger : TriggerId} (ordered : InOrder steps trigger taken) {step : Step record Kind}
    (member : step ∈ taken) : step ∈ steps ∧ step.trigger = trigger :=
  (List.mem_filter.mp (ordered.all.mem_iff.mp member)).imp_right of_decide_eq_true

namespace TriggerRunner

variable {State : Type} {host : AutomateHost State} {handlers : StepHandlers} {maxRetries : Nat}
  {id : TriggerId} {state ended : State} {outcome : CallOutcome} {error : Option String}

/-- Where the rules are well formed, the steps of a trigger fail in the work of a handler or not at
all. -/
theorem Course.blames (sound : WellFormed handlers (host.store state))
    (leaves : (handlers.runner maxRetries).LeavesStore host.answer)
    (course : (handlers.runner maxRetries).Course host id state (some (outcome, error)) ended)
    (fails : outcome.isFailure = true) :
    Blames host.answer handlers (host.store state) id outcome error := by
  cases course with
  | skipped | fired => cases fails
  | @notFired conditions condition failure _ asked stops =>
    obtain ⟨inside, moment, took⟩ := stops.took
    obtain ⟨member, own⟩ := asked.mem inside
    exact .condition condition member own failure
      (workFails_of_takes (sound.conditions condition member).2 took)
  | @failed conditions actions action failure moment _ asked holds due stops =>
    have answered := run_askAll_of_passes holds
    have kept := host.store_run_of_leaves
      (asks_askAll leaves.stepsAsk conditions (host.after (.conditions id) state))
    rw [answered] at kept
    have same : host.store moment = host.store state := kept.trans
      (host.store_answer_of_leaves (AutomateRequest.leavesStore fun _ => rfl) state)
    obtain ⟨inside, moment, took⟩ := stops.took
    obtain ⟨member, own⟩ := due.mem inside
    rw [same] at member
    exact .action action member own failure
      (workFails_of_takes (sound.actions action member).2 took)

/-- The entry of a run that could not go on blames a step. -/
theorem Writes.blames (sound : WellFormed handlers (host.store state))
    (leaves : (handlers.runner maxRetries).LeavesStore host.answer) {store : AutomateStore}
    (writes : Writes host (handlers.runner maxRetries) id state store) {call : Call}
    (recorded : store.history = (host.store state).history ++ [call])
    (fails : call.outcome.isFailure = true) :
    Blames host.answer handlers (host.store state) id call.outcome call.error := by
  have entered {held : Trigger} {other : Call}
      (enters : Enters host (handlers.runner maxRetries) id state held other)
      (same : (host.store state).history ++ [other] = (host.store state).history ++ [call]) :
      Blames host.answer handlers (host.store state) id call.outcome call.error := by
    obtain rfl := List.singleton_inj.mp (List.append_cancel_left same)
    obtain ⟨ended, performed⟩ := enters.performed
    have course := course_of_performed performed
    rw [← store_begun host id state] at sound ⊢
    exact course.blames sound leaves fails
  cases writes with
  | nothing => exact absurd recorded (by simp)
  | entry held other enters => exact entered enters recorded
  | both held other enters => exact entered enters recorded

end TriggerRunner

/-! ### Undertakings -/

/-- What may be done, one after the other, where rules are stored. -/
inductive Undertaking where
  /-- A call of the service or a run of a trigger. -/
  | call (own : ServiceCall)
  | install (rules : List TriggerRule)
  | tick (runs : RunSettings) (interval : Span) (task : Task) (now : Instant)
  /-- Something else that is no request to the store. -/
  | elsewhere (request : Request) (foreign : ∀ own, request ≠ .automate own)

namespace Undertaking

variable {State : Type} (host : AutomateHost State) (handlers : StepHandlers) (maxRetries : Nat)

/-- The state after an undertaking. -/
def after (state : State) : Undertaking → State
  | .call own => own.after host handlers.service (handlers.runner maxRetries) state
  | .install rules => (host.perform (handlers.service.install rules).run state).2
  | .tick runs interval task now =>
    (host.perform (TickSettings.handler ⟨handlers.zones, runs, interval⟩ task now) state).2
  | .elsewhere request _ => (host.answer request state).2

/-- The state after some undertakings. -/
def afterAll (start : State) (undertakings : List Undertaking) : State :=
  undertakings.foldl (after host handlers maxRetries) start

/-- The stored rules are sound, and so no run and no tick has to put up with one that is not. -/
structure SoundRules (state : State) : Prop where
  wellFormed : WellFormed handlers (host.store state)
  /-- If a run is recorded that could not go on, then a stored step of the trigger has failed in the
  work of its handler, and neither for want of a handler nor because of its params. -/
  runs : ∀ id call,
    (host.store (after host handlers maxRetries state (.call (.run id)))).history =
        (host.store state).history ++ [call] →
      call.outcome.isFailure = true →
        Blames host.answer handlers (host.store state) id call.outcome call.error
  /-- Every schedule compiles, and when a trigger is due is a matter of its schedule alone. -/
  ticks : ∀ trigger ∈ (host.store state).triggers, ∀ template,
    trigger.kind.template? = some template →
      ∃ schedule, template.compileWith handlers.zones = .ok schedule ∧
        ∀ now, trigger.isDueAt? handlers.zones now =
          if trigger.active && schedule.isDueAt now then
            match trigger.lastCallAt with
            | some last => (schedule.sameHour? last now).map not
            | none => some true
          else some false

variable {host handlers maxRetries}

theorem preserves_after (leaves : (handlers.runner maxRetries).LeavesStore host.answer)
    (undertaking : Undertaking) {state : State} (sound : WellFormed handlers (host.store state)) :
    WellFormed handlers (host.store (undertaking.after host handlers maxRetries state)) := by
  cases undertaking with
  | call own => exact own.preserves_after leaves sound
  | install rules => exact AutomateService.preserves_install rules state sound
  | tick runs interval task now =>
    exact TickSettings.preserves_handler _ task now state sound
  | elsewhere request foreign => exact host.spares request state foreign ▸ sound

theorem preserves_afterAll (leaves : (handlers.runner maxRetries).LeavesStore host.answer)
    (undertakings : List Undertaking) {state : State}
    (sound : WellFormed handlers (host.store state)) :
    WellFormed handlers (host.store (afterAll host handlers maxRetries state undertakings)) := by
  induction undertakings generalizing state with
  | nil => exact sound
  | cons undertaking rest inductionHypothesis =>
    exact inductionHypothesis (undertaking.preserves_after leaves sound)

/-- From an empty store on, whatever is undertaken and whatever fails on the way, the stored rules
are sound, as long as the steps of triggers do nothing to the store but read it. -/
theorem keeps_rules_sound (leaves : (handlers.runner maxRetries).LeavesStore host.answer)
    {start : State} (empty : host.store start = .empty) (undertakings : List Undertaking) :
    SoundRules host handlers maxRetries (afterAll host handlers maxRetries start undertakings) := by
  have sound := preserves_afterAll leaves undertakings (empty ▸ WellFormed.empty handlers)
  refine ⟨sound, fun id call recorded fails => ?_, fun trigger member template timed => ?_⟩
  · exact ((TriggerRunner.runs host.answer _ id _).writes leaves).blames sound leaves recorded fails
  · obtain ⟨schedule, compiled⟩ := sound.compiles member timed
    refine ⟨schedule, compiled, fun now => ?_⟩
    cases last : trigger.lastCallAt <;>
      simp only [Trigger.isDueAt?, timed, Option.map_some, compiled, last]

/-- The handlers of an engine with all settings at their defaults. -/
def ownHandlers : StepHandlers :=
  .ofKinds Zone.ofName? defaultTopic ConditionKind.all ActionKind.all

/-- A world in which the store refuses to save a second condition and a first message is not
delivered. -/
def troubledStart : World Simulated :=
  { World.start ⟨7, 0⟩ (.memory .empty) (fun _ => 0) ⟨fun _ count => .ofNat (count + 1), fun _ => 0⟩
      { Simulated.empty with faults := FaultPlan.none.set .notify [some (.transient "busy")] } with
    faults := FaultPlan.none.set .saveCondition [none, some "down"] }

/-- A rule is installed, a condition is lost, params and a name are given that do not pass, the
clock is looked at, and the trigger is run. -/
def troubledUndertakings : List Undertaking :=
  let message := Json.record [("contact", .string "owner"), ("message", .string "due")]
  [.install [⟨some ⟨.ofNat 9⟩, "rule", .everyHour, [⟨.schedule, .record [], 1⟩],
      [⟨.notification, message, 1⟩]⟩],
    .call (.addCondition ⟨.ofNat 1⟩ .schedule (.record []) 2),
    .call (.addCondition ⟨.ofNat 1⟩ .schedule (.record [("hour", .string "24")]) 2),
    .call (.updateAction ⟨.ofNat 1⟩ { params := some (.record [("contact", .string " ")]) }),
    .call (.updateTrigger ⟨.ofNat 1⟩ { name := some " " }),
    .tick ⟨defaultTopic, 0⟩ (.ofMillis 3600000)
      (.new ⟨.ofNat 8⟩ TaskKind.scheduleTick.name (ScheduleTick.encode ⟨⟩) {} ⟨7, 0⟩) ⟨7, 0⟩,
    .call (.run ⟨.ofNat 1⟩)]

/-- Where these undertakings lead. -/
def troubledEnd : World Simulated :=
  afterAll World.automateHost ownHandlers 5 troubledStart troubledUndertakings

/-- One condition is left and one action, and the run has failed because the message was not
delivered. -/
theorem keeps_rules_sound_troubled :
    (Engine.default.service = ownHandlers.service ∧ Engine.default.runner = ownHandlers.runner 5) ∧
      (ownHandlers.runner 5).LeavesStore (@World.automateHost Simulated _).answer ∧
      World.automateHost.store troubledStart = .empty ∧
      (troubledEnd.automate.triggers.map (·.name), troubledEnd.automate.conditions.map (·.kind),
        troubledEnd.automate.actions.map (·.kind)) = (["rule"], [.schedule], [.notification]) ∧
      troubledEnd.automate.history.map (fun call => (call.outcome, call.error)) = [(.failed,
        some "action notification (action-00000000000000000000000001): busy")] ∧
      SoundRules World.automateHost ownHandlers 5 troubledEnd := by
  have own := Engine.handlers_of_assemble _ _ _ Engine.assemble_default
  have leaves : (ownHandlers.runner 5).LeavesStore (@World.automateHost Simulated _).answer :=
    own.2 ▸ Engine.leavesStore Engine.assemble_default
  exact ⟨own, leaves, rfl, by decide +kernel, by decide +kernel,
    keeps_rules_sound leaves rfl troubledUndertakings⟩

end Undertaking

end TaskAutomation
