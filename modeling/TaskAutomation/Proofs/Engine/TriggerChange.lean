import TaskAutomation.Proofs.Engine.ServiceCalls

/-!
This file says what any call of the service, and any run of a trigger, does to one trigger. It is one
of five things: nothing, the trigger is made, it is changed, it is deleted, or a run of it is
recorded.
-/

namespace TaskAutomation

/-! ### Calls -/

/-- A run of a trigger, or a call of the service. -/
inductive ServiceCall where
  | run (id : TriggerId)
  | createTrigger (wallet : WalletId) (name : String) (kind : TriggerKind)
  | updateTrigger (id : TriggerId) (update : TriggerUpdate)
  | deleteTrigger (id : TriggerId)
  | history (id : TriggerId)
  | addCondition (trigger : TriggerId) (kind : ConditionKind) (params : Json) (priority : Int)
  | updateCondition (id : ConditionId) (update : StepUpdate)
  | deleteCondition (id : ConditionId)
  | addAction (trigger : TriggerId) (kind : ActionKind) (params : Json) (priority : Int)
  | updateAction (id : ActionId) (update : StepUpdate)
  | deleteAction (id : ActionId)

namespace ServiceCall

variable {State : Type} (host : AutomateHost State) (service : AutomateService)
  (runner : TriggerRunner) (state : State)

/-- The state after a call. -/
def after : ServiceCall → State
  | run id => (host.perform (runner.run id).run state).2
  | createTrigger wallet name kind =>
    (host.perform (service.createTrigger wallet name kind).run state).2
  | updateTrigger id update => (host.perform (service.updateTrigger id update).run state).2
  | deleteTrigger id => (host.perform (AutomateService.deleteTrigger id).run state).2
  | history id => (host.perform (AutomateService.history id).run state).2
  | addCondition trigger kind params priority =>
    (host.perform (service.addCondition trigger kind params priority).run state).2
  | updateCondition id update => (host.perform (service.updateCondition id update).run state).2
  | deleteCondition id => (host.perform (AutomateService.deleteCondition id).run state).2
  | addAction trigger kind params priority =>
    (host.perform (service.addAction trigger kind params priority).run state).2
  | updateAction id update => (host.perform (service.updateAction id update).run state).2
  | deleteAction id => (host.perform (AutomateService.deleteAction id).run state).2

/-- The state after some calls, one after the other. -/
def afterAll (start : State) (calls : List ServiceCall) : State :=
  calls.foldl (fun state call => call.after host service runner state) start

/-- The call makes the trigger of an identifier. -/
def makes (id : TriggerId) : ServiceCall → Bool
  | createTrigger wallet name kind =>
    ((host.perform (service.createTrigger wallet name kind).run state).1.bind
      Except.toOption).any fun trigger => trigger.id = id
  | _ => false

/-- The call is about steps or about a history. -/
def isForSteps : ServiceCall → Bool
  | run _ | createTrigger .. | updateTrigger .. | deleteTrigger _ => false
  | _ => true

theorem makes_of_isForSteps {id : TriggerId} (call : ServiceCall)
    (steps : call.isForSteps = true) : call.makes host service state id = false := by
  cases call <;> first | rfl | cases steps

/-- A call for steps runs a program that only asks for what is needed for them. -/
theorem exists_program (call : ServiceCall) (steps : call.isForSteps = true) :
    ∃ (α : Type) (program : Program α), program.Asks host.answer Request.IsForSteps state ∧
      call.after host service runner state = (host.perform program state).2 := by
  cases call with
  | run | createTrigger | updateTrigger | deleteTrigger => cases steps
  | history id => exact ⟨_, _, AutomateService.asks_serve state (.history id), rfl⟩
  | addCondition trigger kind params priority =>
    exact ⟨_, _, service.asks_addCondition state trigger kind params priority, rfl⟩
  | updateCondition id update => exact ⟨_, _, service.asks_updateCondition state id update, rfl⟩
  | deleteCondition id =>
    exact ⟨_, _, AutomateService.asks_serve state (.deleteCondition id), rfl⟩
  | addAction trigger kind params priority =>
    exact ⟨_, _, service.asks_addAction state trigger kind params priority, rfl⟩
  | updateAction id update => exact ⟨_, _, service.asks_updateAction state id update, rfl⟩
  | deleteAction id => exact ⟨_, _, AutomateService.asks_serve state (.deleteAction id), rfl⟩

end ServiceCall

/-! ### What a call does to one trigger -/

/-- A trigger and its history are the same in two stores. -/
structure SameTrigger (id : TriggerId) (before after : AutomateStore) : Prop where
  trigger : after.trigger? id = before.trigger? id
  history : after.historyOf id = before.historyOf id

/-- From one store to another a run of an active trigger was recorded. -/
structure RecordsRun (maxRetries : Nat) (id : TriggerId) (before after : AutomateStore)
    (held : Trigger) (call : Call) : Prop where
  found : before.trigger? id = some held
  active : held.active = true
  saved : after.trigger? id = some (held.afterRun maxRetries call.outcome call.createdAt)
  history : after.historyOf id = before.historyOf id ++ [call]

/-- What a call does to a trigger, and whether the trigger is made thereby. -/
inductive TriggerChange (maxRetries : Nat) (id : TriggerId) (before after : AutomateStore) :
    Bool → Prop
  | spared (same : SameTrigger id before after) : TriggerChange maxRetries id before after false
  | made (trigger : Trigger) (saved : after.trigger? id = some trigger)
      (unfailed : trigger.retries = 0) (history : after.historyOf id = before.historyOf id) :
      TriggerChange maxRetries id before after true
  | updated (known : KnownZones) (update : TriggerUpdate) (held trigger : Trigger)
      (changed : AutomateService.IsUpdate known before id update held trigger)
      (saved : after.trigger? id = some trigger)
      (history : after.historyOf id = before.historyOf id) :
      TriggerChange maxRetries id before after false
  | deleted (gone : after.trigger? id = none) (history : after.historyOf id <+: before.historyOf id) :
      TriggerChange maxRetries id before after false
  | recorded (held : Trigger) (call : Call)
      (records : RecordsRun maxRetries id before after held call) :
      TriggerChange maxRetries id before after false

section

variable {State : Type} {host : AutomateHost State} {runner : TriggerRunner} {state : State}
  {id : TriggerId}

theorem SameTrigger.of_eq {before after : AutomateStore} (same : after = before) :
    SameTrigger id before after := by
  rw [same]
  exact ⟨rfl, rfl⟩

/-- A record of another trigger that is saved leaves a trigger alone. -/
theorem SameTrigger.saveTrigger (store : AutomateStore) {trigger : Trigger}
    (other : trigger.id ≠ id) : SameTrigger id store (store.saveTrigger trigger) :=
  ⟨store.trigger?_saveTrigger_of_ne trigger other.symm, rfl⟩

/-- Both writes of a run together record it. -/
theorem TriggerRunner.recordsRun {held : Trigger} {outcome : CallOutcome} {error : Option String}
    {ended : State} (records : Records host.answer runner id state held outcome error ended)
    (found : (host.store ended).trigger? id = some held) :
    RecordsRun runner.maxRetries id (host.store ended)
      (host.store (closing host.answer runner id held outcome error ended)) held
      (entry host.answer id outcome error ended) := by
  have saved := AutomateStore.trigger?_saveTrigger_self ((host.store ended).appendHistory
    (entry host.answer id outcome error ended)) (written host.answer runner held outcome ended)
  have history := (host.store ended).historyOf_appendHistory_self
    (entry host.answer id outcome error ended)
  rw [records.toFinds.id_written ended] at saved
  rw [store_closing records]
  exact ⟨found, records.active, saved, history⟩

/-- As long as no call of the store is about to fail, a run of a trigger is recorded, or it leaves
the trigger as it was. -/
theorem TriggerRunner.change_run (steady : host.Steady state)
    (leaves : runner.LeavesStore host.answer) (own id : TriggerId) :
    SameTrigger id (host.store state) (host.store (host.perform (runner.run own).run state).2) ∨
      own = id ∧ ∃ held call, RecordsRun runner.maxRetries id (host.store state)
        (host.store (host.perform (runner.run own).run state).2) held call := by
  have ran := runs host.answer runner own state
  unfold AutomateHost.perform
  generalize (runner.run own).run.run host.answer state = result at ran
  obtain ⟨value, final⟩ := result
  cases ran with
  | unread | idle => exact Or.inl (.of_eq (store_begun host own state))
  | broken finds performed => exact Or.inl (.of_eq (store_ended performed leaves))
  | unended finds performed => exact Or.inl (.of_eq (store_ended performed leaves))
  | @unrecorded _ _ _ _ ended judges refused =>
    refine Or.inl (.of_eq ((host.unchanged_of_error refused).1.trans ?_))
    exact (store_recording host ended).trans (store_ended judges.performed leaves)
  | unsaved judges appended refused =>
    have calm : host.Steady (begun host.answer own state) := host.calm _ state steady
    have still := host.steady_run (runner.perform own).run calm
    rw [judges.performed] at still
    exact absurd (host.calm _ _ (host.calm _ _ (host.calm _ _ still)))
      (host.unchanged_of_error refused).2
  | @recorded trigger outcome error ended records =>
    have unchanged := store_ended records.performed leaves
    by_cases same : own = id
    · subst same
      have recorded := recordsRun records (by rw [unchanged]; exact records.found)
      rw [unchanged] at recorded
      exact Or.inr ⟨rfl, trigger, _, recorded⟩
    · refine Or.inl ?_
      show SameTrigger id _ (host.store (closing host.answer runner own trigger outcome error ended))
      have named : (written host.answer runner trigger outcome ended).id = own :=
        records.toFinds.id_written ended
      rw [store_closing records, unchanged]
      refine ⟨?_, AutomateStore.historyOf_appendHistory_of_ne _ _ (Ne.symm same)⟩
      exact AutomateStore.trigger?_saveTrigger_of_ne _ _ (named.symm ▸ Ne.symm same)

/-- What a call that spares triggers does to one of them. -/
theorem TriggerChange.of_spares {α : Type} {maxRetries : Nat} (host : AutomateHost State)
    {program : Program α} (spares : program.Asks host.answer Request.SparesTriggers state) :
    TriggerChange maxRetries id (host.store state) (host.store (host.perform program state).2)
      false := by
  obtain ⟨triggers, history⟩ := host.triggers_run_of_spares spares
  refine .spared ⟨?_, ?_⟩
  · exact congrArg (List.find? _) triggers
  · exact congrArg (List.filter _) history

theorem TriggerChange.of_update {maxRetries : Nat} (service : AutomateService) (own : TriggerId)
    (update : TriggerUpdate) :
    TriggerChange maxRetries id (host.store state)
      (host.store (host.perform (service.updateTrigger own update).run state).2) false := by
  have leads := AutomateService.leads_updateTrigger host service own update state
  unfold AutomateHost.Leads at leads
  generalize (host.perform (service.updateTrigger own update).run state).1 = result,
    host.store (host.perform (service.updateTrigger own update).run state).2 = store at leads
  cases leads with
  | failed | unended => exact .spared (.of_eq rfl)
  | saved trigger fit =>
    obtain ⟨held, fits⟩ := fit
    have named := fits.id_eq
    by_cases same : own = id
    · subst same
      have saved := (host.store state).trigger?_saveTrigger_self trigger
      rw [named] at saved
      exact .updated service.zones update held trigger fits saved rfl
    · exact .spared (.saveTrigger _ (named.symm ▸ same))

theorem TriggerChange.of_create {maxRetries : Nat} {service : AutomateService} {wallet : WalletId}
    {name : String} {kind : TriggerKind} :
    TriggerChange maxRetries id (host.store state)
      (host.store (host.perform (service.createTrigger wallet name kind).run state).2)
      ((ServiceCall.createTrigger wallet name kind).makes host service state id) := by
  have leads := AutomateService.leads_createTrigger host service wallet name kind state
  unfold AutomateHost.Leads at leads
  show TriggerChange _ _ _ _ (((host.perform (service.createTrigger wallet name kind).run
    state).1.bind Except.toOption).any _)
  generalize (host.perform (service.createTrigger wallet name kind).run state).1 = result,
    host.store (host.perform (service.createTrigger wallet name kind).run state).2 = store at leads
  cases leads with
  | failed | unended => exact .spared (.of_eq rfl)
  | saved trigger fit =>
    show TriggerChange _ _ _ _ (decide (trigger.id = id))
    by_cases same : trigger.id = id
    · rw [decide_eq_true same]
      obtain ⟨own, held, now, rfl, -⟩ := fit.made
      subst same
      exact .made _ ((host.store state).trigger?_saveTrigger_self _) rfl rfl
    · rw [decide_eq_false same]
      exact .spared (.saveTrigger _ same)

theorem TriggerChange.of_delete {maxRetries : Nat} (own : TriggerId) :
    TriggerChange maxRetries id (host.store state)
      (host.store (host.perform (AutomateService.deleteTrigger own).run state).2) false := by
  obtain deleted | kept := AutomateService.leads_deleteTrigger host own state
  · rw [deleted]
    by_cases same : id = own
    · subst same
      refine .deleted ((host.store state).trigger?_deleteTrigger_self id) ?_
      obtain history | ⟨-, history⟩ := (host.store state).historyOf_deleteTrigger id id
      · exact history ▸ List.prefix_rfl
      · exact history ▸ List.nil_prefix
    · refine .spared ⟨(host.store state).trigger?_deleteTrigger_of_ne same, ?_⟩
      obtain history | ⟨own, -⟩ := (host.store state).historyOf_deleteTrigger own id
      · exact history
      · exact absurd own same
  · exact .spared (.of_eq kept)

/-- As long as no call of the store is about to fail, every call does one of five things to a
trigger. -/
theorem ServiceCall.change (service : AutomateService) (steady : host.Steady state)
    (leaves : runner.LeavesStore host.answer) (id : TriggerId) (call : ServiceCall) :
    TriggerChange runner.maxRetries id (host.store state)
      (host.store (call.after host service runner state)) (call.makes host service state id) := by
  by_cases steps : call.isForSteps = true
  · obtain ⟨_, program, asks, same⟩ := call.exists_program host service runner state steps
    rw [same, call.makes_of_isForSteps host service state steps]
    exact .of_spares host (asks.imp fun _ => (·.sparesTriggers))
  · cases call with
    | run own =>
      obtain same | ⟨-, held, call, records⟩ := runner.change_run steady leaves own id
      · exact .spared same
      · exact .recorded held call records
    | createTrigger wallet name kind => exact .of_create
    | updateTrigger own update => exact .of_update service own update
    | deleteTrigger own => exact .of_delete own
    | _ => exact absurd rfl steps

end

end TaskAutomation
