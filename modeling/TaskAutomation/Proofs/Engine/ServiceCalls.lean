import TaskAutomation.Engine.Service
import TaskAutomation.Proofs.Engine.Course
import TaskAutomation.Proofs.Engine.Ensures
import TaskAutomation.Proofs.Engine.TriggerRun

/-!
This file says what the calls of the service do to the automation store. A call that makes or changes
a trigger either saves one record and gives it back, or it fails and has saved nothing. Calls for
conditions and actions and looks at the history leave all triggers and all histories alone.
-/

namespace TaskAutomation

/-! ### What work leads to -/

namespace AutomateHost

variable {State α β Fault : Type} {host : AutomateHost State} {state : State}

/-- The result of work and the store that it leaves behind have a property. -/
def Leads (host : AutomateHost State) (work : Work Fault α) (state : State)
    (property : Option (Except Fault α) → AutomateStore → Prop) : Prop :=
  property (host.perform work.run state).1 (host.store (host.perform work.run state).2)

variable {before : AutomateStore}

/-- Work that only reads the store leads to where the work after it leads, or it is the last and has
left the store as it was. -/
theorem leads_bind {work : Work Fault α} {f : α → Work Fault β}
    {property : Option (Except Fault β) → AutomateStore → Prop} (here : host.store state = before)
    (reads : work.run.Asks host.answer Request.LeavesStore state) (unended : property none before)
    (failed : ∀ fault, property (some (.error fault)) before)
    (later : ∀ a changed, work.run.run host.answer state = (some (.ok a), changed) →
      host.store changed = before → host.Leads (f a) changed property) :
    host.Leads (work >>= f) state property := by
  have same := (host.store_run_of_leaves reads).trans here
  unfold Leads perform
  cases ran : work.run.run host.answer state with
  | mk result changed =>
    rw [ran] at same
    match result with
    | none =>
      rw [Work.run_bind_unended f ran, same]
      exact unended
    | some (.error fault) =>
      rw [Work.run_bind_error f ran, same]
      exact failed fault
    | some (.ok a) =>
      rw [Work.run_bind ran]
      exact later a changed ran same

/-- A call of the store is refused and does nothing, or it is done and the work goes on. -/
theorem leads_serve {request : AutomateRequest} {f : request.Result → Work ServiceFault β}
    {property : Option (Except ServiceFault β) → AutomateStore → Prop}
    (here : host.store state = before) (failed : ∀ fault, property (some (.error fault)) before)
    (later : ∀ changed, host.store changed = (request.onStore before).2 →
      host.Leads (f (request.onStore before).1) changed property) :
    host.Leads (request.serve >>= f) state property := by
  subst here
  unfold Leads perform
  obtain ⟨served, after⟩ | ⟨fault, refused, same, -⟩ := host.answers request state
  · have ran : request.serve.run.run host.answer state =
        (some (.ok (request.onStore (host.store state)).1),
          (host.answer (.automate request) state).2) :=
      congrArg (fun reply : Except StoreFault _ => (some (reply.mapError ServiceFault.store), _))
        served
    rw [Work.run_bind ran]
    exact later _ after
  · have ran : request.serve.run.run host.answer state =
        (some (.error (.store fault)), (host.answer (.automate request) state).2) :=
      congrArg (fun reply : Except StoreFault _ => (some (reply.mapError ServiceFault.store), _))
        refused
    rw [Work.run_bind_error f ran, same]
    exact failed _

end AutomateHost

/-! ### Parts of calls that only read the store -/

section

variable {State Fault : Type} {answer : (request : Request) → State → request.Reply × State}

theorem Request.leavesStore_outside (own : OutsideRequest) : LeavesStore (.outside own) :=
  fun _ same => nomatch same

theorem Request.reads_time (state : State) :
    (Request.time : Work Fault Instant).run.Asks answer Request.LeavesStore state :=
  ⟨(fun _ same => nomatch same), trivial⟩

theorem Request.reads_freshId (kind : IdKind) (state : State) :
    (Request.freshId kind : Work Fault (Id kind)).run.Asks answer Request.LeavesStore state :=
  ⟨(fun _ same => nomatch same), trivial⟩

variable {allowed : Request → Prop}

theorem asks_subscribe (outside : ∀ own, allowed (.outside own)) (kind : TriggerKind)
    (state : State) : kind.subscribe.run.Asks answer allowed state := by
  cases kind with
  | contractEvent source subscription => exact Work.asks_bind ⟨outside _, trivial⟩ fun _ _ => trivial
  | everyMonth | everyWeek | everyDay | everyHour => trivial

theorem asks_unsubscribe (outside : ∀ own, allowed (.outside own)) (kind : TriggerKind)
    (state : State) : kind.unsubscribe.run.Asks answer allowed state := by
  unfold TriggerKind.unsubscribe
  split
  · exact ⟨outside _, trivial⟩
  · trivial

theorem asks_changeKind (outside : ∀ own, allowed (.outside own)) (service : AutomateService)
    (name : String) (held : TriggerKind) (kind : Option TriggerKind) (state : State) :
    (service.changeKind name held kind).run.Asks answer allowed state := by
  cases kind with
  | none => exact Work.asks_bind trivial fun _ _ => trivial
  | some kind =>
    refine Work.asks_bind trivial fun _ state => ?_
    split
    · trivial
    · exact Work.asks_bind (asks_subscribe outside kind state) fun _ state =>
        Work.asks_bind (asks_unsubscribe outside held state) fun _ _ => trivial

theorem asks_requireTrigger {id : TriggerId} (looks : allowed (.automate (.getTrigger id)))
    (state : State) : (requireTrigger id).run.Asks answer allowed state := by
  refine Work.asks_bind ⟨looks, trivial⟩ fun found _ => ?_
  cases found <;> trivial

theorem reads_requireTrigger (id : TriggerId) (state : State) :
    (requireTrigger id).run.Asks answer Request.LeavesStore state :=
  asks_requireTrigger (AutomateRequest.leavesStore fun _ => rfl) state

end

/-! ### Calls for triggers -/

namespace AutomateService

/-- A trigger after a change of it, with the kind that the change has led to. -/
def updated (held : Trigger) (update : TriggerUpdate) (kind : TriggerKind) (now : Instant) :
    Trigger :=
  { changeActive { held with name := update.name.getD held.name, kind } update.active with
    updatedAt := now }

theorem id_updated (held : Trigger) (update : TriggerUpdate) (kind : TriggerKind) (now : Instant) :
    (updated held update kind now).id = held.id := by
  unfold updated changeActive
  split <;> rfl

theorem kind_updated (held : Trigger) (update : TriggerUpdate) (kind : TriggerKind)
    (now : Instant) : (updated held update kind now).kind = kind := by
  unfold updated changeActive
  split <;> rfl

theorem name_updated (held : Trigger) (update : TriggerUpdate) (kind : TriggerKind)
    (now : Instant) : (updated held update kind now).name = update.name.getD held.name := by
  unfold updated changeActive
  split <;> rfl

variable {State : Type} {host : AutomateHost State} {state changed : State}

theorem trigger?_of_requireTrigger {id : TriggerId} {held : Trigger}
    (ran : (requireTrigger id).run.run host.answer state = (some (.ok held), changed)) :
    (host.store state).trigger? id = some held := by
  have found : host.Leads (requireTrigger id) state fun result _ =>
      ∀ held, result = some (.ok held) → (host.store state).trigger? id = some held := by
    unfold requireTrigger
    refine AutomateHost.leads_serve rfl (fun _ _ => nofun) fun moment _ => ?_
    intro held ran
    cases found : (host.store state).trigger? id with
    | none =>
      rw [AutomateRequest.onStore, found] at ran
      cases ran
    | some trigger =>
      rw [AutomateRequest.onStore, found] at ran
      cases ran
      rfl
  exact found held (congrArg Prod.fst ran)

theorem run_requireValid {answer : (request : Request) → State → request.Reply × State}
    (result : Except Invalid Unit) (state : State) :
    (requireValid result).run.run answer state = (some (result.mapError .invalid), state) := rfl

theorem verified_of_requireValid {answer : (request : Request) → State → request.Reply × State}
    {result : Except Invalid Unit}
    (ran : (requireValid result).run.run answer state = (some (.ok ()), changed)) :
    result = .ok () := by
  cases result with
  | ok => rfl
  | error invalid => cases ran

/-- A subscription is nothing that a trigger is checked for. -/
theorem verifyTrigger_withSubscription (known : KnownZones) (name : String) (kind : TriggerKind)
    (subscription : Option String) :
    verifyTrigger known name (kind.withSubscription subscription) = verifyTrigger known name kind := by
  cases kind <;> rfl

/-- Subscribing changes nothing of a kind but its subscription. -/
theorem ensures_subscribe (kind : TriggerKind) :
    kind.subscribe.run.Ensures (fun _ => True) (fun _ _ => True) fun result =>
      ∀ held, result = .ok held → ∃ subscription, held = kind.withSubscription subscription := by
  cases kind with
  | contractEvent source own =>
    refine ⟨trivial, fun reply _ => ?_⟩
    cases reply with
    | error failure => exact nofun
    | ok name =>
      rintro held ⟨⟩
      exact ⟨some name, rfl⟩
  | everyMonth | everyWeek | everyDay | everyHour =>
    rintro held ⟨⟩
    exact ⟨none, rfl⟩

theorem withSubscription_of_subscribe
    {answer : (request : Request) → State → request.Reply × State} {kind held : TriggerKind}
    (ran : kind.subscribe.run.run answer state = (some (.ok held), changed)) :
    ∃ subscription, held = kind.withSubscription subscription :=
  (ensures_subscribe kind).run (fun _ _ => trivial) ran held rfl

theorem ensures_unsubscribe (kind : TriggerKind) :
    kind.unsubscribe.run.Ensures (fun _ => True) (fun _ _ => True) fun _ => True := by
  unfold TriggerKind.unsubscribe
  cases kind.subscription? with
  | none => trivial
  | some name => exact ⟨trivial, fun _ _ => trivial⟩

theorem ensures_requireValid (valid : Except Invalid Unit) :
    (requireValid valid).run.Ensures (fun _ => True) (fun _ _ => True) fun result =>
      ∀ done, result = .ok done → valid = .ok () := by
  cases valid with
  | error invalid => exact nofun
  | ok => exact fun _ _ => rfl

/-- A kind that a change has led to was checked. -/
theorem ensures_changeKind (service : AutomateService) (name : String) (held : TriggerKind)
    (kind : Option TriggerKind) :
    (service.changeKind name held kind).run.Ensures (fun _ => True) (fun _ _ => True) fun result =>
      ∀ new, result = .ok new → verifyTrigger service.zones name new = .ok () := by
  cases kind with
  | none =>
    refine Work.ensures_bind (ensures_requireValid _) (fun _ _ => nofun) fun done valid => ?_
    rintro new ⟨⟩
    exact valid done rfl
  | some kind =>
    refine Work.ensures_bind (ensures_requireValid _) (fun _ _ => nofun) fun done valid => ?_
    have sound := valid done rfl
    split
    · rintro new ⟨⟩
      exact (verifyTrigger_withSubscription service.zones name kind _).trans sound
    · refine Work.ensures_bind (ensures_subscribe kind) (fun _ _ => nofun) fun new subscribed => ?_
      obtain ⟨subscription, rfl⟩ := subscribed new rfl
      refine Work.ensures_bind (ensures_unsubscribe held) (fun _ _ => nofun) fun _ _ => ?_
      rintro new ⟨⟩
      exact (verifyTrigger_withSubscription service.zones name kind subscription).trans sound

theorem verified_of_changeKind {answer : (request : Request) → State → request.Reply × State}
    {service : AutomateService} {name : String} {held new : TriggerKind} {kind : Option TriggerKind}
    (ran : (service.changeKind name held kind).run.run answer state = (some (.ok new), changed)) :
    verifyTrigger service.zones name new = .ok () :=
  (ensures_changeKind service name held kind).run (fun _ _ => trivial) ran new rfl

/-- A change that says nothing of the kind leaves it as it is. -/
theorem kind_of_changeKind {service : AutomateService} {name : String} {held kind : TriggerKind}
    {answer : (request : Request) → State → request.Reply × State}
    (ran : (service.changeKind name held none).run.run answer state = (some (.ok kind), changed)) :
    kind = held := by
  unfold changeKind at ran
  cases verified : verifyTrigger service.zones name held with
  | error invalid =>
    rw [verified, Work.run_bind_error _ (run_requireValid (.error invalid) state)] at ran
    cases ran
  | ok =>
    rw [verified, Work.run_bind (run_requireValid (.ok ()) state)] at ran
    cases ran
    rfl

/-- A record is saved in a store and given back, or nothing is saved. -/
inductive Saves (before : AutomateStore) (fits : Trigger → Prop) :
    Option (Except ServiceFault Trigger) → AutomateStore → Prop
  | saved (trigger : Trigger) (fit : fits trigger) :
      Saves before fits (some (.ok trigger)) (before.saveTrigger trigger)
  | failed (fault : ServiceFault) : Saves before fits (some (.error fault)) before
  | unended : Saves before fits none before

/-- A record is that of a stored trigger after a change of it. -/
structure IsUpdate (known : KnownZones) (before : AutomateStore) (id : TriggerId)
    (update : TriggerUpdate) (held trigger : Trigger) : Prop where
  found : before.trigger? id = some held
  changed : ∃ kind now, trigger = updated held update kind now ∧
    (update.kind = none → kind = held.kind)
  verified : verifyTrigger known trigger.name trigger.kind = .ok ()

section

variable {known : KnownZones} {before : AutomateStore} {id : TriggerId} {update : TriggerUpdate}
  {held trigger : Trigger}

theorem IsUpdate.id_eq (changed : IsUpdate known before id update held trigger) : trigger.id = id := by
  obtain ⟨kind, now, rfl, -⟩ := changed.changed
  exact (id_updated _ _ _ _).trans (AutomateStore.id_of_trigger? changed.found)

/-- A change of a trigger is no call of it. -/
theorem IsUpdate.lastCallAt_eq (changed : IsUpdate known before id update held trigger) :
    trigger.lastCallAt = held.lastCallAt := by
  obtain ⟨kind, now, rfl, -⟩ := changed.changed
  unfold updated changeActive
  split <;> rfl

theorem IsUpdate.kind_eq (changed : IsUpdate known before id update held trigger)
    (silent : update.kind = none) : trigger.kind = held.kind := by
  obtain ⟨kind, now, rfl, kept⟩ := changed.changed
  exact (kind_updated held update kind now).trans (kept silent)

end

/-- A change of a trigger saves the changed record and gives it back, or nothing is saved. -/
theorem leads_updateTrigger (host : AutomateHost State) (service : AutomateService) (id : TriggerId)
    (update : TriggerUpdate) (state : State) :
    host.Leads (service.updateTrigger id update) state
      (Saves (host.store state) fun trigger => ∃ held,
        IsUpdate service.zones (host.store state) id update held trigger) := by
  refine AutomateHost.leads_bind rfl (reads_requireTrigger id state) .unended .failed
    fun held first required here => ?_
  refine AutomateHost.leads_bind here (asks_changeKind Request.leavesStore_outside _ _ _ _ first)
    .unended .failed fun kind second changes here => ?_
  refine AutomateHost.leads_bind here (Request.reads_time second) .unended .failed
    fun now third _ here => ?_
  refine AutomateHost.leads_serve here .failed fun last saved => ?_
  have kept : update.kind = none → kind = held.kind := fun silent => by
    rw [silent] at changes
    exact kind_of_changeKind changes
  have fits : IsUpdate service.zones (host.store state) id update held
      (updated held update kind now) := by
    refine ⟨trigger?_of_requireTrigger required, ⟨kind, now, rfl, kept⟩, ?_⟩
    rw [kind_updated, name_updated]
    exact verified_of_changeKind changes
  show Saves _ _ (some (.ok (updated held update kind now))) (host.store last)
  rw [saved]
  exact .saved _ ⟨held, fits⟩

/-- A record is new: it has a name and a kind that are sound, and so far nothing has happened to
it. -/
structure IsNew (known : KnownZones) (wallet : WalletId) (name : String) (kind : TriggerKind)
    (trigger : Trigger) : Prop where
  sound : verifyTrigger known name kind = .ok ()
  made : ∃ id held now, trigger = Trigger.new id wallet name held now ∧
    (kind.isTimeBased = true → held = kind)
  verified : verifyTrigger known trigger.name trigger.kind = .ok ()

theorem kind_of_subscribe {answer : (request : Request) → State → request.Reply × State}
    {kind held : TriggerKind}
    (ran : kind.subscribe.run.run answer state = (some (.ok held), changed))
    (timeBased : kind.isTimeBased = true) : held = kind := by
  cases kind <;> cases timeBased <;> cases ran <;> rfl

/-- A trigger that is made is saved as new and given back, or nothing is saved. -/
theorem leads_createTrigger (host : AutomateHost State) (service : AutomateService)
    (wallet : WalletId) (name : String) (kind : TriggerKind) (state : State) :
    host.Leads (service.createTrigger wallet name kind) state
      (Saves (host.store state) (IsNew service.zones wallet name kind)) := by
  refine AutomateHost.leads_bind rfl trivial .unended .failed fun _ first verified here => ?_
  refine AutomateHost.leads_bind here (asks_subscribe Request.leavesStore_outside kind first)
    .unended .failed fun held second subscribed here => ?_
  refine AutomateHost.leads_bind here (Request.reads_freshId .trigger second) .unended .failed
    fun id third _ here => ?_
  refine AutomateHost.leads_bind here (Request.reads_time third) .unended .failed
    fun now fourth _ here => ?_
  refine AutomateHost.leads_serve here .failed fun last saved => ?_
  have sound := verified_of_requireValid verified
  have fits : IsNew service.zones wallet name kind (Trigger.new id wallet name held now) := by
    refine ⟨sound, ⟨id, held, now, rfl, kind_of_subscribe subscribed⟩, ?_⟩
    obtain ⟨subscription, rfl⟩ := withSubscription_of_subscribe subscribed
    exact (verifyTrigger_withSubscription service.zones name kind subscription).trans sound
  show Saves _ _ (some (.ok (Trigger.new id wallet name held now))) (host.store last)
  rw [saved]
  exact .saved _ fits

/-- A trigger is deleted, or the store stays as it is. -/
theorem leads_deleteTrigger (host : AutomateHost State) (id : TriggerId) (state : State) :
    host.Leads (deleteTrigger id) state fun _ store =>
      store = ((host.store state).deleteTrigger id).2 ∨ store = host.store state := by
  refine AutomateHost.leads_serve rfl (fun _ => Or.inr rfl) fun first here => ?_
  cases (AutomateRequest.onStore (.getTrigger id) (host.store state)).1 with
  | none => exact Or.inr here
  | some trigger =>
    refine AutomateHost.leads_bind here (asks_unsubscribe Request.leavesStore_outside _ first)
      (Or.inr rfl) (fun _ => Or.inr rfl) fun _ second _ here => ?_
    obtain ⟨-, after⟩ | ⟨fault, -, after, -⟩ := host.answers (.deleteTrigger id) second
    · refine Or.inl (after.trans ?_)
      rw [here]
      rfl
    · exact Or.inr (after.trans here)

end AutomateService

/-! ### Calls that spare triggers -/

/-- The request changes no trigger and no history. -/
def Request.SparesTriggers (request : Request) : Prop :=
  ∀ own, request = .automate own → ∀ store,
    (own.onStore store).2.triggers = store.triggers ∧ (own.onStore store).2.history = store.history

theorem Program.Asks.imp {State α : Type}
    {answer : (request : Request) → State → request.Reply × State} {narrow wide : Request → Prop}
    (weaker : ∀ request, narrow request → wide request) {program : Program α} {state : State}
    (asks : program.Asks answer narrow state) : program.Asks answer wide state := by
  induction program generalizing state with
  | pure a => trivial
  | call request next inductionHypothesis =>
    exact ⟨weaker request asks.1, inductionHypothesis _ asks.2⟩
  | sleep delay next inductionHypothesis => exact inductionHypothesis asks
  | hang => trivial
  | panic message => trivial

/-- A run that spares triggers leaves them and all histories as they are. -/
theorem AutomateHost.triggers_run_of_spares {State α : Type} (host : AutomateHost State)
    {program : Program α} {state : State}
    (spares : program.Asks host.answer Request.SparesTriggers state) :
    (host.store (program.run host.answer state).2).triggers = (host.store state).triggers ∧
      (host.store (program.run host.answer state).2).history = (host.store state).history := by
  refine spares.run (fun moment => (host.store moment).triggers = (host.store state).triggers ∧
    (host.store moment).history = (host.store state).history) ?_ ⟨rfl, rfl⟩
  rintro request moment kind ⟨triggers, history⟩
  by_cases own : ∃ own, request = .automate own
  · obtain ⟨own, rfl⟩ := own
    obtain ⟨-, served⟩ | ⟨fault, -, same, -⟩ := host.answers own moment
    · obtain ⟨first, second⟩ := kind own rfl (host.store moment)
      rw [served]
      exact ⟨first.trans triggers, second.trans history⟩
    · rw [same]
      exact ⟨triggers, history⟩
  · rw [host.spares request moment fun other same => own ⟨other, same⟩]
    exact ⟨triggers, history⟩

/-- What the calls for steps and histories ask for. -/
inductive Request.IsForSteps : Request → Prop
  | now : IsForSteps .now
  | fresh (kind : IdKind) (step : kind ≠ .trigger) : IsForSteps (.fresh kind)
  | getTrigger (id : TriggerId) : IsForSteps (.automate (.getTrigger id))
  | history (id : TriggerId) : IsForSteps (.automate (.history id))
  | getCondition (id : ConditionId) : IsForSteps (.automate (.getCondition id))
  | saveCondition (condition : Condition) : IsForSteps (.automate (.saveCondition condition))
  | deleteCondition (id : ConditionId) : IsForSteps (.automate (.deleteCondition id))
  | getAction (id : ActionId) : IsForSteps (.automate (.getAction id))
  | saveAction (action : Action) : IsForSteps (.automate (.saveAction action))
  | deleteAction (id : ActionId) : IsForSteps (.automate (.deleteAction id))

theorem Request.IsForSteps.sparesTriggers {request : Request} (steps : request.IsForSteps) :
    request.SparesTriggers := by
  rintro _ rfl
  cases steps <;> exact fun _ => ⟨rfl, rfl⟩

namespace AutomateService

variable {State : Type} {answer : (request : Request) → State → request.Reply × State}
  (service : AutomateService) (state : State)

theorem asks_serve {allowed : Request → Prop} {request : AutomateRequest}
    (fits : allowed (.automate request)) : request.serve.run.Asks answer allowed state :=
  ⟨fits, trivial⟩

/-- A record is saved as it is at the time of the call. -/
theorem asks_saveAt {α : Type} {request : Instant → AutomateRequest} {result : Instant → α}
    (saves : ∀ now, Request.IsForSteps (.automate (request now))) :
    (do
      let now ← Request.time
      let _ ← (request now).serve
      return result now : Work ServiceFault α).run.Asks answer Request.IsForSteps state :=
  Work.asks_bind ⟨.now, trivial⟩ fun now state =>
    Work.asks_bind (asks_serve state (saves now)) fun _ _ => trivial

theorem asks_verifyStep {allowed : Request → Prop} {Kind α : Type} [BEq Kind]
    (registry : Registry Kind (StepHandler α)) (name : Kind → String) (kind : Kind)
    (params : Json) : (verifyStep registry name kind params).run.Asks answer allowed state :=
  Work.asks_bind trivial fun _ _ => trivial

theorem asks_addCondition (trigger : TriggerId) (kind : ConditionKind) (params : Json)
    (priority : Int) :
    (service.addCondition trigger kind params priority).run.Asks answer Request.IsForSteps state := by
  refine Work.asks_bind (asks_requireTrigger (.getTrigger trigger) state) fun _ state => ?_
  refine Work.asks_bind (asks_verifyStep state _ _ _ _) fun _ state => ?_
  exact Work.asks_bind ⟨.fresh _ nofun, trivial⟩ fun _ state => asks_saveAt state fun _ =>
    .saveCondition _

theorem asks_addAction (trigger : TriggerId) (kind : ActionKind) (params : Json) (priority : Int) :
    (service.addAction trigger kind params priority).run.Asks answer Request.IsForSteps state := by
  refine Work.asks_bind (asks_requireTrigger (.getTrigger trigger) state) fun _ state => ?_
  refine Work.asks_bind (asks_verifyStep state _ _ _ _) fun _ state => ?_
  exact Work.asks_bind ⟨.fresh _ nofun, trivial⟩ fun _ state => asks_saveAt state fun _ =>
    .saveAction _

theorem asks_updateCondition (id : ConditionId) (update : StepUpdate) :
    (service.updateCondition id update).run.Asks answer Request.IsForSteps state := by
  refine Work.asks_bind (asks_serve state (.getCondition id)) fun found state => ?_
  cases found with
  | none => trivial
  | some condition =>
    cases changed : update.params with
    | none => exact asks_saveAt state fun _ => .saveCondition _
    | some params =>
      exact Work.asks_bind (asks_verifyStep state _ _ _ _) fun _ state =>
        asks_saveAt state fun _ => .saveCondition _

theorem asks_updateAction (id : ActionId) (update : StepUpdate) :
    (service.updateAction id update).run.Asks answer Request.IsForSteps state := by
  refine Work.asks_bind (asks_serve state (.getAction id)) fun found state => ?_
  cases found with
  | none => trivial
  | some action =>
    cases changed : update.params with
    | none => exact asks_saveAt state fun _ => .saveAction _
    | some params =>
      exact Work.asks_bind (asks_verifyStep state _ _ _ _) fun _ state =>
        asks_saveAt state fun _ => .saveAction _

end AutomateService

end TaskAutomation
