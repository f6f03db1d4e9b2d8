import TaskAutomation.Engine.Rules
import TaskAutomation.Proofs.Engine.ServiceCalls

/-!
This file follows work on an automation store from its beginning to its end. Any call of the store
may fail, before it is done or after it. All that is asked of the host is that the identifiers it
makes are new. Of such work it is said that it comes to an end, how its result and the store that it
leaves behind belong together, and what holds of the store all the time before.
-/

namespace TaskAutomation

/-- Where programs reach an automation store of which every call may fail, whether it was done or
not. The time and everything else may be answered in any way. -/
structure FaultyHost (State : Type) where
  answer : (request : Request) → State → request.Reply × State
  store : State → AutomateStore
  answers : ∀ (request : AutomateRequest) state,
    (answer (.automate request) state).1 = .ok (request.onStore (store state)).1 ∧
        store (answer (.automate request) state).2 = (request.onStore (store state)).2 ∨
      ∃ fault, (answer (.automate request) state).1 = .error fault ∧
        (store (answer (.automate request) state).2 = store state ∨
          store (answer (.automate request) state).2 = (request.onStore (store state)).2)
  spares : ∀ (request : Request) state, (∀ own, request ≠ .automate own) →
    store (answer request state).2 = store state

/-- A host of which a call that fails is never done. -/
def AutomateHost.toFaulty {State : Type} (host : AutomateHost State) : FaultyHost State where
  answer := host.answer
  store := host.store
  answers request state := (host.answers request state).imp_right
    fun ⟨fault, failed, same, _⟩ => ⟨fault, failed, Or.inl same⟩
  spares := host.spares

/-- No record of the store has the identifier that a request was replied. -/
def AutomateStore.Lacks (store : AutomateStore) : (request : Request) → request.Reply → Prop
  | .fresh .trigger, ulid => ∀ trigger ∈ store.triggers, trigger.id.ulid ≠ ulid
  | .fresh .condition, ulid => ∀ condition ∈ store.conditions, condition.id.ulid ≠ ulid
  | .fresh .action, ulid => ∀ action ∈ store.actions, action.id.ulid ≠ ulid
  | _, _ => True

instance (store : AutomateStore) : (request : Request) → (reply : request.Reply) →
    Decidable (store.Lacks request reply)
  | .fresh .trigger, ulid =>
    inferInstanceAs (Decidable (∀ trigger ∈ store.triggers, trigger.id.ulid ≠ ulid))
  | .fresh .condition, ulid =>
    inferInstanceAs (Decidable (∀ condition ∈ store.conditions, condition.id.ulid ≠ ulid))
  | .fresh .action, ulid =>
    inferInstanceAs (Decidable (∀ action ∈ store.actions, action.id.ulid ≠ ulid))
  | .fresh .task, _ | .fresh .call, _ | .fresh .wallet, _ | .now, _ | .elapse _, _ | .tasks _, _
  | .automate _, _ | .outside _, _ => inferInstanceAs (Decidable True)

namespace FaultyHost

variable {State α β Fault : Type} {host : FaultyHost State}

/-! ### New identifiers -/

/-- Whenever a program asks for an identifier, it gets one that no record has. -/
def GivesNew (host : FaultyHost State) : Program α → State → Prop
  | .pure _, _ => True
  | .call request next, state =>
    (host.store state).Lacks request (host.answer request state).1 ∧
      host.GivesNew (next (host.answer request state).1) (host.answer request state).2
  | .sleep _ next, state => host.GivesNew next state
  | .hang, _ => True
  | .panic _, _ => True

instance (host : FaultyHost State) : (program : Program α) → (state : State) →
    Decidable (host.GivesNew program state)
  | .pure _, _ | .hang, _ | .panic _, _ => inferInstanceAs (Decidable True)
  | .call request next, state =>
    have := instDecidableGivesNew host (next (host.answer request state).1)
      (host.answer request state).2
    inferInstanceAs (Decidable (_ ∧ _))
  | .sleep _ next, state => instDecidableGivesNew host next state

theorem GivesNew.of_bind {program : Program α} {f : α → Program β} {state : State}
    (fresh : host.GivesNew (program.bind f) state) :
    host.GivesNew program state ∧
      ∀ a changed, program.run host.answer state = (some a, changed) →
        host.GivesNew (f a) changed := by
  induction program generalizing state with
  | pure a =>
    refine ⟨trivial, ?_⟩
    rintro _ _ ⟨⟩
    exact fresh
  | call request next inductionHypothesis =>
    obtain ⟨before, later⟩ := inductionHypothesis _ fresh.2
    exact ⟨⟨fresh.1, before⟩, later⟩
  | sleep delay next inductionHypothesis => exact inductionHypothesis fresh
  | hang => exact ⟨trivial, nofun⟩
  | panic message => exact ⟨trivial, nofun⟩

/-! ### What work comes to -/

/-- From every state with a store, if all identifiers are new, work comes to an end, its result and
the store that it leaves behind have a property, and something holds of the store all along. -/
def Proceeds (host : FaultyHost State) (before : AutomateStore) (along : AutomateStore → Prop)
    (property : Except Fault α → AutomateStore → Prop) (work : Work Fault α) : Prop :=
  ∀ state, host.store state = before → host.GivesNew work.run state →
    (∃ result changed, work.run.run host.answer state = (some result, changed) ∧
      property result (host.store changed)) ∧
    ∀ moment, work.run.Underway host.answer state moment → along (host.store moment)

variable {before : AutomateStore} {along : AutomateStore → Prop}

theorem Proceeds.imp {work : Work Fault α} {narrow wide : Except Fault α → AutomateStore → Prop}
    {closer : AutomateStore → Prop} (proceeds : host.Proceeds before closer narrow work)
    (weaker : ∀ result after, narrow result after → wide result after)
    (looser : ∀ store, closer store → along store) : host.Proceeds before along wide work := by
  intro state here fresh
  obtain ⟨⟨result, changed, ran, holds⟩, always⟩ := proceeds state here fresh
  exact ⟨⟨result, changed, ran, weaker result _ holds⟩,
    fun moment underway => looser _ (always moment underway)⟩

theorem proceeds_ofExcept {result : Except Fault α}
    {property : Except Fault α → AutomateStore → Prop} (holds : property result before) :
    host.Proceeds before along property (Work.ofExcept result) :=
  fun state here _ => ⟨⟨result, state, rfl, here ▸ holds⟩, fun _ underway => absurd underway id⟩

theorem proceeds_pure {a : α} {property : Except Fault α → AutomateStore → Prop}
    (holds : property (.ok a) before) : host.Proceeds before along property (pure a) :=
  proceeds_ofExcept holds

/-- Work after other work proceeds if both do. -/
theorem proceeds_bind {work : Work Fault α} {f : α → Work Fault β}
    {middle : Except Fault α → AutomateStore → Prop}
    {property : Except Fault β → AutomateStore → Prop}
    (first : host.Proceeds before along middle work)
    (failed : ∀ fault after, middle (.error fault) after → property (.error fault) after)
    (later : ∀ a after, middle (.ok a) after → host.Proceeds after along property (f a)) :
    host.Proceeds before along property (work >>= f) := by
  intro state here fresh
  obtain ⟨freshFirst, freshLater⟩ := GivesNew.of_bind (f := ExceptT.bindCont f) fresh
  obtain ⟨⟨result, changed, ran, holds⟩, always⟩ := first state here freshFirst
  cases result with
  | error fault =>
    refine ⟨⟨_, changed, Work.run_bind_error f ran, failed fault _ holds⟩,
      fun moment underway => ?_⟩
    obtain former | ⟨a, final, ended, -⟩ := Work.underway_of_bind underway
    · exact always moment former
    · cases ran.symm.trans ended
  | ok a =>
    obtain ⟨⟨ending, final, rest, ended⟩, alwaysLater⟩ :=
      later a _ holds changed rfl (freshLater (.ok a) changed ran)
    refine ⟨⟨ending, final, (Work.run_bind ran).trans rest, ended⟩, fun moment underway => ?_⟩
    obtain former | ⟨b, other, same, latter⟩ := Work.underway_of_bind underway
    · exact always moment former
    · cases ran.symm.trans same
      exact alwaysLater moment latter

/-- Work that leaves the store as it is, and what is known of its result. -/
abbrev Reads (host : FaultyHost State) (before : AutomateStore)
    (gives : Except Fault α → Prop) (work : Work Fault α) : Prop :=
  host.Proceeds before (· = before) (fun result after => after = before ∧ gives result) work

/-- Work that leaves the store as it is, and work after it. -/
theorem proceeds_bind_of_reads {work : Work Fault α} {f : α → Work Fault β}
    {gives : Except Fault α → Prop} {property : Except Fault β → AutomateStore → Prop}
    (first : host.Reads before gives work) (here : along before)
    (failed : ∀ fault, gives (.error fault) → property (.error fault) before)
    (later : ∀ a, gives (.ok a) → host.Proceeds before along property (f a)) :
    host.Proceeds before along property (work >>= f) := by
  refine proceeds_bind (first.imp (fun _ _ => id) fun store same => same ▸ here) ?_ ?_
  · rintro fault _ ⟨rfl, given⟩
    exact failed fault given
  · rintro a _ ⟨rfl, given⟩
    exact later a given

/-- Faults that are seen in another way. -/
theorem proceeds_mapFault {Other : Type} {change : Fault → Other} {work : Work Fault α}
    {property : Except Other α → AutomateStore → Prop}
    (proceeds : host.Proceeds before along
      (fun result after => property (result.mapError change) after) work) :
    host.Proceeds before along property (work.mapFault change) := by
  intro state here fresh
  obtain ⟨freshFirst, -⟩ := GivesNew.of_bind fresh
  obtain ⟨⟨result, changed, ran, holds⟩, always⟩ := proceeds state here freshFirst
  refine ⟨⟨_, changed, Program.run_bind_of_run ran, holds⟩, fun moment underway => ?_⟩
  obtain former | ⟨_, _, -, latter⟩ := Program.Underway.of_bind underway
  · exact always moment former
  · exact absurd latter id

/-! ### Requests -/

/-- A request to another part of the world. -/
theorem reads_ask (host : FaultyHost State) (before : AutomateStore) (request : Request)
    (give : request.Reply → Except Fault α) (foreign : ∀ own, request ≠ .automate own) :
    host.Reads before (fun result => ∃ reply, before.Lacks request reply ∧ result = give reply)
      (ExceptT.mk (Program.call request fun reply => .pure (give reply))) := by
  rintro state rfl ⟨new, -⟩
  have spared := host.spares request state foreign
  refine ⟨⟨_, _, rfl, spared, _, new, rfl⟩, ?_⟩
  rintro moment (rfl | never)
  · rfl
  · exact absurd never id

theorem Reads.imp {work : Work Fault α} {narrow wide : Except Fault α → Prop}
    (reads : host.Reads before narrow work) (weaker : ∀ result, narrow result → wide result) :
    host.Reads before wide work :=
  Proceeds.imp reads (fun result _ holds => ⟨holds.1, weaker result holds.2⟩) fun _ => id

theorem reads_time :
    host.Reads before (fun result => ∃ now, result = .ok now) (Request.time : Work Fault _) := by
  refine Reads.imp (host.reads_ask before .now .ok nofun) fun result => ?_
  rintro ⟨now, -, rfl⟩
  exact ⟨now, rfl⟩

theorem reads_freshId (kind : IdKind) :
    host.Reads before
      (fun result => ∃ id : Id kind, result = .ok id ∧ before.Lacks (.fresh kind) id.ulid)
      (Request.freshId kind : Work Fault _) := by
  have gives := host.reads_ask before (.fresh kind)
    (fun ulid => (.ok ⟨ulid⟩ : Except Fault (Id kind))) nofun
  refine Reads.imp gives fun result => ?_
  rintro ⟨ulid, new, rfl⟩
  exact ⟨⟨ulid⟩, rfl, new⟩

/-- A subscription changes nothing else of a kind. -/
theorem reads_subscribe (kind : TriggerKind) :
    host.Reads before (fun result => ∀ held, result = .ok held →
      ∃ subscription, held = kind.withSubscription subscription) kind.subscribe := by
  cases kind with
  | contractEvent source own =>
    have replies := host.reads_ask before (.outside (.subscribe source))
      (fun reply => reply.mapError ServiceFault.subscription) nofun
    refine proceeds_bind_of_reads replies rfl (fun fault _ => ⟨rfl, nofun⟩) fun name _ => ?_
    refine proceeds_pure ⟨rfl, ?_⟩
    rintro held ⟨⟩
    exact ⟨some name, rfl⟩
  | everyMonth | everyWeek | everyDay | everyHour =>
    refine proceeds_pure ⟨rfl, ?_⟩
    rintro held ⟨⟩
    exact ⟨none, rfl⟩

/-- A call of the store may fail before it is done or after it. -/
theorem proceeds_serve (request : AutomateRequest) :
    host.Proceeds before (· = before)
      (fun result after =>
        (∃ fault, result = .error fault ∧
          (after = before ∨ after = (request.onStore before).2)) ∨
        result = .ok (request.onStore before).1 ∧ after = (request.onStore before).2)
      request.serve := by
  rintro state rfl -
  refine ⟨?_, ?_⟩
  · obtain ⟨served, after⟩ | ⟨fault, refused, after⟩ := host.answers request state
    · exact ⟨_, _, congrArg (fun reply : Except StoreFault _ =>
        (some (reply.mapError ServiceFault.store), _)) served, Or.inr ⟨rfl, after⟩⟩
    · exact ⟨_, _, congrArg (fun reply : Except StoreFault _ =>
        (some (reply.mapError ServiceFault.store), _)) refused, Or.inl ⟨_, rfl, after⟩⟩
  · rintro moment (rfl | never)
    · rfl
    · exact absurd never id

theorem reads_requireTrigger (id : TriggerId) :
    host.Reads before (fun _ => True) (requireTrigger id) := by
  refine proceeds_bind (proceeds_serve (.getTrigger id)) ?_ ?_
  · rintro fault after (⟨_, -, rfl | rfl⟩ | ⟨never, -⟩)
    · exact ⟨rfl, trivial⟩
    · exact ⟨rfl, trivial⟩
    · cases never
  · rintro found after (⟨_, never, -⟩ | ⟨-, rfl⟩)
    · cases never
    · cases found with
      | none => exact proceeds_ofExcept ⟨rfl, trivial⟩
      | some trigger => exact proceeds_pure ⟨rfl, trivial⟩

theorem reads_requireValid (valid : Except Invalid α) :
    host.Reads before (fun _ => True) (requireValid valid) :=
  proceeds_ofExcept ⟨rfl, trivial⟩

theorem reads_verifyStep {Kind : Type} [BEq Kind] (registry : Registry Kind (StepHandler α))
    (name : Kind → String) (kind : Kind) (params : Json) :
    host.Reads before (fun _ => True) (AutomateService.verifyStep registry name kind params) := by
  have resolved : host.Reads before (fun _ => True)
      (Work.ofExcept ((registry.resolve name kind).mapError ServiceFault.registry)) :=
    proceeds_ofExcept ⟨rfl, trivial⟩
  exact proceeds_bind_of_reads resolved rfl (fun _ _ => ⟨rfl, trivial⟩) fun handler _ =>
    reads_requireValid _

end FaultyHost

/-! ### Calls that make something -/

/-- A record of some kind is added to the store and given back, or there is a fault, and then it may
have been added or not. -/
inductive Adds {α : Type} (before : AutomateStore) (fits : α → AutomateStore → Prop) :
    Except ServiceFault α → AutomateStore → Prop
  | added (made : α) {after : AutomateStore} (fit : fits made after) :
      Adds before fits (.ok made) after
  | lost (made : α) {after : AutomateStore} (fit : fits made after) (fault : ServiceFault) :
      Adds before fits (.error fault) after
  | failed (fault : ServiceFault) : Adds before fits (.error fault) before

theorem Adds.imp {α : Type} {before after : AutomateStore} {narrow wide : α → AutomateStore → Prop}
    {result : Except ServiceFault α} (adds : Adds before narrow result after)
    (weaker : ∀ made after, narrow made after → wide made after) :
    Adds before wide result after := by
  cases adds with
  | added made fit => exact .added made (weaker made _ fit)
  | lost made fit fault => exact .lost made (weaker made _ fit) fault
  | failed fault => exact .failed fault

namespace FaultyHost

variable {State α β Fault : Type} {host : FaultyHost State} {before : AutomateStore}
  {fits : α → AutomateStore → Prop}

theorem proceeds_save (request : AutomateRequest) {made : α}
    (fit : fits made (request.onStore before).2) :
    host.Proceeds before (· = before) (Adds before fits) (do
      let _ ← request.serve
      return made) := by
  refine proceeds_bind (proceeds_serve request) ?_ ?_
  · rintro fault after (⟨_, ⟨⟩, rfl | rfl⟩ | ⟨never, -⟩)
    · exact .failed _
    · exact .lost made fit _
    · cases never
  · rintro _ after (⟨_, never, -⟩ | ⟨-, rfl⟩)
    · cases never
    · exact proceeds_pure (.added made fit)

/-- Work that adds something, whose fault is seen in another way, and work after it. -/
theorem proceeds_bind_of_adds {along : AutomateStore → Prop}
    {property : Except Fault β → AutomateStore → Prop} {change : ServiceFault → Fault}
    {work : Work ServiceFault α} {f : α → Work Fault β}
    (adds : host.Proceeds before (· = before) (Adds before fits) work) (here : along before)
    (failed : ∀ cause, property (.error (change cause)) before)
    (lost : ∀ cause a after, fits a after → property (.error (change cause)) after)
    (later : ∀ a after, fits a after → host.Proceeds after along property (f a)) :
    host.Proceeds before along property (work.mapFault change >>= f) := by
  have mapped : host.Proceeds before along
      (fun result after =>
        (∃ cause, result = .error (change cause) ∧ (after = before ∨ ∃ a, fits a after)) ∨
        ∃ a, result = .ok a ∧ fits a after) (work.mapFault change) := by
    refine proceeds_mapFault (adds.imp ?_ fun store same => same ▸ here)
    rintro result after (⟨made, fit⟩ | ⟨made, fit, cause⟩ | cause)
    · exact Or.inr ⟨made, rfl, fit⟩
    · exact Or.inl ⟨cause, rfl, Or.inr ⟨made, fit⟩⟩
    · exact Or.inl ⟨cause, rfl, Or.inl rfl⟩
  refine proceeds_bind mapped ?_ ?_
  · rintro fault after (⟨cause, ⟨⟩, rfl | ⟨a, fit⟩⟩ | ⟨_, never, -⟩)
    · exact failed cause
    · exact lost cause a after fit
    · cases never
  · rintro a after (⟨_, never, -⟩ | ⟨_, ⟨⟩, fit⟩)
    · cases never
    · exact later a after fit

end FaultyHost

namespace Step

variable {record : IdKind} {Kind : Type} {step : Step record Kind}

/-- The step as a rule says it. -/
def asRule (step : Step record Kind) : StepRule Kind := ⟨step.kind, step.params, step.priority⟩

theorem upsert_of_new {steps : List (Step record Kind)}
    (new : ∀ other ∈ steps, other.id.ulid ≠ step.id.ulid) :
    upsert steps step = steps ++ [step] := by
  refine if_neg fun known => ?_
  obtain ⟨other, member, same⟩ := List.any_eq_true.mp known
  exact new other member (congrArg Id.ulid (of_decide_eq_true same))

end Step

/-- The trigger is as it was asked for, but for its subscription, and it has not run yet. -/
structure Trigger.IsUnrun (trigger : Trigger) (name : String) (kind : TriggerKind) : Prop where
  name_eq : trigger.name = name
  kind_eq : ∃ subscription, trigger.kind = kind.withSubscription subscription
  active : trigger.active = true
  retries : trigger.retries = 0

namespace AutomateService

open FaultyHost

variable {State : Type} {host : FaultyHost State} {before : AutomateStore}

/-- A new trigger has an identifier that no trigger has, and it is as it was asked for. -/
structure IsMade (before : AutomateStore) (name : String) (kind : TriggerKind) (trigger : Trigger)
    (after : AutomateStore) : Prop where
  new : ∀ other ∈ before.triggers, other.id ≠ trigger.id
  saved : after = before.saveTrigger trigger
  unrun : trigger.IsUnrun name kind

theorem proceeds_createTrigger (service : AutomateService) (wallet : WalletId) (name : String)
    (kind : TriggerKind) :
    host.Proceeds before (· = before) (Adds before (IsMade before name kind))
      (service.createTrigger wallet name kind) := by
  refine proceeds_bind_of_reads (reads_requireValid _) rfl (fun _ _ => .failed _) fun _ _ => ?_
  refine proceeds_bind_of_reads (reads_subscribe kind) rfl (fun _ _ => .failed _)
    fun held subscribed => ?_
  refine proceeds_bind_of_reads (reads_freshId .trigger) rfl (fun _ _ => .failed _)
    fun id given => ?_
  obtain ⟨_, ⟨⟩, new⟩ := given
  refine proceeds_bind_of_reads reads_time rfl (fun _ _ => .failed _) fun now _ => ?_
  refine proceeds_save (.saveTrigger _) ⟨fun other member same => ?_, rfl, rfl, ?_, rfl, rfl⟩
  · exact new other member (congrArg Id.ulid same)
  · exact subscribed held rfl

/-- A new step is as it was asked for, and it is the last of all. -/
structure IsAdded {record : IdKind} {Kind : Type} (steps : List (Step record Kind))
    (trigger : TriggerId) (rule : StepRule Kind) (step : Step record Kind)
    (left : List (Step record Kind)) : Prop where
  last : left = steps ++ [step]
  trigger_eq : step.trigger = trigger
  asRule_eq : step.asRule = rule

theorem IsAdded.before_or_own {record : IdKind} {Kind : Type}
    {steps left : List (Step record Kind)} {trigger : TriggerId} {rule : StepRule Kind}
    {step other : Step record Kind} (added : IsAdded steps trigger rule step left)
    (member : other ∈ left) : other ∈ steps ∨ other.trigger = trigger := by
  rw [added.last] at member
  obtain before | new := List.mem_append.mp member
  · exact Or.inl before
  · rw [List.mem_singleton.mp new]
    exact Or.inr added.trigger_eq

theorem proceeds_addStep {record : IdKind} {Kind α : Type} [BEq Kind]
    (save : Step record Kind → AutomateRequest)
    {fits : Step record Kind → AutomateStore → Prop} (registry : Registry Kind (StepHandler α))
    (name : Kind → String) (trigger : TriggerId) (kind : Kind) (params : Json) (priority : Int)
    (saves : ∀ id now, before.Lacks (.fresh record) id.ulid →
      fits (.new id trigger kind params priority now)
        ((save (.new id trigger kind params priority now)).onStore before).2) :
    host.Proceeds before (· = before) (Adds before fits) (do
      let _ ← requireTrigger trigger
      verifyStep registry name kind params
      let id ← Request.freshId record
      let now ← Request.time
      let _ ← (save (.new id trigger kind params priority now)).serve
      return .new id trigger kind params priority now :
        Work ServiceFault (Step record Kind)) := by
  refine proceeds_bind_of_reads (FaultyHost.reads_requireTrigger trigger) rfl (fun _ _ => .failed _)
    fun _ _ => ?_
  refine proceeds_bind_of_reads (reads_verifyStep registry name kind params) rfl
    (fun _ _ => .failed _) fun _ _ => ?_
  refine proceeds_bind_of_reads (reads_freshId record) rfl (fun _ _ => .failed _) fun id given => ?_
  obtain ⟨_, ⟨⟩, new⟩ := given
  refine proceeds_bind_of_reads reads_time rfl (fun _ _ => .failed _) fun now _ => ?_
  exact proceeds_save (save _) (saves id now new)

theorem proceeds_addCondition (service : AutomateService) (trigger : TriggerId)
    (rule : StepRule ConditionKind) :
    host.Proceeds before (· = before)
      (Adds before fun step after => ∃ left, IsAdded before.conditions trigger rule step left ∧
        after = { before with conditions := left })
      (service.addCondition trigger rule.kind rule.params rule.priority) :=
  proceeds_addStep .saveCondition _ _ _ _ _ _ fun _ _ new =>
    ⟨_, ⟨Step.upsert_of_new new, rfl, rfl⟩, rfl⟩

theorem proceeds_addAction (service : AutomateService) (trigger : TriggerId)
    (rule : StepRule ActionKind) :
    host.Proceeds before (· = before)
      (Adds before fun step after => ∃ left, IsAdded before.actions trigger rule step left ∧
        after = { before with actions := left })
      (service.addAction trigger rule.kind rule.params rule.priority) :=
  proceeds_addStep .saveAction _ _ _ _ _ _ fun _ _ new =>
    ⟨_, ⟨Step.upsert_of_new new, rfl, rfl⟩, rfl⟩

end AutomateService

end TaskAutomation
