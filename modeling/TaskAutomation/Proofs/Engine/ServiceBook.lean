import TaskAutomation.Proofs.Engine.TriggerChange

/-!
This file keeps book of the subscriptions to the events of contracts. A booked host writes down
every subscription that was made and every one that was asked to be ended, the identifiers that were
made for triggers, and how often the store has refused to write a trigger. What each of the three
calls for triggers can come to is then listed, with the store and the book that it leaves behind:
each of them ends, and it is told apart whether it failed before its write, in its write or not at
all.
-/

namespace TaskAutomation

/-! ### The book -/

/-- What has been asked of the subscriber, and what else bears on it. -/
structure ServiceBook where
  /-- The subscriptions that were made, each with its source. -/
  granted : List (EventSource × String)
  /-- The subscriptions that were asked to be ended, whether or not that has succeeded. -/
  ended : List String
  /-- The identifiers that were made for triggers. -/
  made : List TriggerId
  /-- How often the store has refused to save or to delete a trigger. -/
  refusals : Nat

namespace ServiceBook

def empty : ServiceBook := ⟨[], [], [], 0⟩

/-- The book with a new subscription. -/
def grant (book : ServiceBook) (source : EventSource) (name : String) : ServiceBook :=
  { book with granted := book.granted ++ [(source, name)] }

/-- The book after a subscription was asked to be ended, if one is given. -/
def release (book : ServiceBook) (subscription : Option String) : ServiceBook :=
  { book with ended := book.ended ++ subscription.toList }

/-- The book with a new identifier. -/
def make (book : ServiceBook) (id : TriggerId) : ServiceBook :=
  { book with made := book.made ++ [id] }

/-- The book after the store has refused a write. -/
def refuse (book : ServiceBook) : ServiceBook := { book with refusals := book.refusals + 1 }

/-- The book after a request was answered. -/
def enter (book : ServiceBook) : (request : Request) → request.Reply → ServiceBook
  | .outside (.subscribe source), .ok name => book.grant source name
  | .outside (.unsubscribe name), _ => book.release (some name)
  | .fresh .trigger, ulid => book.make ⟨ulid⟩
  | .automate (.saveTrigger _), .error _ | .automate (.deleteTrigger _), .error _ => book.refuse
  | _, _ => book

/-- The names of all subscriptions that were made. -/
def names (book : ServiceBook) : List String := book.granted.map Prod.snd

/-- The names of the subscriptions that were made and not asked to be ended. -/
def live (book : ServiceBook) : List String := book.names.filter fun name => name ∉ book.ended

end ServiceBook

/-- Two books tell of the same subscriptions. -/
structure ServiceBook.SameSubscriptions (before after : ServiceBook) : Prop where
  granted : after.granted = before.granted
  ended : after.ended = before.ended

/-- Two books tell of the same subscriptions and the same identifiers. -/
structure ServiceBook.SameEntries (before after : ServiceBook) : Prop
    extends ServiceBook.SameSubscriptions before after where
  made : after.made = before.made

/-- The request makes no entry in a book, unless it is refused. -/
def Request.IsUnbooked (request : Request) : Prop :=
  ∀ (book : ServiceBook) reply, book.SameEntries (book.enter request reply)

theorem Request.isUnbooked_automate (own : AutomateRequest) : IsUnbooked (.automate own) := by
  intro book reply
  cases own <;> cases reply <;> exact ⟨⟨rfl, rfl⟩, rfl⟩

theorem Request.IsForSteps.isUnbooked {request : Request} (steps : request.IsForSteps) :
    request.IsUnbooked := by
  cases steps with
  | now => exact fun _ _ => ⟨⟨rfl, rfl⟩, rfl⟩
  | fresh kind step =>
    cases kind with
    | trigger => exact absurd rfl step
    | _ => exact fun _ _ => ⟨⟨rfl, rfl⟩, rfl⟩
  | _ => exact isUnbooked_automate _

/-- The automation store and the book. -/
structure ServiceView where
  store : AutomateStore
  book : ServiceBook

/-! ### Booked hosts -/

/-- Where programs reach an automation store, with a book of their requests. -/
structure BookedHost (State : Type) extends AutomateHost State where
  book : State → ServiceBook
  notes : ∀ request state,
    book (answer request state).2 = (book state).enter request (answer request state).1

/-- A host next to which a book is kept. -/
def AutomateHost.booked {State : Type} (host : AutomateHost State) :
    BookedHost (State × ServiceBook) where
  answer request moment :=
    ((host.answer request moment.1).1, (host.answer request moment.1).2,
      moment.2.enter request (host.answer request moment.1).1)
  store moment := host.store moment.1
  Steady moment := host.Steady moment.1
  answers request moment := host.answers request moment.1
  spares request moment := host.spares request moment.1
  calm request moment := host.calm request moment.1
  book := Prod.snd
  notes _ _ := rfl

namespace BookedHost

variable {State α β Fault : Type} {host : BookedHost State} {before : ServiceView}

def view (host : BookedHost State) (state : State) : ServiceView :=
  ⟨host.store state, host.book state⟩

/-- From every state with some view work comes to an end, and its result and the view after it have
a property. -/
def Ends (host : BookedHost State) (before : ServiceView) (work : Work Fault α)
    (property : Except Fault α → ServiceView → Prop) : Prop :=
  ∀ state, host.view state = before → ∃ result changed,
    work.run.run host.answer state = (some result, changed) ∧ property result (host.view changed)

theorem ends_pure {a : α} {property : Except Fault α → ServiceView → Prop}
    (holds : property (.ok a) before) : host.Ends before (pure a) property :=
  fun state here => ⟨.ok a, state, rfl, here ▸ holds⟩

theorem ends_ofExcept {result : Except Fault α} {property : Except Fault α → ServiceView → Prop}
    (holds : property result before) : host.Ends before (Work.ofExcept result) property :=
  fun state here => ⟨result, state, rfl, here ▸ holds⟩

/-- Work after other work comes to an end if both do. -/
theorem ends_bind {work : Work Fault α} {f : α → Work Fault β}
    {middle : Except Fault α → ServiceView → Prop} {property : Except Fault β → ServiceView → Prop}
    (first : host.Ends before work middle)
    (failed : ∀ fault after, middle (.error fault) after → property (.error fault) after)
    (later : ∀ a after, middle (.ok a) after → host.Ends after (f a) property) :
    host.Ends before (work >>= f) property := by
  intro state here
  obtain ⟨result, changed, ran, holds⟩ := first state here
  cases result with
  | error fault => exact ⟨_, changed, Work.run_bind_error f ran, failed fault _ holds⟩
  | ok a =>
    obtain ⟨ending, final, rest, ended⟩ := later a _ holds changed rfl
    exact ⟨ending, final, (Work.run_bind ran).trans rest, ended⟩

/-- Work that cannot fail is followed by the work after it. -/
theorem ends_sure {work : Work Fault α} {f : α → Work Fault β} {gives : α → ServiceView → Prop}
    {property : Except Fault β → ServiceView → Prop}
    (first : host.Ends before work fun result after => ∃ a, result = .ok a ∧ gives a after)
    (later : ∀ a after, gives a after → host.Ends after (f a) property) :
    host.Ends before (work >>= f) property := by
  refine ends_bind first (fun fault after given => ?_) fun a after given => ?_
  · obtain ⟨_, same, -⟩ := given
    cases same
  · obtain ⟨_, same, given⟩ := given
    cases same
    exact later a after given

theorem Ends.imp {work : Work Fault α} {narrow wide : Except Fault α → ServiceView → Prop}
    (ends : host.Ends before work narrow)
    (weaker : ∀ result after, narrow result after → wide result after) :
    host.Ends before work wide := by
  intro state here
  obtain ⟨result, changed, ran, holds⟩ := ends state here
  exact ⟨result, changed, ran, weaker result _ holds⟩

/-- What is known of the end of work holds for every run of it. -/
theorem Ends.perform {work : Work Fault α} {property : Except Fault α → ServiceView → Prop}
    {state : State} (ends : host.Ends (host.view state) work property) :
    ∃ ending, (host.perform work.run state).1 = some ending ∧
      property ending (host.view (host.perform work.run state).2) := by
  obtain ⟨ending, changed, ran, holds⟩ := ends state rfl
  unfold AutomateHost.perform
  rw [ran]
  exact ⟨ending, rfl, holds⟩

/-- A run that makes no booked requests leaves the entries as they are. -/
theorem sameEntries_run {program : Program α} {state : State}
    (unbooked : program.Asks host.answer Request.IsUnbooked state) :
    (host.book state).SameEntries (host.book (program.run host.answer state).2) := by
  refine unbooked.run (fun moment => (host.book state).SameEntries (host.book moment)) ?_
    ⟨⟨rfl, rfl⟩, rfl⟩
  intro request moment kind same
  have entered := kind (host.book moment) (host.answer request moment).1
  rw [host.notes]
  exact ⟨⟨entered.granted.trans same.granted, entered.ended.trans same.ended⟩,
    entered.made.trans same.made⟩

theorem refusals_answer (request : Request) {state : State} (steady : host.Steady state) :
    (host.book (host.answer request state).2).refusals = (host.book state).refusals := by
  rw [host.notes]
  cases request with
  | automate own =>
    rw [(host.serves steady own).1]
    cases own <;> rfl
  | outside own =>
    generalize (host.answer (.outside own) state).1 = reply
    cases own <;> cases reply <;> rfl
  | fresh kind => cases kind <;> rfl
  | now | elapse | tasks => rfl

/-- As long as no call of the store is about to fail, it refuses no write. -/
theorem refusals_run (program : Program α) {state : State} (steady : host.Steady state) :
    (host.book (program.run host.answer state).2).refusals = (host.book state).refusals := by
  induction program generalizing state with
  | pure a => rfl
  | call request next inductionHypothesis =>
    exact (inductionHypothesis _ (host.calm request state steady)).trans
      (refusals_answer request steady)
  | sleep delay next inductionHypothesis => exact inductionHypothesis steady
  | hang => rfl
  | panic message => rfl

/-! ### Requests -/

/-- A request to the store is served, or it is refused and the store stays as it is. -/
theorem ends_serve (request : AutomateRequest) :
    host.Ends before request.serve fun result after =>
      result = .ok (request.onStore before.store).1 ∧
          after = ⟨(request.onStore before.store).2,
            before.book.enter (.automate request) (.ok (request.onStore before.store).1)⟩ ∨
        ∃ fault, result = .error (.store fault) ∧
          after = ⟨before.store, before.book.enter (.automate request) (.error fault)⟩ := by
  rintro state rfl
  have booked := host.notes (.automate request) state
  refine ⟨(host.answer (.automate request) state).1.mapError .store, _, rfl, ?_⟩
  unfold view
  obtain ⟨served, store⟩ | ⟨fault, refused, store, -⟩ := host.answers request state
  · rw [booked, store, served]
    exact Or.inl ⟨rfl, rfl⟩
  · rw [booked, store, refused]
    exact Or.inr ⟨fault, rfl, rfl⟩

/-- The work after a request to the store goes on unless the request is refused. -/
theorem ends_served {request : AutomateRequest} {f : request.Result → Work ServiceFault β}
    {property : Except ServiceFault β → ServiceView → Prop}
    (refused : ∀ fault, property (.error (.store fault))
      ⟨before.store, before.book.enter (.automate request) (.error fault)⟩)
    (later : host.Ends ⟨(request.onStore before.store).2,
        before.book.enter (.automate request) (.ok (request.onStore before.store).1)⟩
      (f (request.onStore before.store).1) property) :
    host.Ends before (request.serve >>= f) property := by
  refine ends_bind (ends_serve request) (fun fault after served => ?_) fun a after served => ?_
  · obtain ⟨same, -⟩ | ⟨fault, same, rfl⟩ := served
    · cases same
    · cases same
      exact refused fault
  · obtain ⟨same, rfl⟩ | ⟨_, same, -⟩ := served
    · cases same
      exact later
    · cases same

/-- A request that is not one to the store only makes its entry. -/
theorem view_answer (request : Request) (foreign : ∀ own, request ≠ .automate own)
    (state : State) :
    host.view (host.answer request state).2 =
      ⟨host.store state, (host.book state).enter request (host.answer request state).1⟩ := by
  unfold view
  rw [host.notes, host.spares request state foreign]

theorem ends_time :
    host.Ends before (Request.time : Work Fault Instant) fun result after =>
      ∃ now, result = .ok now ∧ after = before := by
  rintro state rfl
  exact ⟨_, _, rfl, _, rfl, view_answer .now (fun _ same => nomatch same) state⟩

theorem ends_freshId :
    host.Ends before (Request.freshId .trigger : Work Fault TriggerId) fun result after =>
      ∃ id, result = .ok id ∧ after = ⟨before.store, before.book.make id⟩ := by
  rintro state rfl
  exact ⟨_, _, rfl, _, rfl, view_answer (.fresh .trigger) (fun _ same => nomatch same) state⟩

/-- A request to the world outside only makes its entry. -/
theorem ends_outside (own : OutsideRequest) (f : Failure → Fault) :
    host.Ends before (own.ask.mapFault f) fun result after =>
      ∃ reply : Except Failure own.Result, result = reply.mapError f ∧
        after = ⟨before.store, before.book.enter (.outside own) reply⟩ := by
  rintro state rfl
  exact ⟨_, _, rfl, _, rfl, view_answer (.outside own) (fun _ same => nomatch same) state⟩

end BookedHost

/-- Work gives a value and leads to a book, or it fails and leaves all as it was. Either way the
store stays as it was. -/
inductive Books {α Fault : Type} (before : ServiceView) (gives : α → ServiceBook → Prop) :
    Except Fault α → ServiceView → Prop
  | failed (fault : Fault) : Books before gives (.error fault) before
  | done (a : α) (booked : ServiceBook) (given : gives a booked) :
      Books before gives (.ok a) ⟨before.store, booked⟩

/-- What subscribing for a kind gives, and the book after it. -/
inductive Subscribes (book : ServiceBook) : TriggerKind → TriggerKind → ServiceBook → Prop
  | timed (kind : TriggerKind) (timeBased : kind.isTimeBased = true) :
      Subscribes book kind kind book
  | granted (source : EventSource) (own : Option String) (name : String) :
      Subscribes book (.contractEvent source own) (.contractEvent source (some name))
        (book.grant source name)

theorem Subscribes.refusals {book booked : ServiceBook} {kind held : TriggerKind}
    (subscribes : Subscribes book kind held booked) : booked.refusals = book.refusals := by
  cases subscribes <;> rfl

/-- What becomes of the kind of a trigger by a change, and the book after it. -/
inductive Switches (book : ServiceBook) (held : TriggerKind) :
    Option TriggerKind → TriggerKind → ServiceBook → Prop
  | kept : Switches book held none held book
  | carried (kind : TriggerKind) (same : held.sameSource kind = true) :
      Switches book held (some kind) (kind.withSubscription held.subscription?) book
  | replaced (kind new : TriggerKind) (booked : ServiceBook) (other : held.sameSource kind = false)
      (subscribed : Subscribes book kind new booked) :
      Switches book held (some kind) new (booked.release held.subscription?)

theorem Switches.refusals {book booked : ServiceBook} {held new : TriggerKind}
    {kind : Option TriggerKind} (switches : Switches book held kind new booked) :
    booked.refusals = book.refusals := by
  cases switches with
  | kept | carried => rfl
  | replaced kind new booked other subscribed => exact subscribed.refusals

namespace BookedHost

variable {State α β : Type} {host : BookedHost State} {before : ServiceView}

/-- Work that fails leaves all as it was, and otherwise the work goes on. -/
theorem ends_books {Fault : Type} {work : Work Fault α} {f : α → Work Fault β}
    {gives : α → ServiceBook → Prop} {property : Except Fault β → ServiceView → Prop}
    (first : host.Ends before work (Books before gives))
    (failed : ∀ fault, property (.error fault) before)
    (later : ∀ a booked, gives a booked → host.Ends ⟨before.store, booked⟩ (f a) property) :
    host.Ends before (work >>= f) property := by
  refine ends_bind first (fun fault after ends => ?_) fun a after ends => ?_
  · cases ends
    exact failed fault
  · cases ends with
    | done a booked given => exact later a booked given

theorem ends_requireValid (valid : Except Invalid Unit) :
    host.Ends before (requireValid valid) (Books before fun _ booked =>
      valid = .ok () ∧ booked = before.book) := by
  refine ends_ofExcept ?_
  cases valid with
  | error invalid => exact .failed _
  | ok => exact .done () before.book ⟨rfl, rfl⟩

theorem ends_requireTrigger (id : TriggerId) :
    host.Ends before (requireTrigger id) (Books before fun held booked =>
      before.store.trigger? id = some held ∧ booked = before.book) := by
  refine ends_served (fun fault => .failed _) ?_
  cases known : before.store.trigger? id with
  | none =>
    simp only [AutomateRequest.onStore, known]
    exact ends_ofExcept (.failed _)
  | some held =>
    simp only [AutomateRequest.onStore, known]
    exact ends_pure (.done held before.book ⟨rfl, rfl⟩)

theorem ends_subscribe (kind : TriggerKind) :
    host.Ends before kind.subscribe (Books before (Subscribes before.book kind)) := by
  cases kind with
  | contractEvent source own =>
    refine ends_bind (ends_outside (.subscribe source) ServiceFault.subscription) ?_ ?_
    · rintro fault after ⟨reply | name, same, rfl⟩
      · exact .failed fault
      · cases same
    · rintro name after ⟨reply | _, same, rfl⟩
      · cases same
      · cases same
        exact ends_pure (.done _ _ (.granted source own name))
  | everyMonth | everyWeek | everyDay | everyHour =>
    exact ends_pure (.done _ before.book (.timed _ rfl))

theorem ends_unsubscribe (kind : TriggerKind) :
    host.Ends before kind.unsubscribe fun result after =>
      ∃ done, result = .ok done ∧
        after = ⟨before.store, before.book.release kind.subscription?⟩ := by
  unfold TriggerKind.unsubscribe
  cases kind.subscription? with
  | none =>
    refine ends_pure ⟨(), rfl, ?_⟩
    rw [ServiceBook.release, Option.toList_none, List.append_nil]
  | some name =>
    rintro state rfl
    exact ⟨_, _, rfl, (), rfl,
      view_answer (.outside (.unsubscribe name)) (fun _ same => nomatch same) state⟩

/-- A change of a kind that fails has done nothing. -/
theorem ends_changeKind (service : AutomateService) (name : String) (held : TriggerKind)
    (kind : Option TriggerKind) :
    host.Ends before (service.changeKind name held kind)
      (Books before (Switches before.book held kind)) := by
  cases kind with
  | none =>
    refine ends_books (ends_requireValid _) .failed ?_
    rintro _ _ ⟨-, rfl⟩
    exact ends_pure (.done held before.book .kept)
  | some kind =>
    refine ends_books (ends_requireValid _) .failed ?_
    rintro _ _ ⟨-, rfl⟩
    cases same : held.sameSource kind with
    | true =>
      rw [if_pos rfl]
      exact ends_pure (.done _ before.book (.carried kind same))
    | false =>
      rw [if_neg nofun]
      refine ends_books (ends_subscribe kind) .failed fun new booked subscribed => ?_
      refine ends_sure (ends_unsubscribe held) ?_
      rintro _ _ rfl
      exact ends_pure (.done new _ (.replaced kind new booked same subscribed))

end BookedHost

/-! ### Calls for triggers -/

/-- All that making a trigger can come to. -/
inductive Creates (wallet : WalletId) (name : String) (kind : TriggerKind) (before : ServiceView) :
    Except ServiceFault Trigger → ServiceView → Prop
  /-- Nothing was done. -/
  | refused (fault : ServiceFault) : Creates wallet name kind before (.error fault) before
  /-- Only the subscription was made. -/
  | unsaved (held : TriggerKind) (booked : ServiceBook)
      (subscribed : Subscribes before.book kind held booked) (id : TriggerId) (fault : StoreFault) :
      Creates wallet name kind before (.error (.store fault))
        ⟨before.store, (booked.make id).refuse⟩
  | saved (held : TriggerKind) (booked : ServiceBook)
      (subscribed : Subscribes before.book kind held booked) (id : TriggerId) (now : Instant) :
      Creates wallet name kind before (.ok (.new id wallet name held now))
        ⟨before.store.saveTrigger (.new id wallet name held now), booked.make id⟩

/-- All that changing a trigger can come to. -/
inductive Updates (id : TriggerId) (update : TriggerUpdate) (before : ServiceView) :
    Except ServiceFault Trigger → ServiceView → Prop
  /-- Nothing was done. -/
  | refused (fault : ServiceFault) : Updates id update before (.error fault) before
  /-- Only the subscription was changed. -/
  | unsaved (held : Trigger) (found : before.store.trigger? id = some held) (kind : TriggerKind)
      (booked : ServiceBook) (switched : Switches before.book held.kind update.kind kind booked)
      (fault : StoreFault) :
      Updates id update before (.error (.store fault)) ⟨before.store, booked.refuse⟩
  | saved (held : Trigger) (found : before.store.trigger? id = some held) (kind : TriggerKind)
      (booked : ServiceBook) (switched : Switches before.book held.kind update.kind kind booked)
      (now : Instant) :
      Updates id update before (.ok (AutomateService.updated held update kind now))
        ⟨before.store.saveTrigger (AutomateService.updated held update kind now), booked⟩

/-- All that deleting a trigger can come to. -/
inductive Deletes (id : TriggerId) (before : ServiceView) :
    Except ServiceFault Bool → ServiceView → Prop
  /-- Nothing was done. -/
  | refused (fault : ServiceFault) : Deletes id before (.error fault) before
  | absent (unknown : before.store.trigger? id = none) : Deletes id before (.ok false) before
  /-- Only the subscription was ended. -/
  | kept (held : Trigger) (found : before.store.trigger? id = some held) (fault : StoreFault) :
      Deletes id before (.error (.store fault))
        ⟨before.store, (before.book.release held.kind.subscription?).refuse⟩
  | deleted (held : Trigger) (found : before.store.trigger? id = some held) (result : Bool) :
      Deletes id before (.ok result)
        ⟨(before.store.deleteTrigger id).2, before.book.release held.kind.subscription?⟩

namespace BookedHost

variable {State : Type} (host : BookedHost State) (before : ServiceView)

theorem ends_createTrigger (service : AutomateService) (wallet : WalletId) (name : String)
    (kind : TriggerKind) :
    host.Ends before (service.createTrigger wallet name kind)
      (Creates wallet name kind before) := by
  refine ends_books (ends_requireValid _) .refused ?_
  rintro _ _ ⟨-, rfl⟩
  refine ends_books (ends_subscribe kind) .refused fun held booked subscribed => ?_
  refine ends_sure ends_freshId ?_
  rintro id _ rfl
  refine ends_sure ends_time ?_
  rintro now _ rfl
  exact ends_served (fun fault => .unsaved held booked subscribed id fault)
    (ends_pure (.saved held booked subscribed id now))

theorem ends_updateTrigger (service : AutomateService) (id : TriggerId) (update : TriggerUpdate) :
    host.Ends before (service.updateTrigger id update) (Updates id update before) := by
  refine ends_books (ends_requireTrigger id) .refused ?_
  rintro held _ ⟨found, rfl⟩
  refine ends_books (ends_changeKind _ _ held.kind update.kind) .refused
    fun kind booked switched => ?_
  refine ends_sure ends_time ?_
  rintro now _ rfl
  exact ends_served (fun fault => .unsaved held found kind booked switched fault)
    (ends_pure (.saved held found kind booked switched now))

theorem ends_deleteTrigger (id : TriggerId) :
    host.Ends before (AutomateService.deleteTrigger id) (Deletes id before) := by
  refine ends_served (fun fault => .refused _) ?_
  cases known : before.store.trigger? id with
  | none =>
    simp only [AutomateRequest.onStore, known]
    exact ends_pure (.absent known)
  | some held =>
    simp only [AutomateRequest.onStore, known]
    refine ends_sure (ends_unsubscribe held.kind) ?_
    rintro _ _ rfl
    refine (ends_serve (.deleteTrigger id)).imp fun result after served => ?_
    obtain ⟨rfl, rfl⟩ | ⟨fault, rfl, rfl⟩ := served
    · exact .deleted held known _
    · exact .kept held known fault

end BookedHost

end TaskAutomation
