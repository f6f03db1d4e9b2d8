import TaskAutomation.Engine.Simulated
import TaskAutomation.Proofs.Engine.CalledTriggers
import TaskAutomation.Proofs.Engine.OwnSteps
import TaskAutomation.Proofs.Engine.RetryCeiling
import TaskAutomation.Proofs.Engine.ServiceBook

/-!
This file proves that subscriptions and triggers belong together one to one, as long as no call of
the store fails and whatever the subscriber refuses. The invariant counts: a name stands as often
among the subscriptions that triggers hold and among those that were asked to be ended, taken
together, as among those that were made. Each call moves a name from one side to the other or adds
it to both.
-/

namespace TaskAutomation

/-! ### Names that are held -/

/-- The names of the subscriptions that triggers hold. -/
def heldNames (triggers : List Trigger) : List String :=
  triggers.filterMap fun trigger => trigger.kind.subscription?

section

variable {triggers : List Trigger} {trigger held : Trigger}

theorem heldNames_cons (trigger : Trigger) (rest : List Trigger) :
    heldNames (trigger :: rest) = trigger.kind.subscription?.toList ++ heldNames rest := by
  unfold heldNames
  rw [List.filterMap_cons]
  cases trigger.kind.subscription? <;> rfl

theorem mem_heldNames {name : String} :
    name ∈ heldNames triggers ↔ ∃ trigger ∈ triggers, trigger.kind.subscription? = some name :=
  List.mem_filterMap

theorem count_heldNames_of_perm {others : List Trigger} (perm : triggers.Perm (trigger :: others))
    (name : String) : (heldNames triggers).count name =
      trigger.kind.subscription?.toList.count name + (heldNames others).count name := by
  have same : (heldNames triggers).Perm (heldNames (trigger :: others)) := perm.filterMap _
  rw [same.count_eq name, heldNames_cons, List.count_append]

/-- Two triggers that hold one subscription are one, if it stands only once among those that are
held. -/
theorem eq_of_count_le_one {first second : Trigger} {name : String} (former : first ∈ triggers)
    (latter : second ∈ triggers) (holds : first.kind.subscription? = some name)
    (shares : second.kind.subscription? = some name)
    (once : (heldNames triggers).count name ≤ 1) : first = second := by
  by_contra different
  have perm := List.perm_cons_erase former
  have counted := count_heldNames_of_perm perm name
  have behind : second ∈ triggers.erase first :=
    (List.mem_erase_of_ne (Ne.symm different)).mpr latter
  have again : 0 < (heldNames (triggers.erase first)).count name :=
    List.count_pos_iff.mpr (mem_heldNames.mpr ⟨second, behind, shares⟩)
  rw [holds, Option.toList_some, List.count_singleton_self] at counted
  omega

end

/-! ### The invariant -/

/-- A kind that fires upon events holds a subscription that was made for its source. -/
def TriggerKind.Subscribed (granted : List (EventSource × String)) : TriggerKind → Prop
  | contractEvent source subscription =>
    ∃ made name, subscription = some name ∧ (made, name) ∈ granted ∧ source.same made = true
  | _ => True

/-- The subscriptions of triggers have their places. -/
structure Subscriptions (triggers : List Trigger) (book : ServiceBook) : Prop where
  ascends : AutomateStore.Ascends triggers
  known : ∀ trigger ∈ triggers, trigger.id ∈ book.made
  subscribed : ∀ trigger ∈ triggers, trigger.kind.Subscribed book.granted
  /-- A subscription that was made is held, or it was asked to be ended. -/
  counted : ∀ name, (heldNames triggers).count name + book.ended.count name = book.names.count name

variable {before after : ServiceView} {triggers : List Trigger} {book booked : ServiceBook}
  {held : TriggerKind} {kind new : TriggerKind}

theorem TriggerKind.Subscribed.mono {granted more : List (EventSource × String)}
    (subscribed : kind.Subscribed granted) (grows : granted ⊆ more) : kind.Subscribed more := by
  cases kind with
  | contractEvent source subscription =>
    obtain ⟨made, name, same, member, own⟩ := subscribed
    exact ⟨made, name, same, grows member, own⟩
  | _ => trivial

/-- What is gained by subscribing for a kind. -/
structure Gains (book booked : ServiceBook) (new : TriggerKind) : Prop where
  subscribed : new.Subscribed booked.granted
  grows : book.granted ⊆ booked.granted
  names : booked.names = book.names ++ new.subscription?.toList
  ended : booked.ended = book.ended
  made : booked.made = book.made

theorem Subscribes.gains (subscribes : Subscribes book kind new booked) :
    Gains book booked new := by
  cases subscribes with
  | timed _ timeBased =>
    cases kind with
    | contractEvent => cases timeBased
    | _ => exact ⟨trivial, fun _ member => member, (List.append_nil _).symm, rfl, rfl⟩
  | granted source own name =>
    refine ⟨⟨source, name, rfl, ?_, source.same_refl⟩, ?_, ?_, rfl, rfl⟩
    · exact List.mem_append_right _ List.mem_cons_self
    · exact fun _ member => List.mem_append_left _ member
    · exact List.map_append

theorem Switches.made {kind : Option TriggerKind} (switches : Switches book held kind new booked) :
    booked.made = book.made := by
  cases switches with
  | kept | carried => rfl
  | replaced kind new booked other subscribes => exact subscribes.gains.made

/-- What is gained and given up by a change of a kind. -/
structure Trades (book booked : ServiceBook) (held new : TriggerKind) : Prop where
  subscribed : new.Subscribed booked.granted
  grows : book.granted ⊆ booked.granted
  counted : ∀ name,
    new.subscription?.toList.count name + booked.ended.count name + book.names.count name =
      held.subscription?.toList.count name + book.ended.count name + booked.names.count name

theorem Switches.trades {kind : Option TriggerKind} (switches : Switches book held kind new booked)
    (subscribed : held.Subscribed book.granted) : Trades book booked held new := by
  cases switches with
  | kept => exact ⟨subscribed, fun _ member => member, fun _ => rfl⟩
  | carried kind same =>
    cases held with
    | contractEvent source own =>
      cases kind with
      | contractEvent other _ =>
        obtain ⟨made, name, has, member, fits⟩ := subscribed
        exact ⟨⟨made, name, has, member, EventSource.same_of_same same fits⟩,
          fun _ member => member, fun _ => rfl⟩
      | _ => cases same
    | _ =>
      obtain rfl := eq_of_beq same
      exact ⟨trivial, fun _ member => member, fun _ => rfl⟩
  | replaced kind new booked other subscribes =>
    have gains := subscribes.gains
    refine ⟨gains.subscribed, gains.grows, fun name => ?_⟩
    rw [show (booked.release held.subscription?).names = booked.names from rfl, gains.names,
      ServiceBook.release, gains.ended, List.count_append, List.count_append]
    omega

namespace Subscriptions

theorem empty : Subscriptions [] .empty where
  ascends := List.Pairwise.nil
  known _ member := absurd member List.not_mem_nil
  subscribed _ member := absurd member List.not_mem_nil
  counted _ := rfl

/-- The book tells the same, apart from what the store has refused. -/
theorem sameEntries (subscriptions : Subscriptions triggers book)
    (same : book.SameEntries booked) : Subscriptions triggers booked where
  ascends := subscriptions.ascends
  known := same.made ▸ subscriptions.known
  subscribed := same.granted ▸ subscriptions.subscribed
  counted name := by
    rw [same.ended, ServiceBook.names, same.granted]
    exact subscriptions.counted name

/-- A trigger with a new identifier is saved. -/
theorem saveNew (subscriptions : Subscriptions triggers book) {trigger : Trigger}
    (gains : Gains book booked trigger.kind) (fresh : trigger.id ∉ book.made) :
    Subscriptions (AutomateStore.insertTrigger trigger triggers) (booked.make trigger.id) where
  ascends := AutomateStore.ascends_insertTrigger trigger subscriptions.ascends
  known other member := by
    obtain rfl | before := AutomateStore.mem_insertTrigger trigger member
    · exact List.mem_append_right _ List.mem_cons_self
    · exact List.mem_append_left _ (gains.made ▸ subscriptions.known other before)
  subscribed other member := by
    obtain rfl | before := AutomateStore.mem_insertTrigger trigger member
    · exact gains.subscribed
    · exact (subscriptions.subscribed other before).mono gains.grows
  counted name := by
    have others : triggers.filter (fun other => other.id ≠ trigger.id) = triggers :=
      List.filter_eq_self.mpr fun other member => decide_eq_true fun same =>
        fresh (same ▸ subscriptions.known other member)
    have perm := AutomateStore.perm_insertTrigger trigger subscriptions.ascends
    rw [others] at perm
    have counted := subscriptions.counted name
    show _ + booked.ended.count name = booked.names.count name
    rw [count_heldNames_of_perm perm, gains.names, gains.ended, List.count_append]
    omega

/-- A stored trigger is saved after a change. -/
theorem saveChanged (subscriptions : Subscriptions triggers book) {former trigger : Trigger}
    (found : triggers.find? (fun other => other.id = trigger.id) = some former)
    (trades : Trades book booked former.kind trigger.kind) (made : booked.made = book.made) :
    Subscriptions (AutomateStore.insertTrigger trigger triggers) booked where
  ascends := AutomateStore.ascends_insertTrigger trigger subscriptions.ascends
  known other member := by
    rw [made]
    obtain rfl | before := AutomateStore.mem_insertTrigger trigger member
    · have named : former.id = other.id := by simpa using List.find?_some found
      exact named ▸ subscriptions.known former (List.mem_of_find?_eq_some found)
    · exact subscriptions.known other before
  subscribed other member := by
    obtain rfl | before := AutomateStore.mem_insertTrigger trigger member
    · exact trades.subscribed
    · exact (subscriptions.subscribed other before).mono trades.grows
  counted name := by
    have counted := subscriptions.counted name
    have traded := trades.counted name
    have held := AutomateStore.perm_of_find? subscriptions.ascends found
    rw [count_heldNames_of_perm held] at counted
    rw [count_heldNames_of_perm (AutomateStore.perm_insertTrigger trigger subscriptions.ascends)]
    omega

/-- A stored trigger is deleted, and its subscription was asked to be ended. -/
theorem delete (subscriptions : Subscriptions triggers book) {former : Trigger} {id : TriggerId}
    (found : triggers.find? (fun other => other.id = id) = some former) :
    Subscriptions (triggers.filter fun other => other.id ≠ id)
      (book.release former.kind.subscription?) where
  ascends := subscriptions.ascends.filter _
  known other member := subscriptions.known other (List.mem_of_mem_filter member)
  subscribed other member := subscriptions.subscribed other (List.mem_of_mem_filter member)
  counted name := by
    have counted := subscriptions.counted name
    have held := AutomateStore.perm_of_find? subscriptions.ascends found
    rw [count_heldNames_of_perm held] at counted
    show _ + (book.ended ++ _).count name = book.names.count name
    rw [List.count_append]
    omega

end Subscriptions

/-! ### One to one -/

/-- Subscriptions and triggers belong together one to one. -/
structure OneToOne (triggers : List Trigger) (book : ServiceBook) : Prop where
  /-- A trigger that fires upon events holds a subscription that was made for its own source and
  that was not asked to be ended. -/
  held : ∀ trigger ∈ triggers, ∀ source subscription,
    trigger.kind = .contractEvent source subscription → ∃ made name, subscription = some name ∧
      (made, name) ∈ book.granted ∧ source.same made = true ∧ name ∉ book.ended
  timed : ∀ trigger ∈ triggers, trigger.kind.isTimeBased = true → trigger.kind.subscription? = none
  apart : ∀ first ∈ triggers, ∀ second ∈ triggers, ∀ name, first.kind.subscription? = some name →
    second.kind.subscription? = some name → first = second
  /-- A subscription that was made is held and was not asked to be ended, or it is held no more and
  was asked to be ended once. -/
  placed : ∀ name ∈ book.names,
    (∃ trigger ∈ triggers, trigger.kind.subscription? = some name) ∧ name ∉ book.ended ∨
      (∀ trigger ∈ triggers, trigger.kind.subscription? ≠ some name) ∧ book.ended.count name = 1

/-- As long as the subscriber gives no name twice, subscriptions that have their places belong to
triggers one to one. -/
theorem Subscriptions.oneToOne (subscriptions : Subscriptions triggers book)
    (distinct : book.names.Nodup) : OneToOne triggers book where
  held trigger member source subscription fires := by
    have subscribed := subscriptions.subscribed trigger member
    rw [fires] at subscribed
    obtain ⟨made, name, rfl, granted, own⟩ := subscribed
    refine ⟨made, name, rfl, granted, own, fun ended => ?_⟩
    have holds : name ∈ heldNames triggers :=
      mem_heldNames.mpr ⟨trigger, member, by rw [fires]; rfl⟩
    have counted := subscriptions.counted name
    have once := List.nodup_iff_count_le_one.mp distinct name
    have stillHeld := List.count_pos_iff.mpr holds
    have alsoEnded := List.count_pos_iff.mpr ended
    omega
  timed trigger _ timeBased := by
    cases kind : trigger.kind with
    | contractEvent =>
      rw [kind] at timeBased
      cases timeBased
    | _ => rfl
  apart first former second latter name holds shares := by
    have counted := subscriptions.counted name
    have once := List.nodup_iff_count_le_one.mp distinct name
    exact eq_of_count_le_one former latter holds shares (by omega)
  placed name member := by
    have counted := subscriptions.counted name
    rw [List.count_eq_one_of_mem distinct member] at counted
    by_cases holds : name ∈ heldNames triggers
    · refine Or.inl ⟨mem_heldNames.mp holds, fun ended => ?_⟩
      have stillHeld := List.count_pos_iff.mpr holds
      have alsoEnded := List.count_pos_iff.mpr ended
      omega
    · refine Or.inr ⟨fun trigger member shares => ?_, ?_⟩
      · exact holds (mem_heldNames.mpr ⟨trigger, member, shares⟩)
      · rw [List.count_eq_zero.mpr holds] at counted
        omega

/-! ### Calls -/

/-- From one view to another no identifier is forgotten, and as long as none was made twice,
subscriptions keep their places. -/
structure Keeps (before after : ServiceView) : Prop where
  grows : before.book.made <+: after.book.made
  places : after.book.made.Nodup → Subscriptions before.store.triggers before.book →
    Subscriptions after.store.triggers after.book

namespace Keeps

theorem trans {first second third : ServiceView} (former : Keeps first second)
    (latter : Keeps second third) : Keeps first third where
  grows := former.grows.trans latter.grows
  places distinct subscriptions :=
    latter.places distinct (former.places (distinct.sublist latter.grows.sublist) subscriptions)

theorem of_same (triggers : after.store.triggers = before.store.triggers)
    (same : before.book.SameEntries after.book) : Keeps before after where
  grows := same.made ▸ List.prefix_rfl
  places _ subscriptions := triggers ▸ subscriptions.sameEntries same

theorem refl (view : ServiceView) : Keeps view view := of_same rfl ⟨⟨rfl, rfl⟩, rfl⟩

/-- A stored trigger is saved with the kind that it has. -/
theorem of_rewritten {held trigger : Trigger} (found : before.store.trigger? trigger.id = some held)
    (kind : trigger.kind = held.kind)
    (triggers : after.store.triggers = AutomateStore.insertTrigger trigger before.store.triggers)
    (same : before.book.SameEntries after.book) : Keeps before after where
  grows := same.made ▸ List.prefix_rfl
  places _ subscriptions := by
    have subscribed := subscriptions.subscribed held (List.mem_of_find?_eq_some found)
    rw [triggers]
    refine (subscriptions.saveChanged found ?_ rfl).sameEntries same
    rw [kind]
    exact Switches.kept.trades subscribed

end Keeps

variable {ending : Except ServiceFault Trigger}

/-- A trigger is made, and the store does not refuse it. -/
theorem Creates.keeps {wallet : WalletId} {name : String}
    (creates : Creates wallet name kind before ending after)
    (served : after.book.refusals = before.book.refusals) : Keeps before after := by
  cases creates with
  | refused fault => exact .refl before
  | unsaved held booked subscribed id fault =>
    have refusals : booked.refusals + 1 = before.book.refusals := served
    rw [subscribed.refusals] at refusals
    omega
  | saved held booked subscribed id now =>
    have gains := subscribed.gains
    refine ⟨gains.made ▸ List.prefix_append _ _, fun distinct subscriptions => ?_⟩
    have fresh : id ∉ before.book.made := by
      rw [← gains.made]
      exact fun member => List.disjoint_of_nodup_append distinct member List.mem_cons_self
    have named : (Trigger.new id wallet name held now).id ∉ before.book.made := fresh
    exact subscriptions.saveNew gains named

/-- A trigger is changed, and the store does not refuse it. -/
theorem Updates.keeps {id : TriggerId} {update : TriggerUpdate}
    (updates : Updates id update before ending after)
    (served : after.book.refusals = before.book.refusals) : Keeps before after := by
  cases updates with
  | refused fault => exact .refl before
  | unsaved held found kind booked switched fault =>
    have refusals : booked.refusals + 1 = before.book.refusals := served
    rw [switched.refusals] at refusals
    omega
  | saved held found kind booked switched now =>
    refine ⟨switched.made ▸ List.prefix_rfl, fun _ subscriptions => ?_⟩
    have subscribed := subscriptions.subscribed held (List.mem_of_find?_eq_some found)
    have named : (AutomateService.updated held update kind now).id = id :=
      (AutomateService.id_updated held update kind now).trans (AutomateStore.id_of_trigger? found)
    rw [← named] at found
    refine subscriptions.saveChanged found ?_ switched.made
    rw [AutomateService.kind_updated]
    exact switched.trades subscribed

/-- A trigger is deleted, and the store does not refuse it. -/
theorem Deletes.keeps {id : TriggerId} {ending : Except ServiceFault Bool}
    (deletes : Deletes id before ending after)
    (served : after.book.refusals = before.book.refusals) : Keeps before after := by
  cases deletes with
  | refused | absent => exact .refl before
  | kept held found fault =>
    have refusals : before.book.refusals + 1 = before.book.refusals := served
    omega
  | deleted held found result =>
    refine ⟨List.prefix_rfl, fun _ subscriptions => ?_⟩
    show Subscriptions (before.store.deleteTrigger id).2.triggers _
    rw [before.store.triggers_deleteTrigger found]
    exact subscriptions.delete found

namespace BookedHost

variable {State : Type} {host : BookedHost State} {runner : TriggerRunner} {state : State}

/-- The requests that the steps of triggers may make. -/
def StepsSpare (host : BookedHost State) (runner : TriggerRunner) : Prop :=
  runner.StepsAsk host.answer fun request => request.LeavesStore ∧ request.IsUnbooked

/-- The steps of an engine neither touch the store nor make or end subscriptions. -/
theorem stepsSpare_of_assemble (host : BookedHost State) {known : KnownZones} {config : Config}
    {conditions : List ConditionKind} {actions : List ActionKind} {engine : Engine}
    (assembled : Engine.assemble known config conditions actions = .ok engine) :
    host.StepsSpare engine.runner := by
  refine Engine.stepsAsk assembled
    ⟨(fun _ same => nomatch same), fun _ _ => ⟨⟨rfl, rfl⟩, rfl⟩⟩ (fun own spares => ?_)
    fun _ _ => ⟨(fun _ same => nomatch same), fun _ _ => ⟨⟨rfl, rfl⟩, rfl⟩⟩
  refine ⟨Request.leavesStore_outside own, fun book reply => ?_⟩
  cases own with
  | subscribe | unsubscribe => exact absurd spares id
  | _ => exact ⟨⟨rfl, rfl⟩, rfl⟩

theorem keeps_run (steps : host.StepsSpare runner) (id : TriggerId) :
    Keeps (host.view state) (host.view (host.perform (runner.run id).run state).2) := by
  have leaves : runner.LeavesStore host.answer :=
    ⟨fun entry member params state => (steps.conditions entry member params state).imp
        fun _ => And.left,
      fun entry member params state => (steps.actions entry member params state).imp
        fun _ => And.left⟩
  have unbooked : runner.StepsAsk host.answer Request.IsUnbooked :=
    ⟨fun entry member params state => (steps.conditions entry member params state).imp
        fun _ => And.right,
      fun entry member params state => (steps.actions entry member params state).imp
        fun _ => And.right⟩
  have asks : (runner.run id).run.Asks host.answer Request.IsUnbooked state :=
    TriggerRunner.asks_run unbooked Request.isUnbooked_automate (fun _ _ => ⟨⟨rfl, rfl⟩, rfl⟩)
      (fun _ _ => ⟨⟨rfl, rfl⟩, rfl⟩) state
  have same := host.sameEntries_run asks
  have writes := (TriggerRunner.runs host.answer runner id state).writes leaves
  unfold view AutomateHost.perform
  generalize ((runner.run id).run.run host.answer state).2 = final at same writes ⊢
  generalize host.store final = store at writes
  cases writes with
  | nothing => exact .of_same rfl same
  | entry held call enters => exact .of_same rfl same
  | both held call enters =>
    have found := enters.found
    rw [← AutomateStore.id_of_trigger? found,
      ← TriggerRunner.id_afterRun held runner.maxRetries call.outcome call.createdAt] at found
    exact .of_rewritten found (TriggerRunner.kind_afterRun ..) rfl same

/-- Every call of the service and every run keeps subscriptions in their places. -/
theorem keeps_after (service : AutomateService) (steps : host.StepsSpare runner)
    (steady : host.Steady state) (call : ServiceCall) :
    Keeps (host.view state)
      (host.view (call.after host.toAutomateHost service runner state)) := by
  by_cases forSteps : call.isForSteps = true
  · obtain ⟨_, program, asks, same⟩ :=
      call.exists_program host.toAutomateHost service runner state forSteps
    rw [same]
    exact .of_same (host.triggers_run_of_spares (asks.imp fun _ => (·.sparesTriggers))).1
      (host.sameEntries_run (asks.imp fun _ => (·.isUnbooked)))
  · cases call with
    | run id => exact keeps_run steps id
    | createTrigger wallet name kind =>
      obtain ⟨ending, -, creates⟩ :=
        (host.ends_createTrigger (host.view state) service wallet name kind).perform
      exact creates.keeps (refusals_run _ steady)
    | updateTrigger id update =>
      obtain ⟨ending, -, updates⟩ :=
        (host.ends_updateTrigger (host.view state) service id update).perform
      exact updates.keeps (refusals_run _ steady)
    | deleteTrigger id =>
      obtain ⟨ending, -, deletes⟩ := (host.ends_deleteTrigger (host.view state) id).perform
      exact deletes.keeps (refusals_run _ steady)
    | _ => exact absurd rfl forSteps

/-- Every sequence of calls and runs keeps subscriptions in their places. -/
theorem keeps_afterAll (service : AutomateService) (steps : host.StepsSpare runner)
    (steady : host.Steady state) (calls : List ServiceCall) :
    Keeps (host.view state)
      (host.view (ServiceCall.afterAll host.toAutomateHost service runner state calls)) := by
  induction calls generalizing state with
  | nil => exact .refl _
  | cons call rest inductionHypothesis =>
    exact (keeps_after service steps steady call).trans
      (inductionHypothesis (ServiceCall.steady_after service runner steady call))

/-- From an empty store on, all calls of the service and all runs, one after the other, keep
subscriptions and triggers one to one, whatever the subscriber refuses, as long as the store refuses
nothing and neither an identifier nor the name of a subscription is given twice. -/
theorem keeps_one_to_one (service : AutomateService) (steps : host.StepsSpare runner)
    {start : State}
    (steady : host.Steady start) (bare : (host.store start).triggers = [])
    (blank : host.book start = .empty) (calls : List ServiceCall)
    (identified : (host.book
      (ServiceCall.afterAll host.toAutomateHost service runner start calls)).made.Nodup)
    (named : (host.book
      (ServiceCall.afterAll host.toAutomateHost service runner start calls)).names.Nodup) :
    OneToOne (host.store
        (ServiceCall.afterAll host.toAutomateHost service runner start calls)).triggers
      (host.book (ServiceCall.afterAll host.toAutomateHost service runner start calls)) := by
  have keeps := keeps_afterAll service steps steady calls
  refine (keeps.places identified ?_).oneToOne named
  show Subscriptions (host.store start).triggers (host.book start)
  rw [bare, blank]
  exact .empty

end BookedHost

/-! ### A trigger that moves from source to source -/

/-- A simulated world next to which a book is kept. -/
def simulatedHost : BookedHost (World Simulated × ServiceBook) := World.automateHost.booked

/-- A world in which the second request to subscribe and the first one to unsubscribe are refused.
-/
def fickleStart : World Simulated × ServiceBook :=
  (.start ⟨7, 0⟩ (.memory .empty) (fun _ => 0) ⟨fun _ count => .ofNat (count + 1), fun _ => 0⟩
    { Simulated.empty with
      faults := (FaultPlan.none.set .subscribe [none, some (.transient "busy")]).set .unsubscribe
        [some (.transient "busy")] },
    .empty)

/-- A trigger comes with a name that nobody has given. It keeps its subscription when only the case
of its address changes, and gives it up for another event; a second trigger comes to fire at times.
-/
def fickleCalls : List ServiceCall :=
  let transfers : EventSource := ⟨"main", "0xab", "Transfer"⟩
  let mints : EventSource := ⟨"main", "0xab", "Mint"⟩
  [.createTrigger ⟨.ofNat 1⟩ "first" (.contractEvent transfers (some "forged")),
    .createTrigger ⟨.ofNat 1⟩ "refused" (.contractEvent mints none),
    .createTrigger ⟨.ofNat 1⟩ "second" (.contractEvent mints none),
    .updateTrigger ⟨.ofNat 1⟩
      { kind := some (.contractEvent { transfers with address := "0xAB" } none) },
    .run ⟨.ofNat 1⟩,
    .updateTrigger ⟨.ofNat 1⟩ { kind := some (.contractEvent mints none) },
    .updateTrigger ⟨.ofNat 2⟩ { kind := some .everyHour }]

/-- Where these calls lead. -/
def fickleEnd : World Simulated × ServiceBook :=
  ServiceCall.afterAll simulatedHost.toAutomateHost Engine.default.service Engine.default.runner
    fickleStart fickleCalls

/-- The first trigger has come to its second subscription, and the other two have ended. -/
theorem BookedHost.keeps_one_to_one_fickle :
    simulatedHost.StepsSpare Engine.default.runner ∧ simulatedHost.Steady fickleStart ∧
      (simulatedHost.store fickleStart).triggers = [] ∧
      simulatedHost.book fickleStart = .empty ∧
      fickleEnd.2.made = [⟨.ofNat 1⟩, ⟨.ofNat 2⟩] ∧
      (fickleEnd.2.names, fickleEnd.2.ended) = (["sub-1", "sub-2", "sub-3"], ["sub-1", "sub-2"]) ∧
      fickleEnd.1.automate.triggers.map (fun trigger => trigger.kind.subscription?) =
        [some "sub-3", none] ∧
      OneToOne fickleEnd.1.automate.triggers fickleEnd.2 := by
  have steps : simulatedHost.StepsSpare Engine.default.runner :=
    simulatedHost.stepsSpare_of_assemble Engine.assemble_default
  have steady : simulatedHost.Steady fickleStart := fun _ => rfl
  have made : fickleEnd.2.made = [⟨.ofNat 1⟩, ⟨.ofNat 2⟩] := by decide +kernel
  have book : (fickleEnd.2.names, fickleEnd.2.ended) =
      (["sub-1", "sub-2", "sub-3"], ["sub-1", "sub-2"]) := by decide +kernel
  have held : fickleEnd.1.automate.triggers.map (fun trigger => trigger.kind.subscription?) =
      [some "sub-3", none] := by decide +kernel
  have identified : fickleEnd.2.made.Nodup := made ▸ by decide
  have named : fickleEnd.2.names.Nodup := (Prod.mk.inj book).1 ▸ by decide
  exact ⟨steps, steady, rfl, rfl, made, book, held,
    keeps_one_to_one Engine.default.service steps steady rfl rfl fickleCalls identified named⟩

end TaskAutomation
