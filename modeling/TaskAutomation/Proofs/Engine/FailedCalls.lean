import TaskAutomation.Proofs.Engine.Subscriptions

/-!
This file is about calls for triggers that fail, whatever call of the store or of the subscriber has
failed in them. No trigger is touched. The subscriptions stay as they are too, with one exception:
when a call has asked the subscriber for something and then the store refuses its write, nothing
takes back what the subscriber has done. Then a subscription is left that no trigger holds, or a
trigger goes on holding a subscription that was asked to be ended.
-/

namespace TaskAutomation

/-! ### Calls for triggers -/

/-- A call of the service that makes, changes or deletes a trigger. -/
inductive TriggerCall where
  | create (wallet : WalletId) (name : String) (kind : TriggerKind)
  | update (id : TriggerId) (update : TriggerUpdate)
  | delete (id : TriggerId)

/-- The source of the events upon which a trigger fires. -/
def TriggerKind.source? : TriggerKind → Option EventSource
  | contractEvent source _ => some source
  | _ => none

/-- The kind of a stored trigger, and the kind with another source that a change gives it. -/
def AutomateStore.replacement? (store : AutomateStore) (id : TriggerId) (update : TriggerUpdate) :
    Option (TriggerKind × TriggerKind) := do
  let held ← store.trigger? id
  let kind ← update.kind
  if held.kind.sameSource kind then none else some (held.kind, kind)

namespace TriggerCall

/-- What the call does. -/
def work (service : AutomateService) : TriggerCall → Work ServiceFault Unit
  | create wallet name kind => do
    let _ ← service.createTrigger wallet name kind
    return ()
  | update id change => do
    let _ ← service.updateTrigger id change
    return ()
  | delete id => do
    let _ ← AutomateService.deleteTrigger id
    return ()

variable (store : AutomateStore)

/-- The source that the call subscribes to before it writes. -/
def gains : TriggerCall → Option EventSource
  | create _ _ kind => kind.source?
  | update id change => (store.replacement? id change).bind fun kinds => kinds.2.source?
  | delete _ => none

/-- The subscription that the call ends before it writes. -/
def drops : TriggerCall → Option String
  | create .. => none
  | update id change => (store.replacement? id change).bind fun kinds => kinds.1.subscription?
  | delete id => (store.trigger? id).bind fun held => held.kind.subscription?

/-- The call asks the subscriber for something before it writes. -/
def engages (call : TriggerCall) : Bool := (call.gains store).isSome || (call.drops store).isSome

end TriggerCall

/-! ### What is left behind -/

/-- A subscription was made for a source, if one is given, and one was asked to be ended, if one is
given. -/
structure Traces (gained : Option EventSource) (dropped : Option String)
    (before after : ServiceBook) : Prop where
  granted : ∃ name, after.granted = before.granted ++ gained.toList.map fun source => (source, name)
  ended : after.ended = before.ended ++ dropped.toList

theorem Traces.same_iff {gained : Option EventSource} {dropped : Option String}
    {before after : ServiceBook} (traces : Traces gained dropped before after) :
    before.SameSubscriptions after ↔ (gained.isSome || dropped.isSome) = false := by
  obtain ⟨⟨name, granted⟩, ended⟩ := traces
  cases gained with
  | none =>
    cases dropped with
    | none => exact ⟨fun _ => rfl, fun _ => ⟨by simpa using granted, by simpa using ended⟩⟩
    | some subscription => exact ⟨fun same => by simp [same.ended] at ended, nofun⟩
  | some source => exact ⟨fun same => by simp [same.granted] at granted, nofun⟩

theorem Subscribes.traces {book booked : ServiceBook} {kind held : TriggerKind}
    (subscribes : Subscribes book kind held booked) : Traces kind.source? none book booked := by
  cases subscribes with
  | timed _ timeBased =>
    cases kind with
    | contractEvent => cases timeBased
    | _ => exact ⟨⟨"", (List.append_nil _).symm⟩, (List.append_nil _).symm⟩
  | granted source own name => exact ⟨⟨name, rfl⟩, (List.append_nil _).symm⟩

theorem Switches.traces {store : AutomateStore} {id : TriggerId} {change : TriggerUpdate}
    {held : Trigger} {new : TriggerKind} {book booked : ServiceBook}
    (found : store.trigger? id = some held)
    (switches : Switches book held.kind change.kind new booked) :
    Traces ((TriggerCall.update id change).gains store) ((TriggerCall.update id change).drops store)
      book booked := by
  generalize given : change.kind = kind at switches
  cases switches with
  | kept =>
    have kept : store.replacement? id change = none := by
      simp [AutomateStore.replacement?, found, given]
    rw [TriggerCall.gains, TriggerCall.drops, kept]
    exact ⟨⟨"", (List.append_nil _).symm⟩, (List.append_nil _).symm⟩
  | carried kind same =>
    have kept : store.replacement? id change = none := by
      simp [AutomateStore.replacement?, found, given, same]
    rw [TriggerCall.gains, TriggerCall.drops, kept]
    exact ⟨⟨"", (List.append_nil _).symm⟩, (List.append_nil _).symm⟩
  | replaced kind new booked other subscribed =>
    have replaced : store.replacement? id change = some (held.kind, kind) := by
      simp [AutomateStore.replacement?, found, given, other]
    rw [TriggerCall.gains, TriggerCall.drops, replaced]
    obtain ⟨granted, ended⟩ := subscribed.traces
    exact ⟨granted, congrArg (· ++ _) (ended.trans (List.append_nil _))⟩

/-- What a call has left behind that has failed. -/
structure FailedCall (call : TriggerCall) (before after : ServiceView) : Prop where
  store : after.store = before.store
  /-- Only if the store refuses the write of a call that has asked the subscriber for something, the
  subscriptions do not stay as they are. -/
  same_iff : before.book.SameSubscriptions after.book ↔
    ¬ (before.book.refusals < after.book.refusals ∧ call.engages before.store = true)
  /-- Then all that the subscriber was asked for stands. -/
  traces : before.book.refusals < after.book.refusals →
    Traces (call.gains before.store) (call.drops before.store) before.book after.book

namespace FailedCall

variable {call : TriggerCall} {before : ServiceView}

theorem untouched (call : TriggerCall) (view : ServiceView) : FailedCall call view view where
  store := rfl
  same_iff := iff_of_true ⟨rfl, rfl⟩ fun refused => absurd refused.1 (Nat.lt_irrefl _)
  traces refused := absurd refused (Nat.lt_irrefl _)

theorem unwritten {booked : ServiceBook} (served : booked.refusals = before.book.refusals)
    (traces : Traces (call.gains before.store) (call.drops before.store) before.book booked) :
    FailedCall call before ⟨before.store, booked.refuse⟩ := by
  have left : Traces (call.gains before.store) (call.drops before.store) before.book
      booked.refuse := ⟨traces.granted, traces.ended⟩
  have refused : before.book.refusals < booked.refuse.refusals := by
    show _ < booked.refusals + 1
    omega
  refine ⟨rfl, left.same_iff.trans ?_, fun _ => left⟩
  show call.engages before.store = false ↔ _
  simp [refused]

end FailedCall

namespace BookedHost

variable {State : Type} (host : BookedHost State)

theorem ends_call (service : AutomateService) (call : TriggerCall) (before : ServiceView) :
    host.Ends before (call.work service) fun result after =>
      ∀ fault, result = .error fault → FailedCall call before after := by
  cases call with
  | create wallet name kind =>
    refine ends_bind (host.ends_createTrigger before service wallet name kind) ?_
      fun _ _ _ => ends_pure nofun
    intro fault after creates _ _
    cases creates with
    | refused => exact .untouched _ before
    | unsaved held booked subscribed id fault =>
      have traces : Traces kind.source? none before.book (booked.make id) :=
        ⟨subscribed.traces.granted, subscribed.traces.ended⟩
      exact .unwritten subscribed.refusals traces
  | update id change =>
    refine ends_bind (host.ends_updateTrigger before service id change) ?_ fun _ _ _ => ends_pure nofun
    intro fault after updates _ _
    cases updates with
    | refused => exact .untouched _ before
    | unsaved held found kind booked switched fault =>
      exact .unwritten switched.refusals (switched.traces found)
  | delete id =>
    refine ends_bind (host.ends_deleteTrigger before id) ?_ fun _ _ _ => ends_pure nofun
    intro fault after deletes _ _
    cases deletes with
    | refused => exact .untouched _ before
    | kept held found fault =>
      have traces : Traces ((TriggerCall.delete id).gains before.store)
          ((TriggerCall.delete id).drops before.store) before.book
          (before.book.release held.kind.subscription?) := by
        rw [TriggerCall.gains, TriggerCall.drops, found]
        exact ⟨⟨"", (List.append_nil _).symm⟩, rfl⟩
      exact .unwritten rfl traces

/-- Whatever fails in a call for a trigger, a call that fails leaves all triggers as they are, and
it leaves the subscriptions as they are unless the store has refused its write after the subscriber
was asked for something. -/
theorem intact_unless_engaged (service : AutomateService) (call : TriggerCall)
    {state changed : State} {fault : ServiceFault}
    (failed : host.perform (call.work service).run state = (some (.error fault), changed)) :
    FailedCall call (host.view state) (host.view changed) := by
  obtain ⟨ending, ended, fails⟩ := (host.ends_call service call (host.view state)).perform
  rw [failed] at ended fails
  exact fails fault (Option.some.inj ended).symm

end BookedHost

/-! ### Writes that are refused -/

/-- A world in which the store refuses to save a second trigger and to delete a first one. -/
def refusingStart : World Simulated × ServiceBook :=
  ({ World.start ⟨7, 0⟩ (.memory .empty) (fun _ => 0)
      ⟨fun _ count => .ofNat (count + 1), fun _ => 0⟩ .empty with
      faults := (FaultPlan.none.set .saveTrigger [none, some "down"]).set .deleteTrigger
        [some "down"] },
    .empty)

/-- The world in which a trigger that fires upon events was made. -/
def refusingWorld : World Simulated × ServiceBook :=
  (simulatedHost.perform ((TriggerCall.create ⟨.ofNat 1⟩ "transfers"
    (.contractEvent ⟨"main", "0xab", "Transfer"⟩ none)).work Engine.default.service).run
      refusingStart).2

/-- A change to another event asks for a second subscription and for an end of the first one, and
then the store refuses it. -/
theorem BookedHost.intact_unless_engaged_moved :
    ∃ changed,
      simulatedHost.perform ((TriggerCall.update ⟨.ofNat 1⟩
          { kind := some (.contractEvent ⟨"main", "0xab", "Mint"⟩ none) }).work
            Engine.default.service).run refusingWorld =
        (some (.error (.store (.backend "down"))), changed) ∧
      (changed.2.names, changed.2.ended) = (["sub-1", "sub-2"], ["sub-1"]) ∧
      FailedCall (.update ⟨.ofNat 1⟩
          { kind := some (.contractEvent ⟨"main", "0xab", "Mint"⟩ none) })
        (simulatedHost.view refusingWorld) (simulatedHost.view changed) := by
  have failed : (simulatedHost.perform ((TriggerCall.update ⟨.ofNat 1⟩
      { kind := some (.contractEvent ⟨"main", "0xab", "Mint"⟩ none) }).work
        Engine.default.service).run refusingWorld).1 =
          some (.error (.store (.backend "down"))) := by rfl
  exact ⟨_, Prod.ext failed rfl, by decide +kernel,
    simulatedHost.intact_unless_engaged _ _ (Prod.ext failed rfl)⟩

/-- A trigger that could not be deleted goes on holding a subscription that is live no more. -/
theorem BookedHost.failed_delete_drops_subscription :
    ∃ changed,
      simulatedHost.perform ((TriggerCall.delete ⟨.ofNat 1⟩).work Engine.default.service).run
          refusingWorld = (some (.error (.store (.backend "down"))), changed) ∧
      changed.1.automate.triggers.map (fun trigger => trigger.kind.subscription?) =
        [some "sub-1"] ∧
      (refusingWorld.2.live, changed.2.live) = (["sub-1"], []) := by
  have failed : (simulatedHost.perform ((TriggerCall.delete ⟨.ofNat 1⟩).work
      Engine.default.service).run refusingWorld).1 =
        some (.error (.store (.backend "down"))) := by rfl
  exact ⟨_, Prod.ext failed rfl, by decide +kernel, by decide +kernel⟩

end TaskAutomation
