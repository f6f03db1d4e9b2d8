import TaskAutomation.Proofs.Engine.TriggerChange
import TaskAutomation.Proofs.Engine.TriggerOutcome
import Mathlib.Data.List.DropRight

/-!
This file follows the failed runs of one trigger through any calls of the service and any runs, one
after the other. The number kept with the trigger is that of the failed runs at the end of its history
since it was made or switched on again, the run which brings this number to the ceiling switches the
trigger off, and no other, and a trigger that is switched off gets no entry.
-/

namespace TaskAutomation

/-! ### Counting -/

/-- The trigger of an identifier is there and switched on. -/
def AutomateStore.isActive (store : AutomateStore) (id : TriggerId) : Bool :=
  (store.trigger? id).any fun trigger => trigger.active

/-- The number of failed runs at the end of a list of entries. -/
def failuresAtEnd (calls : List Call) : Nat :=
  (calls.rtakeWhile fun call => call.outcome.isFailure).length

theorem failuresAtEnd_concat (calls : List Call) (call : Call) :
    failuresAtEnd (calls ++ [call]) =
      if call.outcome.isFailure = true then failuresAtEnd calls + 1 else 0 := by
  let fails : Call → Bool := fun call => call.outcome.isFailure
  show (List.rtakeWhile fails (calls ++ [call])).length = _
  split
  · next failed =>
    rw [List.rtakeWhile_concat_pos fails calls call failed, List.length_append]
    rfl
  · next passed => rw [List.rtakeWhile_concat_neg fails calls call passed, List.length_nil]

/-- The failed runs at the end of the history of a trigger behind its first entries. -/
def AutomateStore.failures (store : AutomateStore) (id : TriggerId) (since : Nat) : Nat :=
  failuresAtEnd ((store.historyOf id).drop since)

/-- The number kept with a trigger is that of its failed runs since some entry, and as long as the
trigger is switched on, the number is below the ceiling. -/
structure CountsFailures (maxRetries : Nat) (id : TriggerId) (since : Nat) (store : AutomateStore)
    (trigger : Trigger) : Prop where
  within : since ≤ (store.historyOf id).length
  counted : trigger.retries = store.failures id since
  below : trigger.active = true → trigger.retries < max 1 maxRetries

section

variable {maxRetries since : Nat} {id : TriggerId} {before after : AutomateStore} {held : Trigger}
  {call : Call} {anew : Bool}

theorem RecordsRun.failures_eq (records : RecordsRun maxRetries id before after held call)
    (within : since ≤ (before.historyOf id).length) :
    after.failures id since =
      if call.outcome.isFailure = true then before.failures id since + 1 else 0 := by
  unfold AutomateStore.failures
  rw [records.history, List.drop_append_of_le_length within, failuresAtEnd_concat]

/-- A run that is recorded counts itself, and it switches the trigger off exactly if that brings the
number to the ceiling. -/
theorem RecordsRun.counts (records : RecordsRun maxRetries id before after held call)
    (bounded : maxRetries ≤ maxRetryCount) (counts : CountsFailures maxRetries id since before held) :
    CountsFailures maxRetries id since after
        (held.afterRun maxRetries call.outcome call.createdAt) ∧
      ((held.afterRun maxRetries call.outcome call.createdAt).active = false ↔
        after.failures id since = max 1 maxRetries) := by
  have below := counts.below records.active
  have within : since ≤ (after.historyOf id).length := by
    rw [records.history, List.length_append]
    exact Nat.le_add_right_of_le counts.within
  have failures := records.failures_eq counts.within
  rw [← counts.counted] at failures
  unfold Trigger.afterRun
  by_cases fails : call.outcome.isFailure = true
  · -- The number is still below the ceiling, so it does not stop at its largest value.
    have next : min (held.retries + 1) maxRetryCount = held.retries + 1 := by
      have positive : 1 ≤ maxRetryCount := by decide
      omega
    rw [if_pos fails] at failures
    rw [if_neg (not_not_intro fails), next]
    refine ⟨⟨within, failures.symm, fun active => ?_⟩, ?_⟩
    · have active : (if maxRetries ≤ held.retries + 1 then false else held.active) = true := active
      show held.retries + 1 < _
      split at active
      · cases active
      · omega
    · show (if _ then false else held.active) = false ↔ _
      rw [failures, records.active]
      split
      · exact ⟨fun _ => by omega, fun _ => rfl⟩
      · exact ⟨nofun, fun same => by omega⟩
  · rw [if_neg fails] at failures
    rw [if_pos fails]
    refine ⟨⟨within, failures.symm, fun _ => ?_⟩, ?_⟩
    · show 0 < _
      omega
    · show held.active = false ↔ _
      rw [failures, records.active]
      exact ⟨nofun, fun same => by omega⟩

/-- A trigger that was just made or switched on again has had no failed run since. -/
theorem CountsFailures.of_unfailed {trigger : Trigger} (unfailed : trigger.retries = 0) :
    CountsFailures maxRetries id (after.historyOf id).length after trigger where
  within := Nat.le_refl _
  counted := by
    rw [AutomateStore.failures, List.drop_length, unfailed]
    rfl
  below := fun _ => by omega

/-- The number of entries from which failed runs are counted in a store: all there are if the
trigger was made on the way there or switched on again, and otherwise as many as before. -/
def AutomateStore.countedFrom (before after : AutomateStore) (id : TriggerId) (anew : Bool)
    (since : Nat) : Nat :=
  if anew || (!before.isActive id && after.isActive id) then (after.historyOf id).length else since

theorem AutomateStore.isActive_of_found {store : AutomateStore} {trigger : Trigger}
    (found : store.trigger? id = some trigger) : store.isActive id = trigger.active := by
  rw [isActive, found]
  rfl

theorem AutomateStore.countedFrom_of_not
    (kept : before.isActive id = true ∨ after.isActive id = false) :
    before.countedFrom after id false since = since := by
  unfold countedFrom
  obtain active | inactive := kept
  · rw [active]
    rfl
  · rw [inactive, Bool.and_false]
    rfl

/-- Where the history and the number of failed runs stay as they were, they still agree. -/
theorem CountsFailures.kept {trigger : Trigger}
    (counts : CountsFailures maxRetries id since before held)
    (history : after.historyOf id = before.historyOf id) (retries : trigger.retries = held.retries)
    (active : trigger.active = true → held.active = true) :
    CountsFailures maxRetries id since after trigger where
  within := history ▸ counts.within
  counted := by
    rw [retries, counts.counted, AutomateStore.failures, AutomateStore.failures, history]
  below := fun on => retries ▸ counts.below (active on)

theorem IsUpdate.retries {known : KnownZones} {update : TriggerUpdate} {trigger : Trigger}
    (changed : AutomateService.IsUpdate known before id update held trigger) :
    held.active = false ∧ trigger.active = true ∧ trigger.retries = 0 ∨
      trigger.retries = held.retries ∧ (trigger.active = true → held.active = true) := by
  obtain ⟨kind, now, rfl, -⟩ := changed.changed
  unfold AutomateService.updated AutomateService.changeActive
  cases update.active with
  | none => exact Or.inr ⟨rfl, fun on => on⟩
  | some active =>
    cases active with
    | false => exact Or.inr ⟨rfl, nofun⟩
    | true =>
      cases held.active with
      | false => exact Or.inl ⟨rfl, rfl, rfl⟩
      | true => exact Or.inr ⟨rfl, fun _ => rfl⟩

/-- Every call keeps the count. -/
theorem TriggerChange.counts (change : TriggerChange maxRetries id before after anew)
    (bounded : maxRetries ≤ maxRetryCount)
    (counts : ∀ held, before.trigger? id = some held →
      CountsFailures maxRetries id since before held) :
    ∀ trigger, after.trigger? id = some trigger →
      CountsFailures maxRetries id (before.countedFrom after id anew since) after trigger := by
  intro trigger found
  cases change with
  | spared same =>
    have earlier := same.trigger.symm.trans found
    have active : before.isActive id = after.isActive id := by
      rw [AutomateStore.isActive, AutomateStore.isActive, same.trigger]
    rw [AutomateStore.countedFrom_of_not (by cases on : after.isActive id <;> simp [active, on])]
    exact (counts trigger earlier).kept same.history rfl fun on => on
  | made new saved unfailed history =>
    obtain rfl := Option.some.inj (saved.symm.trans found)
    exact .of_unfailed unfailed
  | updated known update held new changed saved history =>
    obtain rfl := Option.some.inj (saved.symm.trans found)
    have wasOn := AutomateStore.isActive_of_found changed.found
    have isOn := AutomateStore.isActive_of_found saved
    obtain ⟨off, on, unfailed⟩ | ⟨retries, active⟩ := IsUpdate.retries changed
    · unfold AutomateStore.countedFrom
      rw [wasOn, isOn, off, on]
      exact .of_unfailed unfailed
    · rw [AutomateStore.countedFrom_of_not]
      · exact (counts held changed.found).kept history retries active
      · rw [wasOn, isOn]
        cases on : new.active with
        | false => exact Or.inr rfl
        | true => exact Or.inl (active on)
  | deleted gone history => cases gone.symm.trans found
  | recorded held call records =>
    obtain rfl := Option.some.inj (records.saved.symm.trans found)
    have wasOn := AutomateStore.isActive_of_found records.found
    rw [AutomateStore.countedFrom_of_not (Or.inl (wasOn.trans records.active))]
    exact (records.counts bounded (counts held records.found)).1

/-- A trigger that is switched off or not there gets no entry. -/
theorem TriggerChange.adds_no_entry (change : TriggerChange maxRetries id before after anew)
    (inactive : before.isActive id = false) : after.historyOf id <+: before.historyOf id := by
  cases change with
  | spared same => exact same.history ▸ List.prefix_rfl
  | made new saved unfailed history => exact history ▸ List.prefix_rfl
  | updated known update held new changed saved history => exact history ▸ List.prefix_rfl
  | deleted gone history => exact history
  | recorded held call records =>
    rw [AutomateStore.isActive_of_found records.found, records.active] at inactive
    cases inactive

end

/-! ### All calls -/

/-- Where a host has come to, and the number of entries from which the failed runs of a trigger are
counted there. -/
structure Watched (State : Type) where
  state : State
  since : Nat

namespace ServiceCall

variable {State : Type} {host : AutomateHost State} {service : AutomateService}
  {runner : TriggerRunner}

/-- A host after one more call. Failed runs are counted anew when the trigger is made or switched on
again. -/
def watch (host : AutomateHost State) (service : AutomateService) (runner : TriggerRunner)
    (id : TriggerId) (past : Watched State) (call : ServiceCall) : Watched State where
  state := call.after host service runner past.state
  since := (host.store past.state).countedFrom
    (host.store (call.after host service runner past.state)) id
    (call.makes host service past.state id) past.since

/-- No call of the store is about to fail, and the count of failed runs is right. -/
structure InStep (host : AutomateHost State) (runner : TriggerRunner) (id : TriggerId)
    (past : Watched State) : Prop where
  steady : host.Steady past.state
  counts : ∀ trigger, (host.store past.state).trigger? id = some trigger →
    CountsFailures runner.maxRetries id past.since (host.store past.state) trigger

theorem steady_after (service : AutomateService) (runner : TriggerRunner) {state : State}
    (steady : host.Steady state) (call : ServiceCall) :
    host.Steady (call.after host service runner state) := by
  cases call <;> exact host.steady_run _ steady

theorem InStep.watch {id : TriggerId} {past : Watched State} (inStep : InStep host runner id past)
    (leaves : runner.LeavesStore host.answer) (bounded : runner.maxRetries ≤ maxRetryCount)
    (call : ServiceCall) : InStep host runner id (call.watch host service runner id past) where
  steady := steady_after service runner inStep.steady call
  counts := (call.change service inStep.steady leaves id).counts bounded inStep.counts

theorem InStep.follow {id : TriggerId} {past : Watched State} (inStep : InStep host runner id past)
    (leaves : runner.LeavesStore host.answer) (bounded : runner.maxRetries ≤ maxRetryCount)
    (calls : List ServiceCall) :
    InStep host runner id
      (calls.foldl (fun past call => call.watch host service runner id past) past) := by
  induction calls generalizing past with
  | nil => exact inStep
  | cons call rest inductionHypothesis =>
    exact inductionHypothesis (inStep.watch leaves bounded call)

/-- What is known of the failed runs of a trigger where a host has come to. -/
structure KeepsCeiling (host : AutomateHost State) (service : AutomateService)
    (runner : TriggerRunner) (id : TriggerId) (past : Watched State) : Prop where
  /-- The number kept with the trigger is that of the failed runs at the end of its history since it
  was made or switched on again. -/
  counted : ∀ trigger, (host.store past.state).trigger? id = some trigger →
    trigger.retries = (host.store past.state).failures id past.since
  below : ∀ trigger, (host.store past.state).trigger? id = some trigger → trigger.active = true →
    trigger.retries < max 1 runner.maxRetries
  /-- A run switches the trigger off exactly if it brings the number to the ceiling. -/
  ceiling : ∀ trigger, (host.store past.state).trigger? id = some trigger → trigger.active = true →
    ((host.store ((run id).after host service runner past.state)).isActive id = false ↔
      (host.store ((run id).after host service runner past.state)).failures id past.since =
        max 1 runner.maxRetries)
  /-- As long as the trigger is not switched on, no call adds an entry to its history. -/
  silent : (host.store past.state).isActive id = false → ∀ call : ServiceCall,
    (host.store (call.after host service runner past.state)).historyOf id <+:
      (host.store past.state).historyOf id

theorem InStep.keepsCeiling {id : TriggerId} {past : Watched State}
    (inStep : InStep host runner id past) (leaves : runner.LeavesStore host.answer)
    (bounded : runner.maxRetries ≤ maxRetryCount) : KeepsCeiling host service runner id past where
  counted trigger found := (inStep.counts trigger found).counted
  below trigger found := (inStep.counts trigger found).below
  ceiling trigger found active := by
    have counts := inStep.counts trigger found
    obtain same | ⟨-, held, call, records⟩ := runner.change_run inStep.steady leaves id id
    · -- The run has not ended, so nothing was recorded.
      have still : (host.store ((run id).after host service runner past.state)).isActive id = true :=
        (AutomateStore.isActive_of_found (same.trigger.trans found)).trans active
      have failures : (host.store ((run id).after host service runner past.state)).failures id
          past.since = trigger.retries := by
        rw [counts.counted]
        exact congrArg (fun calls => failuresAtEnd (calls.drop past.since)) same.history
      have below := counts.below active
      rw [still, failures]
      exact ⟨nofun, fun reached => by omega⟩
    · obtain rfl := Option.some.inj (found.symm.trans records.found)
      have switched := (records.counts bounded counts).2
      rw [← AutomateStore.isActive_of_found records.saved] at switched
      exact switched
  silent inactive call := (call.change service inStep.steady leaves id).adds_no_entry inactive

/-- After a trigger was made, and as long as no call of the store is about to fail, its failed runs
are counted right through all calls of the service and all runs, one after the other. -/
theorem keeps_ceiling (leaves : runner.LeavesStore host.answer)
    (bounded : runner.maxRetries ≤ maxRetryCount) {start created : State}
    (steady : host.Steady start) {wallet : WalletId} {name : String} {kind : TriggerKind}
    {trigger : Trigger}
    (made : host.perform (service.createTrigger wallet name kind).run start =
      (some (.ok trigger), created)) (calls : List ServiceCall) :
    KeepsCeiling host service runner trigger.id
      (calls.foldl (fun past call => call.watch host service runner trigger.id past)
        ⟨created, ((host.store created).historyOf trigger.id).length⟩) := by
  have leads := AutomateService.leads_createTrigger host service wallet name kind start
  have calm := host.steady_run (service.createTrigger wallet name kind).run steady
  rw [show (service.createTrigger wallet name kind).run.run host.answer start = _ from made] at calm
  unfold AutomateHost.Leads at leads
  rw [made] at leads
  generalize stored : host.store created = store at leads
  cases leads with
  | saved _ fit =>
    refine InStep.keepsCeiling (InStep.follow ⟨calm, fun found same => ?_⟩ leaves bounded calls)
      leaves bounded
    rw [stored] at same ⊢
    obtain rfl := Option.some.inj (((host.store start).trigger?_saveTrigger_self trigger).symm.trans
      same)
    obtain ⟨id, held, now, rfl, -⟩ := fit.made
    exact .of_unfailed rfl

/-- A service that takes the actions of a runner that cannot do them. -/
def busyService : AutomateService := ⟨Zone.ofName?, .empty, TriggerRunner.busyRunner.actions⟩

/-- An action is added, the trigger is run as often as the ceiling is high and once more, and then it
is switched on again and run once. -/
def busyCalls : List ServiceCall :=
  [addAction ⟨.ofNat 1⟩ .notification (.list []) 0] ++
    List.replicate 6 (run ⟨.ofNat 1⟩) ++
    [updateTrigger ⟨.ofNat 1⟩ { active := some true }, run ⟨.ofNat 1⟩]

/-- Where these calls lead after the trigger was made. -/
def busyPast (calls : List ServiceCall) : Watched (World Logging) :=
  calls.foldl (fun past call => call.watch World.automateHost busyService
    TriggerRunner.busyRunner ⟨.ofNat 1⟩ past)
    ⟨(World.automateHost.perform (busyService.createTrigger ⟨.ofNat 1⟩ "busy" .everyHour).run
      (.holding .empty)).2, 0⟩

example : ((busyPast (busyCalls.take 7)).state.automate.trigger? ⟨.ofNat 1⟩).map
    (fun trigger => (trigger.active, trigger.retries)) = some (false, 5) := by decide +kernel

/-- The trigger was switched off after five failed runs, and it has failed once since it was switched
on again. -/
theorem keeps_ceiling_busy :
    TriggerRunner.busyRunner.LeavesStore (@World.answer Logging _) ∧
      TriggerRunner.busyRunner.maxRetries ≤ maxRetryCount ∧
      World.automateHost.Steady (World.holding .empty) ∧
      ((busyPast busyCalls).since, (busyPast busyCalls).state.automate.failures ⟨.ofNat 1⟩
        (busyPast busyCalls).since) = (5, 1) ∧
      KeepsCeiling World.automateHost busyService TriggerRunner.busyRunner ⟨.ofNat 1⟩
        (busyPast busyCalls) := by
  have leaves : TriggerRunner.busyRunner.LeavesStore (@World.answer Logging _) := by
    constructor <;>
    · rintro _ member params world
      obtain rfl := List.mem_singleton.mp member
      trivial
  have bounded : TriggerRunner.busyRunner.maxRetries ≤ maxRetryCount := by decide
  have steady : World.automateHost.Steady (World.holding .empty) := fun _ => rfl
  have counted : ((busyPast busyCalls).since, (busyPast busyCalls).state.automate.failures
      ⟨.ofNat 1⟩ (busyPast busyCalls).since) = (5, 1) := by decide +kernel
  have returned : (World.automateHost.perform
      (busyService.createTrigger ⟨.ofNat 1⟩ "busy" .everyHour).run (.holding .empty)).1.bind
        Except.toOption = some (Trigger.new ⟨.ofNat 1⟩ ⟨.ofNat 1⟩ "busy" .everyHour ⟨7, 0⟩) := by
    decide +kernel
  obtain ⟨result, same, ok⟩ := Option.bind_eq_some_iff.mp returned
  match result, ok with
  | .ok _, rfl =>
    have hosted : TriggerRunner.busyRunner.LeavesStore (@World.automateHost Logging _).answer :=
      leaves
    exact ⟨leaves, bounded, steady, counted,
      keeps_ceiling hosted bounded steady (Prod.ext same rfl) busyCalls⟩

end ServiceCall

end TaskAutomation
