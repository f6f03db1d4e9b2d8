import TaskAutomation.Proofs.Engine.TriggerRun

/-!
This file is about runs of a trigger in which calls of the store may fail. A run writes twice, the
entry of its history and then its trigger. A run that fails has left the trigger as it was; it has
left the history as it was too, unless the call that failed was the last one, which is to write the
trigger back: then the entry is there already, and nothing takes it back.
-/

namespace TaskAutomation

namespace TriggerRunner

section

variable {State : Type} (host : AutomateHost State) (runner : TriggerRunner) (id : TriggerId)
  (state : State) (left : AutomateStore)

/-- The steps of a run have come to an outcome, and the history has taken the entry of the run. -/
def IsNoted : Prop :=
  ∃ trigger outcome error ended, Judges host.answer runner id state trigger outcome error ended ∧
    (host.answer (.automate (.appendHistory (entry host.answer id outcome error ended)))
      (recording host.answer ended)).1 = .ok ()

/-- What a run has written to the store that its steps have left, by how it came to an end. -/
inductive Wrote : Option (Except StoreFault (Option Call)) → State → Prop
  /-- A run that did not get as far as its entry, or whose entry was refused, has written nothing. -/
  | nothing {result : Option (Except StoreFault (Option Call))} {final : State}
      (none : ∀ call, result ≠ some (.ok (some call))) (unnoted : ¬ IsNoted host runner id state)
      (same : host.store final = left) : Wrote result final
  /-- A run that could not write its trigger back has written an entry. -/
  | entry {call : Call} {saved : Trigger} {fault : StoreFault} {moment : State}
      (noted : IsNoted host runner id state) (own : call.trigger = id)
      (refused : (host.answer (.automate (.saveTrigger saved)) moment).1 = .error fault)
      (triggers : (host.store (host.answer (.automate (.saveTrigger saved)) moment).2).triggers =
        left.triggers)
      (history : (host.store (host.answer (.automate (.saveTrigger saved)) moment).2).history =
        left.history ++ [call]) :
      Wrote (some (.error fault)) (host.answer (.automate (.saveTrigger saved)) moment).2
  /-- A run that gives an entry has written both. -/
  | both {trigger : Trigger} {call : Call} {final : State} (own : call.trigger = id)
      (found : (host.store state).trigger? id = some trigger) (active : trigger.active = true)
      (history : (host.store final).history = left.history ++ [call])
      (saved : (host.store final).trigger? id =
        some (trigger.afterRun runner.maxRetries call.outcome call.createdAt)) :
      Wrote (some (.ok (some call))) final

end

variable {State : Type}

/-- The state that the steps of a run have left; a run that does not come to the steps has only
looked for its trigger. -/
def afterSteps (host : AutomateHost State) (runner : TriggerRunner) (id : TriggerId)
    (state : State) : State :=
  match (host.answer (.automate (.getTrigger id)) state).1 with
  | .ok (some trigger) =>
    if trigger.active then (host.perform (runner.perform id).run (begun host.answer id state)).2
    else begun host.answer id state
  | _ => begun host.answer id state

section

variable {host : AutomateHost State} {runner : TriggerRunner} {id : TriggerId} {state ended : State}

theorem afterSteps_of_error {fault : StoreFault}
    (refused : (host.answer (.automate (.getTrigger id)) state).1 = .error fault) :
    afterSteps host runner id state = begun host.answer id state := by
  rw [afterSteps, refused]

theorem afterSteps_of_unfit {found : Option Trigger}
    (read : (host.answer (.automate (.getTrigger id)) state).1 = .ok found)
    (unfit : ∀ trigger ∈ found, trigger.active = false) :
    afterSteps host runner id state = begun host.answer id state := by
  rw [afterSteps, read]
  cases found with
  | none => rfl
  | some trigger => exact if_neg (by rw [unfit trigger rfl]; decide)

theorem afterSteps_of_finds {trigger : Trigger}
    {result : Option (Except StoreFault (CallOutcome × Option String))}
    (finds : Finds host.answer id state trigger)
    (performed : (runner.perform id).run.run host.answer (begun host.answer id state) =
      (result, ended)) : afterSteps host runner id state = ended := by
  rw [afterSteps, finds.read]
  exact (if_pos finds.active).trans (congrArg Prod.snd performed)

/-- Steps that do nothing to the store but read it leave it as it was before the run. -/
theorem store_afterSteps (leaves : runner.LeavesStore host.answer) :
    host.store (afterSteps host runner id state) = host.store state := by
  unfold afterSteps
  split
  · split
    · exact store_ended rfl leaves
    · exact store_begun host id state
  · exact store_begun host id state

end

/-- Whatever calls of the store fail during a run, the trigger is written back only behind the
entry, and only a failure to write it back leaves an entry without it. -/
theorem writes_entry_first (host : AutomateHost State) (runner : TriggerRunner) (id : TriggerId)
    (state : State) :
    (runner.LeavesStore host.answer →
      host.store (afterSteps host runner id state) = host.store state) ∧
    Wrote host runner id state (host.store (afterSteps host runner id state))
      (host.perform (runner.run id).run state).1 (host.perform (runner.run id).run state).2 := by
  refine ⟨store_afterSteps, ?_⟩
  have ran := runs host.answer runner id state
  show Wrote _ _ _ _ _ ((runner.run id).run.run host.answer state).1
    ((runner.run id).run.run host.answer state).2
  generalize (runner.run id).run.run host.answer state = result at ran ⊢
  obtain ⟨value, final⟩ := result
  cases ran with
  | unread refused =>
    rw [afterSteps_of_error refused]
    refine .nothing nofun (fun ⟨_, _, _, _, judges, _⟩ => ?_) rfl
    cases refused.symm.trans judges.read
  | idle read unfit =>
    rw [afterSteps_of_unfit read unfit]
    refine .nothing nofun (fun ⟨trigger, _, _, _, judges, _⟩ => ?_) rfl
    obtain rfl := Except.ok.inj (read.symm.trans judges.read)
    exact absurd judges.active (by rw [unfit trigger rfl]; decide)
  | broken finds performed | unended finds performed =>
    rw [afterSteps_of_finds finds performed]
    refine .nothing nofun (fun ⟨_, _, _, _, judges, _⟩ => ?_) rfl
    cases performed.symm.trans judges.performed
  | unrecorded judges refused =>
    rw [afterSteps_of_finds judges.toFinds judges.performed]
    refine .nothing nofun (fun ⟨_, _, _, _, others, taken⟩ => ?_)
      ((host.unchanged_of_error refused).1.trans (store_recording host _))
    cases judges.performed.symm.trans others.performed
    cases refused.symm.trans taken
  | unsaved judges appended refused =>
    rw [afterSteps_of_finds judges.toFinds judges.performed]
    have store := (host.unchanged_of_error refused).1.trans (store_saving appended)
    have triggers := congrArg AutomateStore.triggers store
    have history := congrArg AutomateStore.history store
    exact .entry ⟨_, _, _, _, judges, appended⟩ rfl refused triggers history
  | @recorded trigger outcome error ended records =>
    rw [afterSteps_of_finds records.toFinds records.performed]
    have store := store_closing records
    have saved := AutomateStore.trigger?_saveTrigger_self
      ((host.store ended).appendHistory (entry host.answer id outcome error ended))
      (written host.answer runner trigger outcome ended)
    rw [← store, records.id_written] at saved
    have history := congrArg AutomateStore.history store
    exact .both rfl records.found records.active history saved

/-- A world with a trigger without steps, which cannot be written back. -/
def faultyWorld : World Logging :=
  { World.holding ⟨[Trigger.new ⟨.ofNat 1⟩ ⟨.ofNat 1⟩ "t" .everyHour ⟨0, 0⟩], [], [], []⟩ with
    faults := FaultPlan.none.set .saveTrigger [some "down"] }

/-- A runner without handlers. -/
def bareRunner : TriggerRunner := ⟨.empty, .empty, 5⟩

/-- The run fails, its trigger is as before, and still its history has a new entry. -/
theorem entry_without_trigger :
    ∃ fault final,
      World.automateHost.perform (bareRunner.run ⟨.ofNat 1⟩).run faultyWorld =
        (some (.error fault), final) ∧
      final.automate.trigger? ⟨.ofNat 1⟩ = faultyWorld.automate.trigger? ⟨.ofNat 1⟩ ∧
      faultyWorld.automate.historyOf ⟨.ofNat 1⟩ = [] ∧
      (final.automate.historyOf ⟨.ofNat 1⟩).map Call.outcome = [.fired] := by
  have unsaved : (World.automateHost.perform (bareRunner.run ⟨.ofNat 1⟩).run faultyWorld).1.map
      Except.toOption = some none := by decide +kernel
  obtain ⟨result, returned, nothing⟩ := Option.map_eq_some_iff.mp unsaved
  cases result with
  | ok found => cases nothing
  | error fault =>
    refine ⟨fault, _, Prod.ext returned rfl, ?_, ?_, ?_⟩ <;> decide +kernel

end TriggerRunner

end TaskAutomation
