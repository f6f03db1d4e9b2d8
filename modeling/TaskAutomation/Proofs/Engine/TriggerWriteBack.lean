import TaskAutomation.Proofs.Engine.Others
import TaskAutomation.Proofs.Engine.OwnSteps
import TaskAutomation.Proofs.Engine.TriggerRun

/-!
This file is about runs of a trigger that are not alone. A run writes back the whole record that it
has read, so what others have done to this record in between is lost, and a trigger that was deleted
in between is there again. Everything else that others have done stands.
-/

namespace TaskAutomation

namespace TriggerRunner

variable {State : Type} {host : AutomateHost State} {runner : TriggerRunner} {id : TriggerId}
  {others rest : List (Program Unit)} {start final : State}

/-- A run among others writes back what it has read: it reads its trigger in one state, it takes its
steps, it writes its entry in a further state and its trigger in a last one, and beyond that it makes
no request. What it writes is the record that it has read, with only its own bookkeeping changed, and
right after that everything else is as the others have left it. -/
structure WritesBack (host : AutomateHost State) (runner : TriggerRunner) (id : TriggerId)
    (others : List (Program Unit)) (start read noted before final : State)
    (trigger written : Trigger) (call : Call) : Prop where
  /-- The requests of the run, each with the state in which it is answered. -/
  asks : ∃ looked named, (runner.run id).run.asksAmid host.answer (others, start) =
    (.automate (.getTrigger id), read) ::
      ((runner.perform id).run.asksAmid host.answer
        (others.tail, (host.answer (.automate (.getTrigger id)) read).2) ++
      [(.now, looked), (.fresh .call, named), (.automate (.appendHistory call), noted),
        (.automate (.saveTrigger written), before)])
  /-- Its steps ask for what their handlers ask for, and the run only lists them. -/
  steps : ∀ kind, runner.StepsAsk (answerAmid host.answer) kind →
    kind (.automate (.conditions id)) ∧ kind (.automate (.actions id)) →
      ∀ asked ∈ (runner.perform id).run.asksAmid host.answer
        (others.tail, (host.answer (.automate (.getTrigger id)) read).2), kind asked.1
  opened : Reaches host.answer start read
  found : (host.answer (.automate (.getTrigger id)) read).1 = .ok (some trigger) ∧
    (host.store read).trigger? id = some trigger
  active : trigger.active = true
  taken : Reaches host.answer (host.answer (.automate (.getTrigger id)) read).2 noted
  own : call.trigger = id
  appended : (host.store (host.answer (.automate (.appendHistory call)) noted).2).history =
    (host.store noted).history ++ [call]
  waited : Reaches host.answer (host.answer (.automate (.appendHistory call)) noted).2 before
  closed : host.answer (.automate (.saveTrigger written)) before = (.ok (), final)
  listed : (host.store final).trigger? id = some written
  kept : written.name = trigger.name ∧ written.kind = trigger.kind ∧
    written.wallet = trigger.wallet ∧ written.createdAt = trigger.createdAt
  booked : written.lastCallAt = some call.createdAt ∧
    (written.active = false ↔ call.outcome.isFailure = true ∧ runner.maxRetries ≤ written.retries)
  otherTriggers : (host.store final).triggers.filter (fun other => other.id ≠ id) =
    (host.store before).triggers.filter fun other => other.id ≠ id
  conditions : (host.store final).conditions = (host.store before).conditions
  actions : (host.store final).actions = (host.store before).actions
  history : (host.store final).history = (host.store before).history

/-- A run changes nothing of an active trigger but the bookkeeping, and it switches it off only after
too many failed runs. -/
theorem keeps_afterRun {trigger : Trigger} (active : trigger.active = true) (maxRetries : Nat)
    (outcome : CallOutcome) (now : Instant) :
    ((trigger.afterRun maxRetries outcome now).name = trigger.name ∧
      (trigger.afterRun maxRetries outcome now).kind = trigger.kind ∧
      (trigger.afterRun maxRetries outcome now).wallet = trigger.wallet ∧
      (trigger.afterRun maxRetries outcome now).createdAt = trigger.createdAt) ∧
      (trigger.afterRun maxRetries outcome now).lastCallAt = some now ∧
      ((trigger.afterRun maxRetries outcome now).active = false ↔
        outcome.isFailure = true ∧
          maxRetries ≤ (trigger.afterRun maxRetries outcome now).retries) := by
  unfold Trigger.afterRun
  split
  · next fine =>
    refine ⟨⟨rfl, rfl, rfl, rfl⟩, rfl, ?_⟩
    simp [active, fine]
  · next fails =>
    refine ⟨⟨rfl, rfl, rfl, rfl⟩, rfl, ?_⟩
    have failed : outcome.isFailure = true := Decidable.of_not_not fails
    simp [active, failed]

/-- A run that comes to an entry reads its trigger, takes its steps and then writes twice. -/
theorem asksAmid_of_records {answer : (request : Request) → State → request.Reply × State}
    {trigger : Trigger} {outcome : CallOutcome} {error : Option String}
    {state ended : List (Program Unit) × State}
    (records : Records (answerAmid answer) runner id state trigger outcome error ended) :
    (runner.run id).run.asksAmid answer state =
      (.automate (.getTrigger id), othersFirst answer state) ::
        ((runner.perform id).run.asksAmid answer (begun (answerAmid answer) id state) ++
        [(.now, othersFirst answer ended),
          (.fresh .call, othersFirst answer (answerAmid answer .now ended).2),
          (.automate (.appendHistory (entry (answerAmid answer) id outcome error ended)),
            othersFirst answer (recording (answerAmid answer) ended)),
          (.automate (.saveTrigger (written (answerAmid answer) runner trigger outcome ended)),
            othersFirst answer (saving (answerAmid answer) id outcome error ended))]) := by
  refine (Work.asksAmid_bind (AutomateRequest.run_ask records.read)).trans ?_
  refine congrArg (List.cons _) ?_
  show (if _ then _ else _ : Work StoreFault (Option Call)).run.asksAmid answer _ = _
  rw [if_neg (by rw [records.active]; decide)]
  refine (Work.asksAmid_bind records.performed).trans (congrArg (HAppend.hAppend _) ?_)
  refine congrArg (List.cons _) (congrArg (List.cons _) ?_)
  refine (Work.asksAmid_bind (AutomateRequest.run_ask records.appended)).trans ?_
  refine congrArg (List.cons _) ?_
  exact Work.asksAmid_bind (AutomateRequest.run_ask records.saved)

theorem writes_back_of_records {trigger : Trigger} {outcome : CallOutcome} {error : Option String}
    {ended : List (Program Unit) × State}
    (records : Records (answerAmid host.answer) runner id (others, start) trigger outcome error
      ended) :
    runner.WritesBack host id others start (othersFirst host.answer (others, start))
      (othersFirst host.answer (recording (answerAmid host.answer) ended))
      (othersFirst host.answer (saving (answerAmid host.answer) id outcome error ended))
      (closing (answerAmid host.answer) runner id trigger outcome error ended).2 trigger
      (written (answerAmid host.answer) runner trigger outcome ended)
      (entry (answerAmid host.answer) id outcome error ended) := by
  have found := (host.served_of_ok records.read).1.symm
  have store := (host.served_of_ok records.saved).2
  have noted := (host.served_of_ok records.appended).2
  have own : (written (answerAmid host.answer) runner trigger outcome ended).id = id :=
    (id_afterRun _ _ _ _).trans (AutomateStore.id_of_trigger? found)
  have steps : Reaches host.answer (begun (answerAmid host.answer) id (others, start)).2 ended.2 := by
    have reaches := @reaches_runAmid _ host.answer _ (runner.perform id).run
      (begun (answerAmid host.answer) id (others, start))
    rw [records.performed] at reaches
    exact reaches
  have saved := AutomateStore.trigger?_saveTrigger_self
    (host.store (othersFirst host.answer (saving (answerAmid host.answer) id outcome error ended)))
    (written (answerAmid host.answer) runner trigger outcome ended)
  have otherTriggers := AutomateStore.triggers_saveTrigger_ne
    (host.store (othersFirst host.answer (saving (answerAmid host.answer) id outcome error ended)))
    (written (answerAmid host.answer) runner trigger outcome ended)
  rw [own] at saved otherTriggers
  have final : host.store (closing (answerAmid host.answer) runner id trigger outcome error ended).2 =
      (host.store (othersFirst host.answer (saving (answerAmid host.answer) id outcome error
        ended))).saveTrigger (written (answerAmid host.answer) runner trigger outcome ended) := store
  have conditions := congrArg AutomateStore.conditions final
  have actions := congrArg AutomateStore.actions final
  have history := congrArg AutomateStore.history final
  obtain ⟨kept, booked⟩ := keeps_afterRun records.active runner.maxRetries outcome
    (answerAmid host.answer .now ended).1
  exact {
    asks := ⟨_, _, asksAmid_of_records records⟩
    steps := fun _ steps lists => (asks_perform steps lists _).of_mem_asksAmid
    opened := reaches_othersFirst (others, start)
    found := ⟨records.read, found⟩
    active := records.active
    taken := steps.trans ((reaches_answerAmid .now ended).trans
      ((reaches_answerAmid (.fresh .call) _).trans (reaches_othersFirst _)))
    own := rfl
    appended := congrArg AutomateStore.history noted
    waited := reaches_othersFirst (saving (answerAmid host.answer) id outcome error ended)
    closed := Prod.ext records.saved rfl
    listed := final ▸ saved
    otherTriggers := final ▸ otherTriggers
    kept, booked, conditions, actions, history }

/-- Whatever others do while a trigger runs, the run writes back what it has read. -/
theorem writes_back_what_it_read {call : Call}
    (ran : (runner.run id).run.run (answerAmid host.answer) (others, start) =
      (some (.ok (some call)), (rest, final))) :
    ∃ read noted before trigger written,
      runner.WritesBack host id others start read noted before final trigger written call := by
  have runs := runs (answerAmid host.answer) runner id (others, start)
  generalize (runner.run id).run.run (answerAmid host.answer) (others, start) = result at ran runs
  subst ran
  generalize last : (rest, final) = ended at runs
  cases runs with
  | recorded records =>
    have same : final = _ := congrArg Prod.snd last
    rw [same]
    exact ⟨_, _, _, _, _, writes_back_of_records records⟩

/-- A world with a trigger without steps. -/
def sharedWorld : World Logging :=
  .holding ⟨[Trigger.new ⟨.ofNat 1⟩ ⟨.ofNat 1⟩ "old" .everyHour ⟨0, 0⟩], [], [], []⟩

/-- The trigger gets another name and is switched off. -/
def switchOff : Work ServiceFault Trigger :=
  Engine.default.service.updateTrigger ⟨.ofNat 1⟩ { name := some "new", active := some false }

/-- A run of the trigger that others interrupt once, when it has just read the trigger. -/
def interrupted {α : Type} (work : Work ServiceFault α) :
    Option (Except StoreFault (Option Call)) × (List (Program Unit) × World Logging) :=
  (TriggerRunner.run ⟨.empty, .empty, 5⟩ ⟨.ofNat 1⟩).run.run (answerAmid World.answer)
    ([.pure (), work.run.bind fun _ => .pure ()], sharedWorld)

theorem writes_back_what_it_read_interrupted :
    ∃ call rest final, interrupted switchOff = (some (.ok (some call)), (rest, final)) ∧
      ∃ read noted before trigger written,
        TriggerRunner.WritesBack World.automateHost ⟨.empty, .empty, 5⟩ ⟨.ofNat 1⟩
          [.pure (), switchOff.run.bind fun _ => .pure ()] sharedWorld read noted before final trigger
          written call := by
  have recorded : (interrupted switchOff).1.map (fun result => result.toOption.join.isSome) =
      some true := by decide +kernel
  obtain ⟨result, returned, entered⟩ := Option.map_eq_some_iff.mp recorded
  match result, entered with
  | .ok (some call), _ =>
    have ran : interrupted switchOff = (some (.ok (some call)),
        ((interrupted switchOff).2.1, (interrupted switchOff).2.2)) := Prod.ext returned rfl
    exact ⟨call, _, _, ran, @writes_back_what_it_read _ World.automateHost ⟨.empty, .empty, 5⟩
      ⟨.ofNat 1⟩ [.pure (), switchOff.run.bind fun _ => .pure ()] _ sharedWorld _ call ran⟩

/-- The world when a run has just read the trigger. -/
def openedWorld : World Logging :=
  (World.answer (.automate (.getTrigger ⟨.ofNat 1⟩)) sharedWorld).2

/-- The trigger keeps its name and stays switched on, and after it was deleted it is there again and
has a history. -/
theorem loses_what_others_did :
    ((openedWorld.perform switchOff.run).1.bind Except.toOption).map
        (fun trigger => (trigger.name, trigger.active)) = some ("new", false) ∧
      ((interrupted switchOff).2.2.automate.trigger? ⟨.ofNat 1⟩).map
        (fun trigger => (trigger.name, trigger.active)) = some ("old", true) ∧
      (openedWorld.perform (AutomateService.deleteTrigger ⟨.ofNat 1⟩).run).1.bind
        Except.toOption = some true ∧
      ((interrupted (AutomateService.deleteTrigger ⟨.ofNat 1⟩)).2.2.automate.trigger?
        ⟨.ofNat 1⟩).isSome = true ∧
      ((interrupted (AutomateService.deleteTrigger ⟨.ofNat 1⟩)).2.2.automate.historyOf
        ⟨.ofNat 1⟩).map Call.outcome = [.fired] := by
  refine ⟨?_, ?_, ?_, ?_, ?_⟩ <;> decide +kernel

end TriggerRunner

end TaskAutomation
