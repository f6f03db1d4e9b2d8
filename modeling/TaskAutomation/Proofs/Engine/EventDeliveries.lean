import TaskAutomation.Proofs.Engine.CalledTriggers
import TaskAutomation.Proofs.Engine.HeldRuns

/-!
This file says exactly what the delivery of an event does. It adds one record for each trigger that
listens, and nothing else changes. A run that is in flight holds its sign, so further deliveries add
nothing but collisions until such a run is over: however often an event is delivered before, the same
tasks are in flight.
-/

namespace TaskAutomation

open StoredTask

/-! ### Pushes that only collide -/

/-- Apart from the runs of some triggers nothing is pushed or asked of the queue, and the triggers stay
as they are. -/
structure Request.OnlyRuns (settings : RunSettings) (triggers : TriggerId → Prop)
    (request : Request) : Prop where
  leaves : request.LeavesStore
  pushes : request.SparesQueue ∨ ∃ trigger, triggers trigger ∧ request = settings.runRequest trigger

namespace World

variable {State : Type} [Outside State] {settings : RunSettings} {world final : World State}
  {moments : List (World State)} {request : Request} {triggers : TriggerId → Prop}
  {trigger : TriggerId} {task : TaskId}

/-- The push of a run changes nothing about who is in flight, if one is in flight already. -/
theorem has_inFlight_answer_run (orderly : world.backend.Orderly world.pushed)
    (unique : (answer (settings.runRequest trigger) world).2.pushed.Nodup)
    (held : RunInFlight world.backend.records trigger) :
    Has IsInFlight (answer (settings.runRequest trigger) world).2.backend.records task ↔
      Has IsInFlight world.backend.records task := by
  obtain ⟨fault, -, same⟩ | ⟨new, -, -, -, effect⟩ := effect_tasks orderly _ unique
  · exact iff_of_eq (congrArg (fun queue : Backend => Has IsInFlight queue.records task) same)
  · obtain ⟨record, -, -, -, free⟩ | ⟨existing, record, -, records, stored, -⟩ := effect.push_inv
    · obtain ⟨holder, member, holds⟩ := held
      exact absurd holds (free _ rfl holder member)
    · refine (iff_of_eq (congrArg (Has IsInFlight · task) records)).trans (has_append ?_)
      rw [IsInFlight, status?_of_isOf stored]
      rintro (same | same) <;> cases same

theorem runInFlight_answer (orderly : world.backend.Orderly world.pushed)
    (unique : (answer request world).2.pushed.Nodup) (only : request.OnlyRuns settings triggers)
    (held : RunInFlight world.backend.records trigger) :
    RunInFlight (answer request world).2.backend.records trigger := by
  have goesOn : request.EndsNone fun _ => True := by
    intro report ended
    obtain spares | ⟨trigger, -, rfl⟩ := only.pushes
    · obtain same | ⟨why, same⟩ := ended <;> exact absurd same (spares _)
    · obtain same | ⟨why, same⟩ := ended <;> cases same
  obtain ⟨task, own⟩ := orderly.runInFlight_iff.mp held
  exact (orderly_answer orderly unique).runInFlight_iff.mpr
    ⟨task, isRunInFlight_answer orderly unique goesOn trivial own⟩

/-- As long as nothing but runs of triggers is pushed that have one in flight, the same tasks are in
flight. -/
theorem has_inFlight_through
    (through : Through answer (Request.OnlyRuns settings triggers) world moments final)
    (orderly : world.backend.Orderly world.pushed) (unique : final.pushed.Nodup)
    (held : ∀ trigger, triggers trigger → RunInFlight world.backend.records trigger) :
    Has IsInFlight final.backend.records task ↔ Has IsInFlight world.backend.records task := by
  induction through with
  | here => exact Iff.rfl
  | @step world moments final request only rest inductionHypothesis =>
    have used := unique.sublist (pushed_prefix_through rest).sublist
    refine (inductionHypothesis (orderly_answer orderly used) unique fun trigger own =>
      runInFlight_answer orderly used only (held trigger own)).trans ?_
    obtain spares | ⟨trigger, own, rfl⟩ := only.pushes
    · rw [(sameQueue_answer spares world).backend]
    · exact has_inFlight_answer_run orderly used (held trigger own)

end World

/-! ### Deliveries -/

namespace RunSettings

variable {State : Type} [Outside State] {settings : RunSettings} {world later : World State}
  {task : Task} {source : EventSource} {event : ContractEvent} {now : Instant}
  {deliveries : List (Task × Instant)}

/-- The params of a task are an event of a source. -/
def Carries (task : Task) (source : EventSource) : Prop :=
  ∃ event, ContractEvent.parse task.params = .ok event ∧ event.source = source

/-- What the delivery of an event has done to a world: one record was added for each trigger that
listens, in the order of their identifiers, and the outcome says how many runs wait. -/
structure Delivers (settings : RunSettings) (task : Task) (event : ContractEvent) (now : Instant)
    (before after : World State) (outcome : Outcome) (listening : List Trigger)
    (added : List StoredTask) : Prop where
  listening_iff : ∀ trigger, trigger ∈ listening ↔
    trigger ∈ before.automate.triggers ∧ trigger.Hears event.source
  ascends : AutomateStore.Ascends listening
  pushed : World.PushedRuns settings listening before after added
  concludes : outcome = ⟨.done, none,
    ["queued " ++ toString (added.countP fun record => record.status? = some .pending)]⟩

/-- The world after tasks with events have been run, each at its time. -/
def deliverAll (settings : RunSettings) (deliveries : List (Task × Instant))
    (world : World State) : World State :=
  deliveries.foldl (fun world delivery =>
    (World.perform (settings.eventHandler delivery.1 delivery.2) world).2) world

/-- Since the delivery of an event none of the runs is over that are in flight of the triggers that
listen, and no other trigger has begun to listen. -/
structure AwaitsDelivery (source : EventSource) (delivered later : World State) : Prop where
  spared : ∃ moments, Through World.answer (fun request => request.EndsNone fun task =>
    ∃ trigger ∈ delivered.automate.triggers, trigger.Hears source ∧
      IsRunInFlight delivered.backend.records trigger.id task) delivered moments later
  listening : ∀ trigger ∈ later.automate.triggers, trigger.Hears source →
    ∃ own ∈ delivered.automate.triggers, own.Hears source ∧ own.id = trigger.id

/-- The triggers of a store that listen. -/
def Listening (world : World State) (source : EventSource) (id : TriggerId) : Prop :=
  ∃ trigger ∈ world.automate.triggers, trigger.Hears source ∧ trigger.id = id

/-- A delivery pushes runs of the triggers that listen and does nothing else. -/
theorem through_delivery (carries : Carries task source) (settings : RunSettings) (now : Instant)
    (world : World State) :
    ∃ moments, Through World.answer (Request.OnlyRuns settings (Listening world source)) world moments
      (World.perform (settings.eventHandler task now) world).2 := by
  obtain ⟨event, parsed, same⟩ := carries
  refine ⟨_, Program.through_moments ?_⟩
  rw [settings.eventHandler_eq_handingOut]
  refine asks_handingOut ⟨AutomateRequest.leavesStore fun _ => rfl, Or.inl nofun⟩ ?_
  intro other read triggers listed trigger chosen
  obtain ⟨member, listens⟩ := List.mem_filter.mp chosen
  obtain rfl := Except.ok.inj (parsed.symm.trans read)
  obtain rfl : triggers = world.automate.triggers := (World.automateHost.served_of_ok listed).1
  exact ⟨nofun, Or.inr ⟨trigger.id,
    ⟨trigger, member, same ▸ Trigger.listensTo_iff.mp listens, rfl⟩, rfl⟩⟩

/-- The same for any number of deliveries. -/
theorem through_deliverAll (carry : ∀ delivery ∈ deliveries, Carries delivery.1 source)
    (settings : RunSettings) (world : World State) :
    ∃ moments, Through World.answer (Request.OnlyRuns settings (Listening world source)) world moments
      (settings.deliverAll deliveries world) := by
  induction deliveries generalizing world with
  | nil => exact ⟨[], .here world⟩
  | cons delivery rest inductionHypothesis =>
    obtain ⟨own, rest⟩ := List.forall_mem_cons.mp carry
    obtain ⟨former, first⟩ := through_delivery own settings delivery.2 world
    obtain ⟨latter, others⟩ := inductionHypothesis rest
      (World.perform (settings.eventHandler delivery.1 delivery.2) world).2
    have same := World.automate_through first fun _ only => only.leaves
    unfold Listening at others
    rw [same] at others
    exact ⟨former ++ latter, first.append others⟩

/-- An event adds one record for each trigger that listens, and as long as none of these runs is over,
any number of further deliveries of the event leave the same tasks in flight. -/
theorem fans_out (settings : RunSettings) (reached : world.Reached)
    (fresh : world.IssuesNew world.automate.triggers.length)
    (parsed : ContractEvent.parse task.params = .ok event) (now : Instant)
    (lists : world.Spares .listTriggers) (accepts : world.Spares .taskPush) :
    ∃ outcome after listening added,
      World.perform (settings.eventHandler task now) world = (some outcome, after) ∧
        settings.Delivers task event now world after outcome listening added ∧
        ∀ later deliveries, AwaitsDelivery event.source after later →
          (∀ delivery ∈ deliveries, Carries delivery.1 event.source) →
          (settings.deliverAll deliveries later).pushed.Nodup → ∀ own,
            (Has IsInFlight (settings.deliverAll deliveries later).backend.records own ↔
              Has IsInFlight later.backend.records own) := by
  have ready := reached.ready fresh
  have ascends := reached.ascends
  obtain ⟨ending, after, listening, added, ran, -, pushes, spared⟩ :=
    ready.perform_handingOut ascends settings parsed
      (fun run triggers => triggers.filter fun trigger => trigger.listensTo run.params.source)
      (fun _ _ => true) (fun run queued => (run.addInfo (queuedLine queued)).done) now
      List.filter_sublist
  obtain ⟨rfl, concludes, -⟩ := spared lists accepts
  obtain rfl := concludes rfl
  rw [← settings.eventHandler_eq_handingOut] at ran
  have listening_iff : ∀ trigger, trigger ∈ world.automate.triggers.filter (fun trigger =>
      trigger.listensTo event.source) ↔
        trigger ∈ world.automate.triggers ∧ trigger.Hears event.source := fun trigger => by
    rw [List.mem_filter, Trigger.listensTo_iff]
  refine ⟨_, after, _, added, ran, ⟨listening_iff, ascends.filter _, pushes, rfl⟩, ?_⟩
  intro later deliveries awaits carry unique own
  obtain ⟨moments, through⟩ := awaits.spared
  obtain ⟨further, redelivered⟩ := through_deliverAll carry settings later
  have used := unique.sublist (World.pushed_prefix_through redelivered).sublist
  have orderly := World.orderly_through through pushes.orderly used
  refine World.has_inFlight_through redelivered orderly unique ?_
  -- Each trigger that still listens got a run, which is not over.
  rintro _ ⟨trigger, member, hears, rfl⟩
  obtain ⟨listener, stored, listens, same⟩ := awaits.listening trigger member hears
  have given : RunInFlight after.backend.records listener.id := by
    rw [pushes.records]
    refine pushes.rows.runInFlight_iff.mpr (Or.inr ⟨listener, ?_, rfl⟩)
    exact (listening_iff listener).mpr ⟨pushes.store ▸ stored, listens⟩
  obtain ⟨id, run⟩ := pushes.orderly.runInFlight_iff.mp given
  have still := World.isRunInFlight_through through pushes.orderly used (fun _ goesOn => goesOn)
    ⟨listener, stored, listens, run⟩ run
  exact same ▸ orderly.runInFlight_iff.mpr ⟨id, still⟩

/-- A world with a trigger that listens to an event, put there by requests. -/
def hearingWorld : World Logging :=
  (World.answer (.automate (.saveTrigger (Trigger.new ⟨.ofNat 1⟩ ⟨.ofNat 1⟩ "t"
    (.contractEvent ⟨"main", "0xab", "Transfer"⟩ (some "sub-1")) ⟨0, 0⟩)))
      (World.holding .empty)).2

/-- A world in which the next task has been claimed. -/
def claimedNext (world : World Logging) : World Logging :=
  (World.answer (.tasks (.claim [defaultTopic] ⟨8, 0⟩)) world).2

theorem automate_claimedNext (world : World Logging) :
    (claimedNext world).automate = world.automate := by
  have leaves : Request.LeavesStore (.tasks (.claim [defaultTopic] ⟨8, 0⟩)) := nofun
  exact World.automateHost.store_answer_of_leaves leaves world

theorem fans_out_underway :
    ∃ outcome after listening added,
      World.perform (plainSettings.eventHandler eventTask ⟨7, 0⟩) hearingWorld =
          (some outcome, after) ∧
        plainSettings.Delivers eventTask ⟨⟨"main", "0xAB", "Transfer"⟩, none⟩ ⟨7, 0⟩ hearingWorld after
          outcome listening added ∧
        ∀ own,
          (Has IsInFlight (plainSettings.deliverAll [(eventTask, ⟨8, 0⟩), (eventTask, ⟨9, 0⟩)]
              (claimedNext after)).backend.records own ↔
            Has IsInFlight (claimedNext after).backend.records own) := by
  have parsed : ContractEvent.parse eventTask.params = .ok ⟨⟨"main", "0xAB", "Transfer"⟩, none⟩ := rfl
  have reached : hearingWorld.Reached := .answered _ _ (.blank _ .memory rfl rfl rfl)
  obtain ⟨outcome, after, listening, added, ran, delivers, again⟩ :=
    fans_out plainSettings reached (by decide +kernel) parsed ⟨7, 0⟩ nofun nofun
  refine ⟨outcome, after, listening, added, ran, delivers, ?_⟩
  obtain rfl : (World.perform (plainSettings.eventHandler eventTask ⟨7, 0⟩) hearingWorld).2 = after :=
    congrArg Prod.snd ran
  have claims : Request.EndsNone (fun _ => True) (.tasks (.claim [defaultTopic] ⟨8, 0⟩)) := by
    rintro report (same | ⟨why, same⟩) <;> cases same
  refine again _ _ ⟨⟨_, .step _ (fun report ended _ => claims report ended trivial) (.here _)⟩, ?_⟩
    (fun delivery member => ⟨_, ?_, rfl⟩) (by decide +kernel)
  · intro trigger member hears
    refine ⟨trigger, ?_, hears, rfl⟩
    rwa [automate_claimedNext] at member
  · obtain rfl | rest := List.mem_cons.mp member
    · exact parsed
    · rw [List.mem_singleton.mp rest]
      exact parsed

end RunSettings

end TaskAutomation
