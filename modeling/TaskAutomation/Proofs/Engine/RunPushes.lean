import TaskAutomation.Proofs.Automation.Signs
import TaskAutomation.Proofs.Engine.Tick
import TaskAutomation.Proofs.Engine.WorldQueue
import TaskAutomation.Proofs.Queue.Holders

/-!
This file says exactly what is added to a queue when runs of some triggers are pushed one after the
other. Every push adds one record behind all others: a run that waits if no task in flight has its
sign, and a collision otherwise. Runs of different triggers have different signs, so what a push adds
depends on the queue before the first push and not on the pushes in between. A push that is refused is
the last one, and the records up to there stay, as they do if a tick breaks off behind them.
-/

namespace TaskAutomation

open StoredTask

/-- The options with which a run of a trigger is pushed. -/
def RunSettings.runOptions (settings : RunSettings) (trigger : TriggerId) : PushOptions where
  topic := settings.topic
  priority := settings.priority
  collisionSign := some (TriggerRun.collisionSign ⟨trigger⟩)

/-- The task that is queued for a run of a trigger: its params and its sign name the trigger. -/
def RunSettings.runTask (settings : RunSettings) (trigger : TriggerId) (id : TaskId) (now : Instant) :
    Task where
  id := id
  handler := "automateTriggerRun"
  params := .record [("id", .string trigger.bare)]
  status := .pending
  priority := settings.priority
  topic := settings.topic
  collisionSign := some ("automateTriggerRun" ++ ":" ++ trigger.display)
  startAt := now
  attempt := 0
  executionMillis := none
  info := ""
  error := none
  watcher := false
  createdAt := now
  updatedAt := now

theorem RunSettings.runTask_eq_new (settings : RunSettings) (trigger : TriggerId) (id : TaskId)
    (now : Instant) : settings.runTask trigger id now =
      Task.new id TaskKind.triggerRun.name (TriggerRun.encode ⟨trigger⟩)
        (settings.runOptions trigger) now := rfl

namespace StoredTask

/-! ### The record that a push adds -/

/-- A task in flight has the sign of the runs of a trigger. -/
def RunInFlight (records : List StoredTask) (trigger : TriggerId) : Prop :=
  ∃ record ∈ records, record.Holds (TriggerRun.collisionSign ⟨trigger⟩)

instance (records : List StoredTask) (trigger : TriggerId) :
    Decidable (RunInFlight records trigger) := by
  unfold RunInFlight
  infer_instance

/-- The record that the push of a run of a trigger adds to others: the run waits if none is in flight,
and else it is kept as a collision with the task that is. -/
inductive AddsRun (settings : RunSettings) (now : Instant) (records : List StoredTask)
    (trigger : TriggerId) (record : StoredTask) : Prop
  | pending (id : TaskId) (free : ¬ RunInFlight records trigger)
      (stored : record.IsOf (settings.runTask trigger id now))
  | collision (id existing : TaskId) (holder : StoredTask) (member : holder ∈ records)
      (holds : holder.Holds (TriggerRun.collisionSign ⟨trigger⟩)) (named : holder.id? = some existing)
      (stored : record.IsOf ((settings.runTask trigger id now).collide existing))

variable {settings : RunSettings} {now : Instant} {records added : List StoredTask}
  {record first : StoredTask} {trigger other : TriggerId}

namespace AddsRun

theorem status?_eq (adds : AddsRun settings now records trigger record) :
    record.status? = if RunInFlight records trigger then some .collision else some .pending := by
  cases adds with
  | pending id free stored =>
    rw [if_neg free]
    exact status?_of_isOf stored
  | collision id existing holder member holds named stored =>
    rw [if_pos ⟨holder, member, holds⟩]
    exact status?_of_isOf stored

theorem sign?_eq (adds : AddsRun settings now records trigger record) :
    record.sign? = some (TriggerRun.collisionSign ⟨trigger⟩) := by
  cases adds with
  | pending id free stored => exact sign?_of_isOf stored
  | collision id existing holder member holds named stored => exact sign?_of_isOf stored

theorem inFlight_iff (adds : AddsRun settings now records trigger record) :
    record.IsInFlight ↔ ¬ RunInFlight records trigger := by
  rw [IsInFlight, adds.status?_eq]
  split
  · next held => exact iff_of_false (by rintro (same | same) <;> cases same) (not_not_intro held)
  · next free => exact iff_of_true (Or.inl rfl) free

/-- The new record holds the sign of its own runs, and only if nobody else does. -/
theorem holds_iff (adds : AddsRun settings now records trigger record) :
    record.Holds (TriggerRun.collisionSign ⟨other⟩) ↔
      trigger = other ∧ ¬ RunInFlight records trigger := by
  rw [Holds, adds.sign?_eq, adds.inFlight_iff, Option.some.injEq, TriggerRun.collisionSign_eq_iff]

/-- The record of another trigger's run does not matter. -/
theorem of_append (adds : AddsRun settings now (records ++ [first]) other record)
    (former : AddsRun settings now records trigger first) (different : trigger ≠ other) :
    AddsRun settings now records other record := by
  cases adds with
  | pending id free stored =>
    refine .pending id (fun ⟨holder, member, holds⟩ => free ?_) stored
    exact ⟨holder, List.mem_append_left _ member, holds⟩
  | collision id existing holder member holds named stored =>
    obtain before | new := List.mem_append.mp member
    · exact .collision id existing holder before holds named stored
    · rw [List.mem_singleton.mp new] at holds
      exact absurd (former.holds_iff.mp holds).1 different

end AddsRun

/-! ### The records that several pushes add -/

/-- The records that the pushes of runs of some triggers add to others, in order. -/
def AddsRuns (settings : RunSettings) (now : Instant) (records : List StoredTask)
    (triggers : List Trigger) (added : List StoredTask) : Prop :=
  List.Forall₂ (fun trigger record => AddsRun settings now records trigger.id record) triggers added

namespace AddsRuns

variable {triggers : List Trigger}

theorem of_append (adds : AddsRuns settings now (records ++ [first]) triggers added)
    (former : AddsRun settings now records other first)
    (different : ∀ trigger ∈ triggers, other ≠ trigger.id) :
    AddsRuns settings now records triggers added :=
  ((List.forall₂_and_left _ _).mpr ⟨different, adds⟩).imp fun _ _ ⟨different, adds⟩ =>
    adds.of_append former different

theorem exists_trigger (adds : AddsRuns settings now records triggers added)
    (member : record ∈ added) :
    ∃ trigger ∈ triggers, AddsRun settings now records trigger.id record := by
  induction adds with
  | nil => cases member
  | cons own _ inductionHypothesis =>
    obtain rfl | later := List.mem_cons.mp member
    · exact ⟨_, List.mem_cons_self, own⟩
    · obtain ⟨trigger, inside, adds⟩ := inductionHypothesis later
      exact ⟨trigger, List.mem_cons_of_mem _ inside, adds⟩

theorem exists_record (adds : AddsRuns settings now records triggers added) {trigger : Trigger}
    (member : trigger ∈ triggers) :
    ∃ record ∈ added, AddsRun settings now records trigger.id record := by
  induction adds with
  | nil => cases member
  | cons own _ inductionHypothesis =>
    obtain rfl | later := List.mem_cons.mp member
    · exact ⟨_, List.mem_cons_self, own⟩
    · obtain ⟨record, inside, adds⟩ := inductionHypothesis later
      exact ⟨record, List.mem_cons_of_mem _ inside, adds⟩

/-- With the pushes a run of each of the triggers is in flight, and of no other trigger than before. -/
theorem runInFlight_iff (adds : AddsRuns settings now records triggers added) :
    RunInFlight (records ++ added) other ↔
      RunInFlight records other ∨ ∃ trigger ∈ triggers, trigger.id = other := by
  constructor
  · rintro ⟨record, member, holds⟩
    obtain before | new := List.mem_append.mp member
    · exact Or.inl ⟨record, before, holds⟩
    · obtain ⟨trigger, inside, own⟩ := adds.exists_trigger new
      exact Or.inr ⟨trigger, inside, (own.holds_iff.mp holds).1⟩
  · have stays : RunInFlight records other → RunInFlight (records ++ added) other :=
      fun ⟨record, member, holds⟩ => ⟨record, List.mem_append_left _ member, holds⟩
    rintro (before | ⟨trigger, inside, rfl⟩)
    · exact stays before
    · by_cases before : RunInFlight records trigger.id
      · exact stays before
      · obtain ⟨record, new, own⟩ := adds.exists_record inside
        exact ⟨record, List.mem_append_right _ new, own.holds_iff.mpr ⟨rfl, before⟩⟩

end AddsRuns

end StoredTask

/-! ### Identifiers and faults to come -/

/-- The identifiers that a source issues next, at one time and with the draws that follow. -/
def IdSource.upcoming (now : Instant) (draws : Nat → Nat) : Nat → IdSource → Nat → List TaskId
  | 0, _, _ => []
  | n + 1, source, drawn =>
    ⟨(source.issue now (draws drawn)).1⟩ ::
      upcoming now draws n (source.issue now (draws drawn)).2 (drawn + 1)

theorem IdSource.upcoming_prefix (now : Instant) (draws : Nat → Nat) {m n : Nat} (fewer : m ≤ n)
    (source : IdSource) (drawn : Nat) :
    upcoming now draws m source drawn <+: upcoming now draws n source drawn := by
  induction m generalizing n source drawn with
  | zero => exact List.nil_prefix
  | succ m inductionHypothesis =>
    cases n with
    | zero => cases fewer
    | succ n =>
      obtain ⟨rest, same⟩ := inductionHypothesis (Nat.le_of_succ_le_succ fewer) _ _
      exact ⟨rest, congrArg (List.cons _) same⟩

namespace World

variable {State : Type}

/-- The identifiers of the next tasks, as long as the clock of a world stands still. -/
def upcoming (world : World State) (n : Nat) : List TaskId :=
  IdSource.upcoming world.clock world.draws n world.ids world.drawn

/-- None of the next identifiers has been used, and none of them comes twice. -/
def IssuesNew (world : World State) (n : Nat) : Prop := (world.pushed ++ world.upcoming n).Nodup

/-- The queue of a world is as it should be, and the next identifiers are new. -/
structure Ready (world : World State) (n : Nat) : Prop where
  orderly : world.backend.Orderly world.pushed
  fresh : world.IssuesNew n

/-- No fault is planned for the calls of a gate. -/
def Spares (world : World State) (gate : StoreGate) : Prop :=
  ∀ verdict ∈ world.faults.verdicts gate, verdict = none

variable {world : World State} {n : Nat} {gate other : StoreGate}

theorem Ready.mono (ready : world.Ready n) {m : Nat} (fewer : m ≤ n) : world.Ready m where
  orderly := ready.orderly
  fresh := by
    have fewer := IdSource.upcoming_prefix world.clock world.draws fewer world.ids world.drawn
    exact ready.fresh.sublist (List.Sublist.append_left fewer.sublist world.pushed)

/-- A queue that requests have led to is ready for new tasks. -/
theorem Reached.ready [Outside State] (reached : world.Reached) (fresh : world.IssuesNew n) :
    world.Ready n :=
  ⟨reached.orderly (List.nodup_append.mp fresh).1, fresh⟩

instance (world : World State) (n : Nat) : Decidable (world.IssuesNew n) := by
  unfold IssuesNew
  infer_instance

instance (world : World State) (gate : StoreGate) : Decidable (world.Spares gate) := by
  unfold Spares
  infer_instance

/-- What is left of a plan of faults is a part of it. -/
theorem verdicts_take_subset (plan : FaultPlan StoreGate String) (gate other : StoreGate) :
    (plan.take gate).2.verdicts other ⊆ plan.verdicts other := by
  unfold FaultPlan.take
  split
  · exact List.Subset.refl _
  · next verdict rest planned =>
    dsimp only
    split
    · next same =>
      rw [same, planned]
      exact List.subset_cons_self verdict rest
    · exact List.Subset.refl _

/-- A fault that comes up was planned. -/
theorem Spares.take_eq_none (spares : world.Spares gate) : (world.faults.take gate).1 = none := by
  unfold Spares at spares
  unfold FaultPlan.take
  split
  · rfl
  · next verdict rest planned =>
    rw [planned] at spares
    exact spares verdict List.mem_cons_self

/-- A world after the verdict on a call. -/
def judged (world : World State) (gate : StoreGate) : World State :=
  { world with faults := (world.faults.take gate).2 }

theorem Spares.judged (spares : world.Spares other) (gate : StoreGate) :
    (world.judged gate).Spares other :=
  fun verdict planned => spares verdict (verdicts_take_subset world.faults gate other planned)

theorem Ready.judged (ready : world.Ready n) (gate : StoreGate) : (world.judged gate).Ready n :=
  ⟨ready.orderly, ready.fresh⟩

/-! ### One push -/

/-- What the push of a run of a trigger leads to: it was refused because of a planned fault and has
left the queue as it was, or it has added its record. -/
inductive PushEnds (settings : RunSettings) (trigger : TriggerId) (before after : World State) :
    Except StoreFault Pushed → Prop
  | refused (fault : StoreFault) (same : after.backend = before.backend)
      (planned : ¬ before.Spares .taskPush) : PushEnds settings trigger before after (.error fault)
  | served (pushed : Pushed) (record : StoredTask)
      (records : after.backend.records = before.backend.records ++ [record])
      (adds : AddsRun settings before.clock before.backend.records trigger record)
      (counted : pushed.isQueued = decide (record.status? = some .pending)) :
      PushEnds settings trigger before after (.ok pushed)

/-- Between two worlds only the queue and what belongs to it have changed, and the later one is ready
for more. -/
structure HandsOn (before after : World State) (n : Nat) : Prop where
  ready : after.Ready n
  clock : after.clock = before.clock
  store : after.automate = before.automate
  spares : ∀ gate, before.Spares gate → after.Spares gate

/-- The world after a push that was accepted. -/
theorem answerTasks_push {handler : String} {params : Json} {options : PushOptions} {pushed : Pushed}
    {id : TaskId} (issued : id = ⟨(world.ids.issue world.clock (world.draws world.drawn)).1⟩)
    (accepted : (world.backend.push id world.clock handler params options).1 = .ok pushed) :
    world.answerTasks (.push handler params options) = (.ok pushed, { world with
      backend := (world.backend.push id world.clock handler params options).2
      ids := (world.ids.issue world.clock (world.draws world.drawn)).2
      drawn := world.drawn + 1
      pushed := world.pushed ++ [id] }) := by
  subst issued
  simp only [answerTasks, accepted, Except.isOk, Except.toBool, if_true]

/-- A push that goes through adds its record and takes one of the new identifiers. -/
theorem Ready.answerTasks_push (ready : world.Ready (n + 1)) (settings : RunSettings)
    (trigger : TriggerId) :
    ∃ pushed after, world.answerTasks (.push TaskKind.triggerRun.name (TriggerRun.encode ⟨trigger⟩)
        (settings.runOptions trigger)) = (.ok pushed, after) ∧
      PushEnds settings trigger world after (.ok pushed) ∧ HandsOn world after n := by
  obtain ⟨id, issued⟩ : ∃ id : TaskId,
      id = ⟨(world.ids.issue world.clock (world.draws world.drawn)).1⟩ := ⟨_, rfl⟩
  have fresh : (world.pushed ++ id :: IdSource.upcoming world.clock world.draws n
      (world.ids.issue world.clock (world.draws world.drawn)).2 (world.drawn + 1)).Nodup :=
    issued ▸ ready.fresh
  let operation : QueueOperation := .push id world.clock TaskKind.triggerRun.name
    (TriggerRun.encode ⟨trigger⟩) (settings.runOptions trigger)
  have new : ∀ own ∈ operation.pushedId?, own ∉ world.pushed := by
    rintro _ ⟨⟩ used
    exact List.disjoint_of_nodup_append fresh used List.mem_cons_self
  have orderly : (world.backend.step operation).2.Orderly (world.pushed ++ [id]) :=
    (ready.orderly.step new).mono fun own used => List.mem_append.mpr (List.mem_append.mp used).symm
  have goesOn (pushed : Pushed) (accepted : (world.backend.push id world.clock
      TaskKind.triggerRun.name (TriggerRun.encode ⟨trigger⟩) (settings.runOptions trigger)).1 =
        .ok pushed) (ends : ∀ after : World State,
          after.backend = (world.backend.step operation).2 →
            PushEnds settings trigger world after (.ok pushed)) :
      ∃ pushed after, world.answerTasks (.push TaskKind.triggerRun.name
          (TriggerRun.encode ⟨trigger⟩) (settings.runOptions trigger)) = (.ok pushed, after) ∧
        PushEnds settings trigger world after (.ok pushed) ∧ HandsOn world after n := by
    refine ⟨pushed, _, World.answerTasks_push issued accepted, ends _ rfl, ⟨orderly, ?_⟩, rfl, rfl,
      fun _ spares => spares⟩
    show ((world.pushed ++ [id]) ++ _).Nodup
    rw [List.append_assoc]
    exact fresh
  obtain ⟨record, reply, records, stored, free⟩ |
    ⟨existing, record, reply, records, stored, _, ⟨⟩, holder, member, holds, named⟩ :=
      (ready.orderly.effect new).push_inv
  · obtain ⟨pushed, accepted, same⟩ := map_eq_ok.mp reply
    cases same
    rw [← settings.runTask_eq_new] at stored
    have adds : AddsRun settings world.clock world.backend.records trigger record :=
      .pending id (fun ⟨other, member, holds⟩ => free _ rfl other member holds) stored
    exact goesOn _ accepted fun after queue => .served _ record (queue ▸ records) adds
      (decide_eq_true (status?_of_isOf stored)).symm
  · obtain ⟨pushed, accepted, same⟩ := map_eq_ok.mp reply
    cases same
    rw [← settings.runTask_eq_new] at stored
    have adds : AddsRun settings world.clock world.backend.records trigger record :=
      .collision id existing holder member holds named stored
    refine goesOn _ accepted fun after queue => .served _ record (queue ▸ records) adds
      (decide_eq_false ?_).symm
    rw [status?_of_isOf stored]
    exact nofun

variable [Outside State]

/-- A request to the task queue goes through unless a fault is planned for it. -/
theorem answer_tasks_cases (own : TaskRequest) (world : World State) :
    (∃ why, answer (.tasks own) world = (.error (.backend why), world.judged own.gate) ∧
        ¬ world.Spares own.gate) ∨
      answer (.tasks own) world = (world.judged own.gate).answerTasks own := by
  cases verdict : (world.faults.take own.gate).1 with
  | none => exact Or.inr (by simp only [answer, takeFault, verdict, judged])
  | some why =>
    refine Or.inl ⟨why, by simp only [answer, takeFault, verdict, judged], fun spares => ?_⟩
    cases verdict.symm.trans spares.take_eq_none

/-- The list of the triggers is given unless a fault is planned for it. -/
theorem answer_listTriggers_cases (world : World State) :
    (∃ why, answer (.automate .listTriggers) world =
          (.error (.backend why), world.judged .listTriggers) ∧ ¬ world.Spares .listTriggers) ∨
      answer (.automate .listTriggers) world =
        (.ok world.automate.triggers, world.judged .listTriggers) := by
  cases verdict : (world.faults.take .listTriggers).1 with
  | none =>
    refine Or.inr ?_
    simp only [answer, takeFault, AutomateRequest.gate, verdict, judged, answerAutomate]
  | some why =>
    refine Or.inl ⟨why, ?_, fun spares => ?_⟩
    · simp only [answer, takeFault, AutomateRequest.gate, verdict, judged]
    · cases verdict.symm.trans spares.take_eq_none

/-- A push is refused because of a planned fault, or it goes through. -/
theorem Ready.run_pushRun (ready : world.Ready (n + 1)) (settings : RunSettings)
    (trigger : TriggerId) :
    ∃ reply after, (settings.pushRun trigger).run.run answer world = (some reply, after) ∧
      PushEnds settings trigger world after reply ∧ HandsOn world after n := by
  obtain ⟨why, refused, planned⟩ | served := answer_tasks_cases (.push TaskKind.triggerRun.name
    (TriggerRun.encode ⟨trigger⟩) (settings.runOptions trigger)) world
  · refine ⟨_, world.judged .taskPush,
      congrArg (fun result => (some result.1, result.2)) refused, (.refused _ rfl planned),
      (ready.judged _).mono (Nat.le_succ n), rfl, rfl, fun _ spares => spares.judged _⟩
  · obtain ⟨pushed, after, answered, ends, handsOn⟩ :=
      (ready.judged .taskPush).answerTasks_push settings trigger
    refine ⟨.ok pushed, after, congrArg (fun result => (some result.1, result.2))
      (served.trans answered), ?_, handsOn.ready, handsOn.clock, handsOn.store, fun gate spares =>
        handsOn.spares gate (spares.judged _)⟩
    cases ends with
    | served _ record records adds counted => exact .served _ record records adds counted

/-! ### Pushes one after the other -/

/-- Runs of some triggers were pushed between two worlds, and nothing was done to the automation
store. -/
structure PushedRuns (settings : RunSettings) (triggers : List Trigger) (before after : World State)
    (added : List StoredTask) : Prop where
  records : after.backend.records = before.backend.records ++ added
  rows : AddsRuns settings before.clock before.backend.records triggers added
  store : after.automate = before.automate
  orderly : after.backend.Orderly after.pushed

/-- The runs of some triggers are pushed in order up to the first push that is refused, which needs a
planned fault. If none is, those that wait are counted. -/
theorem Ready.run_pushRuns {triggers : List Trigger} (ready : world.Ready triggers.length)
    (apart : (triggers.map Trigger.id).Nodup) (settings : RunSettings) :
    ∃ result after tried added,
      (settings.pushRuns triggers).run.run answer world = (some result, after) ∧
        tried <+: triggers ∧ PushedRuns settings tried world after added ∧
        (world.Spares .taskPush → tried = triggers ∧
          result = .ok (added.countP fun record => record.status? = some .pending)) := by
  induction triggers generalizing world with
  | nil =>
    exact ⟨.ok 0, world, [], [], rfl, List.nil_prefix,
      ⟨(List.append_nil _).symm, .nil, rfl, ready.orderly⟩, fun _ => ⟨rfl, rfl⟩⟩
  | cons trigger rest inductionHypothesis =>
    obtain ⟨different, apart⟩ := List.nodup_cons.mp apart
    obtain ⟨reply, after, ran, ends, handsOn⟩ := ready.run_pushRun settings trigger.id
    cases ends with
    | refused fault same planned =>
      refine ⟨.error fault, after, [], [], Work.run_bind_error _ ran, List.nil_prefix, ⟨?_, .nil,
        handsOn.store, handsOn.ready.orderly⟩, fun spares => absurd spares planned⟩
      rw [same, List.append_nil]
    | served pushed record records adds counted =>
      obtain ⟨result, final, tried, added, later, front, pushes, spared⟩ :=
        inductionHypothesis handsOn.ready apart
      have rows := pushes.rows
      rw [records, handsOn.clock] at rows
      have others : ∀ other ∈ tried, trigger.id ≠ other.id := fun other member same =>
        different (List.mem_map.mpr ⟨other, front.subset member, same.symm⟩)
      refine ⟨result.map fun queued => queued + if pushed.isQueued then 1 else 0, final,
        trigger :: tried, record :: added, ?_, (List.prefix_cons_inj trigger).mpr front,
        ⟨?_, .cons adds (rows.of_append adds others), pushes.store.trans handsOn.store,
          pushes.orderly⟩, fun spares => ?_⟩
      · refine (Work.run_bind ran).trans ?_
        cases result with
        | ok queued => exact Work.run_bind later
        | error fault => exact Work.run_bind_error _ later
      · rw [pushes.records, records, List.append_assoc, List.singleton_append]
      · obtain ⟨rfl, rfl⟩ := spared (handsOn.spares _ spares)
        refine ⟨rfl, congrArg Except.ok ?_⟩
        rw [List.countP_cons, counted]

end World

/-! ### Handing out runs -/

theorem AutomateStore.Ascends.nodup_ids {triggers : List Trigger} (ascends : Ascends triggers) :
    (triggers.map Trigger.id).Nodup :=
  List.pairwise_map.mpr (ascends.imp fun before same => by
    rw [same] at before
    exact lt_irrefl _ before)

namespace World

variable {State : Type} [Outside State] {world : World State}

/-- The chosen triggers get their runs in the order of the store, up to the first push that is
refused. If none is, the work comes to its conclusion or breaks off behind the last push. -/
theorem Ready.run_handOutRuns (ready : world.Ready world.automate.triggers.length)
    (ascends : AutomateStore.Ascends world.automate.triggers) (settings : RunSettings)
    (choose : List Trigger → List Trigger) (tells : List Trigger → Bool) (conclude : Nat → Outcome)
    (chooses : (choose world.automate.triggers).Sublist world.automate.triggers) :
    ∃ result after tried added,
      (settings.handOutRuns choose tells conclude).run.run answer world = (result, after) ∧
        tried <+: choose world.automate.triggers ∧
        PushedRuns settings tried world after added ∧
        (world.Spares .listTriggers → world.Spares .taskPush →
          tried = choose world.automate.triggers ∧
          (tells world.automate.triggers = true → result = some (.ok (conclude
            (added.countP fun record => record.status? = some .pending)))) ∧
          (tells world.automate.triggers = false → ∀ limit,
            (Program.within limit (settings.handOutRuns choose tells conclude).run).run answer world =
              (some (.panicked TickSettings.beyondCalendar), after))) := by
  obtain ⟨why, refused, planned⟩ | listed := answer_listTriggers_cases world
  · have asked : (AutomateRequest.ask .listTriggers).run.run answer world =
        (some (.error (.backend why)), world.judged .listTriggers) :=
      congrArg (fun result => (some result.1, result.2)) refused
    refine ⟨_, _, [], [], Work.run_bind_error _ (Work.run_mapFault asked), List.nil_prefix,
      ⟨(List.append_nil _).symm, .nil, rfl, ready.orderly⟩, fun spares => absurd spares planned⟩
  · have asked : (AutomateRequest.ask .listTriggers).run.run answer world =
        (some (.ok world.automate.triggers), world.judged .listTriggers) :=
      congrArg (fun result => (some result.1, result.2)) listed
    have first : (Work.needingStore (AutomateRequest.ask .listTriggers)).run.run answer world =
        (some (.ok world.automate.triggers), world.judged .listTriggers) := Work.run_mapFault asked
    have apart : ((choose world.automate.triggers).map Trigger.id).Nodup :=
      ascends.nodup_ids.sublist (chooses.map _)
    obtain ⟨result, after, tried, added, ran, front, pushes, spared⟩ :=
      ((ready.judged .listTriggers).mono chooses.length_le).run_pushRuns apart settings
    have pushes : PushedRuns settings tried world after added :=
      ⟨pushes.records, pushes.rows, pushes.store, pushes.orderly⟩
    cases result with
    | error fault =>
      refine ⟨_, after, tried, added, (Work.run_bind first).trans
        (Work.run_bind_error _ (Work.run_mapFault ran)), front, pushes, fun _ spares => ?_⟩
      cases (spared (spares.judged .listTriggers)).2
    | ok queued =>
      have second : (Work.needingStore (settings.pushRuns (choose world.automate.triggers))).run.run
          answer (world.judged .listTriggers) = (some (.ok queued), after) := Work.run_mapFault ran
      have ends : (settings.handOutRuns choose tells conclude).run.run answer world = _ :=
        (Work.run_bind first).trans (Work.run_bind second)
      have lists : (Work.needingStore (AutomateRequest.ask .listTriggers)).run.Prompt :=
        fun _ => trivial
      have limited (limit : Nat) :
          (Program.within limit (settings.handOutRuns choose tells conclude).run).run answer world =
            _ :=
        (Work.run_within_bind lists first limit).trans
          (Work.run_within_bind (Work.prompt_mapFault (settings.prompt_pushRuns _)) second limit)
      cases told : tells world.automate.triggers with
      | true =>
        rw [told] at ends
        refine ⟨some (.ok (conclude queued)), after, tried, added, ends, front, pushes,
          fun _ spares => ?_⟩
        obtain ⟨all, same⟩ := spared (spares.judged .listTriggers)
        rw [Except.ok.inj same]
        exact ⟨all, fun _ => rfl, nofun⟩
      | false =>
        rw [told] at ends limited
        refine ⟨none, after, tried, added, ends, front, pushes, fun _ spares => ?_⟩
        exact ⟨(spared (spares.judged .listTriggers)).1, nofun, fun _ => limited⟩

/-- The same for a handler that hands out runs and whose params are in order. -/
theorem Ready.perform_handingOut (ready : world.Ready world.automate.triggers.length)
    (ascends : AutomateStore.Ascends world.automate.triggers) (settings : RunSettings) {Params : Type}
    {parse : Json → Except Invalid Params} {task : Task} {params : Params}
    (parsed : parse task.params = .ok params) (choose : Run Params → List Trigger → List Trigger)
    (tells : Run Params → List Trigger → Bool) (conclude : Run Params → Nat → Outcome) (now : Instant)
    (chooses : (choose (Run.start task params now) world.automate.triggers).Sublist
      world.automate.triggers) :
    ∃ outcome after tried added,
      perform (settings.handingOut parse choose tells conclude task now) world = (outcome, after) ∧
        tried <+: choose (Run.start task params now) world.automate.triggers ∧
        PushedRuns settings tried world after added ∧
        (world.Spares .listTriggers → world.Spares .taskPush →
          tried = choose (Run.start task params now) world.automate.triggers ∧
          (tells (Run.start task params now) world.automate.triggers = true →
            outcome = some (conclude (Run.start task params now)
              (added.countP fun record => record.status? = some .pending))) ∧
          (tells (Run.start task params now) world.automate.triggers = false → ∀ limit,
            perform ((settings.handingOut parse choose tells conclude task now).within limit) world =
              (some (.panicked TickSettings.beyondCalendar), after))) := by
  obtain ⟨result, after, tried, added, ran, front, pushes, spared⟩ :=
    ready.run_handOutRuns ascends settings (choose (Run.start task params now))
      (tells (Run.start task params now)) (conclude (Run.start task params now)) chooses
  have typed : settings.handingOut parse choose tells conclude task now =
      (settings.handOutRuns (choose (Run.start task params now)) (tells (Run.start task params now))
        (conclude (Run.start task params now))).run.bind
          fun result => .pure (RunCourse.ofResult result) :=
    @RunCourse.handler_eq task now
      ⟨Params, parse, fun run => settings.handOutRuns (choose run) (tells run) (conclude run)⟩ params
      parsed
  rw [typed]
  refine ⟨result.map RunCourse.ofResult, after, tried, added, ?_, front, pushes,
    fun lists spares => ?_⟩
  · unfold perform
    rw [Program.run_bind, ran]
    cases result <;> rfl
  · obtain ⟨all, concludes, breaks⟩ := spared lists spares
    refine ⟨all, fun told => ?_,
      fun told limit => Program.run_within_bind_of_panicked _ (breaks told limit)⟩
    rw [concludes told]
    rfl

end World

end TaskAutomation
