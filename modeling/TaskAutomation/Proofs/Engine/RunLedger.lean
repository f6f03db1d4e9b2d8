import TaskAutomation.Proofs.Engine.TriggerChange
import TaskAutomation.Proofs.Json.Records
import TaskAutomation.Proofs.Json.RoundTrip
import TaskAutomation.Proofs.Queue.Content
import TaskAutomation.Proofs.Queue.Orderly
import TaskAutomation.Proofs.Schedule.Hours
import TaskAutomation.Proofs.Time.Forward

/-!
This file keeps book of the runs of one trigger that fires at times. Two things keep its entries
apart. As long as a run is queued or claimed, its sign keeps others out of the queue, and once it has
been carried out, the trigger knows the time of its last call. The gap between the two is closed by an
invariant: while there is a run in flight that has not been carried out, all entries lie in earlier
hours than the clock. It holds when a tick queues the run, and it cannot be lost, since hours only
grow and no other run adds an entry.
-/

namespace TaskAutomation

/-! ### Runs in a queue -/

theorem TriggerRun.parse_encode (run : TriggerRun) : parse run.encode = .ok run := by
  have decoded : decode run.encode = .ok run := by
    refine Json.RecordReader.Finds.ofNamed ?_ (List.nodup_singleton "id")
    exact .map (.present rfl (Id.decode_encode run.id)) _
  rw [parse, readParams, decoded]
  rfl

/-- Params name a trigger, as they are or as they are read from their text. -/
def TriggerRun.Names (params : Json) (id : TriggerId) : Prop :=
  parse params = .ok ⟨id⟩ ∨
    ∃ read, Json.parse params.compact = .ok read ∧ parse read = .ok ⟨id⟩

/-- The params of a run name its own trigger and no other. -/
theorem TriggerRun.names_encode {run : TriggerRun} {id : TriggerId} (names : Names run.encode id) :
    run.id = id := by
  have own : parse run.encode = .ok ⟨id⟩ → run.id = id := fun parsed => by
    rw [parse_encode] at parsed
    cases parsed
    rfl
  obtain parsed | ⟨read, compact, parsed⟩ := names
  · exact own parsed
  · have valid : run.encode.Valid := ⟨List.pairwise_singleton _ _, trivial, trivial⟩
    have written : Json.parse run.encode.compact = .ok run.encode :=
      Json.parse_compact valid (show 1 ≤ Json.maxDepth by decide)
    cases written.symm.trans compact
    exact own parsed

namespace StoredTask

/-- A record is that of a run of a trigger in flight. -/
structure IsRunOf (record : StoredTask) (id : TriggerId) : Prop where
  inFlight : record.IsInFlight
  handler : record.handler? = some TaskKind.triggerRun.name
  named : ∃ params, record.params? = some params ∧ TriggerRun.parse params = .ok ⟨id⟩

variable {record changed : StoredTask} {id : TriggerId} {operation : QueueOperation}

/-- Only the record of a task that was queued to run a trigger is that of a run of it. -/
theorem IsRunOf.of_isOf {held : Task} (run : record.IsRunOf id) (stored : record.IsOf held) :
    held.handler = TaskKind.triggerRun.name ∧ TriggerRun.Names held.params id := by
  obtain ⟨params, known, named⟩ := run.named
  refine ⟨Option.some.inj ((handler?_of_isOf stored).symm.trans run.handler), ?_⟩
  obtain rfl | rfl := stored
  · cases known
    exact Or.inl named
  · refine Or.inr ⟨params, ?_, named⟩
    have read : (Json.parse held.params.compact).toOption = some params := known
    cases parsed : Json.parse held.params.compact with
    | error fault =>
      rw [parsed] at read
      cases read
    | ok json =>
      rw [parsed] at read
      exact congrArg _ (Option.some.inj read)

/-- A report leaves nothing of a run in flight: it completes the task, or it is about a task that runs
no trigger. -/
def SettlesRuns (records : List StoredTask) (operation : QueueOperation) : Prop :=
  ∀ report apply, operation.settlement? = some (report, apply) →
    operation = .complete report ∨ ∀ record ∈ records, record.id? = some report.id →
      record.handler? ≠ some TaskKind.triggerRun.name

/-- What is a run in flight after a change was one before it. -/
theorem IsRunOf.of_change {records : List StoredTask} (run : changed.IsRunOf id)
    (change : Change operation record changed) (member : record ∈ records)
    (settles : SettlesRuns records operation) : record.IsRunOf id := by
  have handler := change.sameOrigin.handler?_eq.symm.trans run.handler
  cases change with
  | kept => exact run
  | claimed topics now record claims due =>
    exact ⟨Or.inl (status?_of_isDue due), handler, params?_claimed record now ▸ run.named⟩
  | reaped now cutoff record reaps stale =>
    exact ⟨Or.inr (status?_of_isStale stale), handler, params?_reaped record now ▸ run.named⟩
  | settled report apply record task reports named read held =>
    obtain rfl | other := settles report apply reports
    · cases reports
      obtain pending | process := run.inFlight
      · cases (status?_settled record _).symm.trans pending
      · cases (status?_settled record _).symm.trans process
    · exact absurd handler (other record member named)

end StoredTask

/-! ### The book -/

/-- A trigger that fires at times, in a zone whose clocks are never put forward or back. -/
structure TimedTrigger where
  id : TriggerId
  kind : TriggerKind
  zones : KnownZones
  schedule : Schedule
  compiled : kind.template?.map (ScheduleTemplate.compileWith zones) = some (.ok schedule)
  offset : Int
  constant : schedule.zone.HasOffset offset

namespace TimedTrigger

variable (trigger : TimedTrigger)

/-- The local hour of a point of time, counted from 1970. -/
def hour (instant : Instant) : Int := (instant.seconds + trigger.offset) / secondsPerHour

theorem hour_mono {a b : Instant} (ordered : a ≤ b) : trigger.hour a ≤ trigger.hour b := by
  rw [Instant.le_iff] at ordered
  refine Int.ediv_le_ediv (by decide) ?_
  omega

theorem localHour_eq_iff (a b : Instant) :
    trigger.schedule.zone.localHour a = trigger.schedule.zone.localHour b ↔
      trigger.hour a = trigger.hour b := Zone.localHour_eq_iff trigger.constant a b

/-- All entries of the trigger lie in earlier hours than the clock. -/
def IsClear (store : AutomateStore) (clock : Instant) : Prop :=
  ∀ call ∈ store.historyOf trigger.id, trigger.hour call.createdAt < trigger.hour clock

/-- The stored trigger is of the kind it was made with, has not been called in the future, and knows
of its latest entry. -/
structure Recalls (store : AutomateStore) (clock : Instant) (held : Trigger) : Prop where
  found : store.trigger? trigger.id = some held
  kind : held.kind = trigger.kind
  past : ∀ last, held.lastCallAt = some last → last ≤ clock
  latest : ∀ call ∈ store.historyOf trigger.id, ∃ last,
    held.lastCallAt = some last ∧ call.createdAt ≤ last

variable {trigger} {store : AutomateStore} {clock new : Instant}

theorem IsClear.later (clear : trigger.IsClear store clock) (forward : clock ≤ new) :
    trigger.IsClear store new := fun call member =>
  Int.lt_of_lt_of_le (clear call member) (trigger.hour_mono forward)

theorem Recalls.later {held : Trigger} (recalls : trigger.Recalls store clock held)
    (forward : clock ≤ new) : trigger.Recalls store new held :=
  { recalls with past := fun last called => Instant.le_trans (recalls.past last called) forward }

end TimedTrigger

/-- What bears on the runs of a trigger. -/
structure RunLedger where
  clock : Instant
  queue : Backend
  /-- The identifiers that have been given to tasks. -/
  used : List TaskId
  store : AutomateStore
  /-- The tasks that have been claimed to run a trigger and are still to be carried out. -/
  claimed : List Task
  /-- The tasks that have been carried out. -/
  executed : List TaskId

namespace RunLedger

open StoredTask

/-- A task has been claimed to run a trigger, and nobody has reported on it. -/
def Holds (records : List StoredTask) (task : Task) : Prop :=
  Has (fun record => record.status? = some .process ∧
    record.handler? = some TaskKind.triggerRun.name ∧ record.params? = some task.params)
    records task.id

/-- A task has been carried out to run a trigger, and it cannot be claimed again. -/
def IsDone (used : List TaskId) (records : List StoredTask) (id : TaskId) : Prop :=
  id ∈ used ∧ ∀ record ∈ records, record.id? = some id →
    record.handler? = some TaskKind.triggerRun.name ∧ record.status? ≠ some .pending

/-- The book is kept: the hours of the entries of a trigger ascend, and what else is known of its
runs. -/
structure IsKept (trigger : TimedTrigger) (ledger : RunLedger) : Prop where
  orderly : ledger.queue.Orderly ledger.used
  ascends : AutomateStore.Ascends ledger.store.triggers
  recalls : ∃ held, trigger.Recalls ledger.store ledger.clock held
  hourly : (ledger.store.historyOf trigger.id).Pairwise fun former latter =>
    trigger.hour former.createdAt < trigger.hour latter.createdAt
  signed : ∀ record ∈ ledger.queue.records, record.IsRunOf trigger.id →
    record.sign? = some (TriggerRun.collisionSign ⟨trigger.id⟩)
  held : ∀ task ∈ ledger.claimed, Holds ledger.queue.records task
  once : (ledger.claimed.map Task.id ++ ledger.executed).Nodup
  done : ∀ id ∈ ledger.executed, IsDone ledger.used ledger.queue.records id
  /-- While a run is in flight that has not been carried out, the hour of the clock is free. -/
  clear : ∀ record ∈ ledger.queue.records, record.IsRunOf trigger.id →
    (∀ id ∈ ledger.executed, record.id? ≠ some id) → trigger.IsClear ledger.store ledger.clock

variable {trigger : TimedTrigger} {ledger : RunLedger}

/-- The book of a trigger that has not been called and has no run in flight. -/
theorem isKept_of_silent {clock : Instant} {queue : Backend} {used : List TaskId}
    {store : AutomateStore} {held : Trigger} (orderly : queue.Orderly used)
    (ascends : AutomateStore.Ascends store.triggers) (found : store.trigger? trigger.id = some held)
    (kind : held.kind = trigger.kind) (uncalled : held.lastCallAt = none)
    (silent : store.historyOf trigger.id = [])
    (idle : ∀ record ∈ queue.records, ¬ record.IsRunOf trigger.id) :
    IsKept trigger ⟨clock, queue, used, store, [], []⟩ where
  orderly := orderly
  ascends := ascends
  recalls := by
    refine ⟨held, found, kind, fun last called => ?_, fun call recorded => ?_⟩
    · cases uncalled.symm.trans called
    · rw [show store.historyOf trigger.id = [] from silent] at recorded
      cases recorded
  hourly := by
    rw [show store.historyOf trigger.id = [] from silent]
    exact List.Pairwise.nil
  signed record member run := absurd run (idle record member)
  held task member := absurd member List.not_mem_nil
  once := List.nodup_nil
  done id member := absurd member List.not_mem_nil
  clear record member run := absurd run (idle record member)

/-! ### Time goes on -/

theorem IsKept.later (kept : ledger.IsKept trigger) {clock : Instant}
    (forward : ledger.clock ≤ clock) : { ledger with clock }.IsKept trigger where
  orderly := kept.orderly
  ascends := kept.ascends
  recalls := kept.recalls.imp fun _ recalls => recalls.later forward
  hourly := kept.hourly
  signed := kept.signed
  held := kept.held
  once := kept.once
  done := kept.done
  clear record member run unexecuted :=
    TimedTrigger.IsClear.later (kept.clear record member run unexecuted) forward

/-! ### Writes to the store -/

/-- The book after a write to the store. -/
def withStore (ledger : RunLedger) (store : AutomateStore) : RunLedger := { ledger with store }

/-- A trigger that is changed keeps its book, as long as its kind, its last call and its history stay
as they are. -/
theorem IsKept.changed (kept : ledger.IsKept trigger) {store : AutomateStore}
    {held changed : Trigger} (found : ledger.store.trigger? trigger.id = some held)
    (saved : store.trigger? trigger.id = some changed) (kind : changed.kind = held.kind)
    (called : changed.lastCallAt = held.lastCallAt)
    (history : store.historyOf trigger.id = ledger.store.historyOf trigger.id)
    (ascends : AutomateStore.Ascends store.triggers) : (ledger.withStore store).IsKept trigger where
  orderly := kept.orderly
  ascends := ascends
  recalls := by
    obtain ⟨own, recalls⟩ := kept.recalls
    obtain rfl := Option.some.inj (recalls.found.symm.trans found)
    exact ⟨changed, saved, kind.trans recalls.kind, called ▸ recalls.past,
      called ▸ history ▸ recalls.latest⟩
  hourly := history ▸ kept.hourly
  signed := kept.signed
  held := kept.held
  once := kept.once
  done := kept.done
  clear record member run unexecuted call recorded :=
    kept.clear record member run unexecuted call (history ▸ recorded)

theorem IsKept.spared (kept : ledger.IsKept trigger) {store : AutomateStore}
    (same : SameTrigger trigger.id ledger.store store)
    (ascends : AutomateStore.Ascends store.triggers) : (ledger.withStore store).IsKept trigger := by
  obtain ⟨held, recalls⟩ := kept.recalls
  exact kept.changed recalls.found (same.trigger.trans recalls.found) rfl rfl same.history ascends

/-! ### Operations on the queue -/

/-- The book after an operation on the queue. -/
def afterOperation (ledger : RunLedger) (operation : QueueOperation) : RunLedger :=
  { ledger with
    queue := (ledger.queue.step operation).2
    used := ledger.used ++ operation.pushedId?.toList }

/-- An operation neither reaps nor lets a run come back that has been carried out, and it queues a run
only under its sign and in a free hour. -/
structure Allows (trigger : TimedTrigger) (ledger : RunLedger) (operation : QueueOperation) :
    Prop where
  reaps : ∀ now cutoff, operation ≠ .reap now cutoff
  settles : ∀ report apply, operation.settlement? = some (report, apply) →
    operation = .complete report ∧ report.id ∈ ledger.executed ∨
      ∀ record ∈ ledger.queue.records, record.id? = some report.id →
        record.handler? ≠ some TaskKind.triggerRun.name
  pushes : ∀ id now handler params options, operation = .push id now handler params options →
    handler = TaskKind.triggerRun.name → TriggerRun.Names params trigger.id →
      options.collisionSign = some (TriggerRun.collisionSign ⟨trigger.id⟩) ∧
        trigger.IsClear ledger.store ledger.clock

theorem Allows.settlesRuns {operation : QueueOperation} (allows : ledger.Allows trigger operation) :
    SettlesRuns ledger.queue.records operation := fun report apply reports =>
  (allows.settles report apply reports).imp_left And.left

/-- A run in flight was one before an operation, or the operation has queued it. -/
theorem origin_of_run {records newRecords : List StoredTask} {operation : QueueOperation}
    {reply : QueueReply} (effect : Effect records operation reply newRecords)
    (distinct : Distinct records) (settles : SettlesRuns records operation) {record : StoredTask}
    {id : TriggerId} (member : record ∈ newRecords) (run : record.IsRunOf id) :
    (∃ former ∈ records, Change operation former record ∧ former.IsRunOf id) ∨
      ∃ task now handler params options, operation = .push task now handler params options ∧
        handler = TaskKind.triggerRun.name ∧ TriggerRun.Names params id ∧
        record.sign? = options.collisionSign := by
  cases pushes : operation.pushedId? with
  | none =>
    obtain ⟨former, before, change⟩ := effect.exists_change distinct pushes member
    exact Or.inl ⟨former, before, change, run.of_change change before settles⟩
  | some _ =>
    cases operation with
    | push task now handler params options =>
      obtain ⟨added, -, records, stored, -⟩ | ⟨existing, added, -, records, stored, -⟩ :=
        effect.push_inv
      · rw [records] at member
        obtain before | new := List.mem_append.mp member
        · exact Or.inl ⟨record, before, .kept record, run⟩
        · obtain rfl := List.mem_singleton.mp new
          obtain ⟨handled, named⟩ := run.of_isOf stored
          exact Or.inr ⟨task, now, handler, params, options, rfl, handled, named,
            sign?_of_isOf stored⟩
      · rw [records] at member
        obtain before | new := List.mem_append.mp member
        · exact Or.inl ⟨record, before, .kept record, run⟩
        · -- A collision is not in flight.
          obtain rfl := List.mem_singleton.mp new
          obtain pending | process := run.inFlight
          · cases (status?_of_isOf stored).symm.trans pending
          · cases (status?_of_isOf stored).symm.trans process
    | claim | complete | fail | reschedule | get | counts | reap | purge => cases pushes

/-- Nothing that is allowed happens to a task that is being held. -/
theorem Holds.step {records newRecords : List StoredTask} {operation : QueueOperation}
    {reply : QueueReply} (effect : Effect records operation reply newRecords)
    (distinct : Distinct records) {task : Task} (holds : Holds records task)
    (reaps : ∀ now cutoff, operation ≠ .reap now cutoff)
    (settles : ∀ report apply, operation.settlement? = some (report, apply) → report.id ≠ task.id) :
    Holds newRecords task := by
  obtain ⟨record, member, named, process, handler, params⟩ := holds
  obtain ⟨changed, after, change⟩ | ⟨before, -, expired⟩ := effect.forward distinct member
  · refine ⟨changed, after, change.id?_eq.trans named, ?_⟩
    cases change with
    | kept => exact ⟨process, handler, params⟩
    | claimed topics now record claims due =>
      cases (status?_of_isDue due).symm.trans process
    | reaped now cutoff record own stale => exact absurd own (reaps now cutoff)
    | settled report apply record held reports own read inProcess =>
      exact absurd (Option.some.inj (own.symm.trans named)) (settles report apply reports)
  · exact absurd (Or.inr process) (not_isInFlight_of_isExpired expired)

/-- Nothing that is allowed lets a task come back that has been carried out. -/
theorem IsDone.step {used : List TaskId} {records newRecords : List StoredTask}
    {operation : QueueOperation} {reply : QueueReply} {id : TaskId} (done : IsDone used records id)
    (effect : Effect records operation reply newRecords) (distinct : Distinct records)
    (fresh : ∀ id ∈ operation.pushedId?, id ∉ used)
    (reaps : ∀ now cutoff, operation ≠ .reap now cutoff)
    (settles : SettlesRuns records operation) :
    IsDone (used ++ operation.pushedId?.toList) newRecords id := by
  obtain ⟨known, ended⟩ := done
  refine ⟨List.mem_append_left _ known, fun record member named => ?_⟩
  obtain ⟨former, before, change⟩ | ⟨new, pushed, own, -⟩ := effect.backward distinct member
  · obtain ⟨handler, idle⟩ := ended former before (change.id?_eq.symm.trans named)
    refine ⟨change.sameOrigin.handler?_eq.trans handler, ?_⟩
    cases change with
    | kept => exact idle
    | claimed topics now record claims due => exact absurd (status?_of_isDue due) idle
    | reaped now cutoff record own stale => exact absurd own (reaps now cutoff)
    | settled report apply record held reports own read process =>
      obtain rfl | other := settles report apply reports
      · cases reports
        rw [status?_settled]
        exact nofun
      · exact absurd handler (other former before own)
  · obtain rfl := Option.some.inj (own.symm.trans named)
    exact absurd known (fresh _ pushed)

theorem IsKept.operation (kept : ledger.IsKept trigger) {operation : QueueOperation}
    (fresh : ∀ id ∈ operation.pushedId?, id ∉ ledger.used)
    (allows : ledger.Allows trigger operation) :
    (ledger.afterOperation operation).IsKept trigger where
  orderly := (kept.orderly.step fresh).mono fun id used =>
    List.mem_append.mpr (List.mem_append.mp used).symm
  ascends := kept.ascends
  recalls := kept.recalls
  hourly := kept.hourly
  signed record member run := by
    obtain ⟨former, before, change, was⟩ | ⟨task, now, handler, params, options, pushes, handled,
      named, signed⟩ := origin_of_run (kept.orderly.effect fresh) kept.orderly.distinct
        allows.settlesRuns member run
    · exact change.sign?_eq.trans (kept.signed former before was)
    · exact signed.trans (allows.pushes _ _ _ _ _ pushes handled named).1
  held task member := by
    refine (kept.held task member).step (kept.orderly.effect fresh) kept.orderly.distinct
      allows.reaps fun report apply reports own => ?_
    obtain ⟨record, inside, named, -, handler, -⟩ := kept.held task member
    obtain ⟨-, executed⟩ | other := allows.settles report apply reports
    · rw [own] at executed
      exact List.disjoint_of_nodup_append kept.once (List.mem_map_of_mem member) executed
    · exact other record inside (own ▸ named) handler
  once := kept.once
  done id executed := (kept.done id executed).step (kept.orderly.effect fresh)
    kept.orderly.distinct fresh allows.reaps allows.settlesRuns
  clear record member run unexecuted := by
    obtain ⟨former, before, change, was⟩ | ⟨task, now, handler, params, options, pushes, handled,
      named, signed⟩ := origin_of_run (kept.orderly.effect fresh) kept.orderly.distinct
        allows.settlesRuns member run
    · exact kept.clear former before was fun id executed => change.id?_eq ▸ unexecuted id executed
    · exact (allows.pushes _ _ _ _ _ pushes handled named).2

/-! ### Claiming and carrying out -/

/-- The record of a task that is being held is that of a run in flight that has not been carried
out. -/
theorem IsKept.run_of_holds (kept : ledger.IsKept trigger) {task : Task}
    (member : task ∈ ledger.claimed) (named : TriggerRun.parse task.params = .ok ⟨trigger.id⟩) :
    ∃ record ∈ ledger.queue.records, record.id? = some task.id ∧ record.IsRunOf trigger.id ∧
      trigger.IsClear ledger.store ledger.clock := by
  obtain ⟨record, inside, own, process, handler, params⟩ := kept.held task member
  have run : record.IsRunOf trigger.id := ⟨Or.inr process, handler, task.params, params, named⟩
  refine ⟨record, inside, own, run, kept.clear record inside run fun id executed same => ?_⟩
  obtain rfl := Option.some.inj (own.symm.trans same)
  exact List.disjoint_of_nodup_append kept.once (List.mem_map_of_mem member) executed

/-- A task that is pending has neither been claimed nor carried out. -/
theorem IsKept.not_taken (kept : ledger.IsKept trigger) {record : StoredTask} {id : TaskId}
    (member : record ∈ ledger.queue.records) (named : record.id? = some id)
    (pending : record.status? = some .pending) :
    id ∉ ledger.claimed.map Task.id ++ ledger.executed := by
  intro taken
  obtain held | executed := List.mem_append.mp taken
  · obtain ⟨task, inside, rfl⟩ := List.mem_map.mp held
    obtain ⟨former, before, own, process, -⟩ := kept.held task inside
    rw [kept.orderly.distinct.eq_of_id?_eq before member (own.trans named.symm), pending] at process
    cases process
  · exact ((kept.done id executed).2 record member named).2 pending

/-- The book after a claim that has handed out a task to run a trigger. -/
def afterClaim (ledger : RunLedger) (topics : List String) (now : Instant) (task : Task) :
    RunLedger :=
  { ledger.afterOperation (.claim topics now) with claimed := task :: ledger.claimed }

theorem IsKept.claimed (kept : ledger.IsKept trigger) {topics : List String} {now : Instant}
    {task : Task}
    (handed : (ledger.queue.step (.claim topics now)).1 = .ok (.claimed (some task)))
    (runs : task.handler = TaskKind.triggerRun.name) :
    (ledger.afterClaim topics now task).IsKept trigger := by
  have fresh : ∀ id ∈ (QueueOperation.claim topics now).pushedId?, id ∉ ledger.used := nofun
  have later := kept.operation fresh ⟨nofun, nofun, nofun⟩
  have effect := kept.orderly.effect fresh
  rw [handed] at effect
  obtain ⟨record, member, named, due, read, records⟩ := effect.claim_inv
  obtain ⟨handler, params, -⟩ := read_content read
  have holds : Holds (ledger.queue.step (.claim topics now)).2.records task := by
    refine ⟨record.claimed now, ?_, (id?_claimed record now).trans named, status?_claimed record now,
      runs ▸ handler, params⟩
    rw [records]
    exact kept.orderly.distinct.mem_replace_self member named _
  have taken := kept.not_taken member named (status?_of_isDue due)
  refine { later with
    held := fun other inside => ?_
    once := List.nodup_cons.mpr ⟨taken, kept.once⟩ }
  obtain rfl | before := List.mem_cons.mp inside
  · exact holds
  · exact later.held other before

/-- The book after a task has been carried out. -/
def carriedOut (ledger : RunLedger) (task : Task) : RunLedger :=
  { ledger with
    claimed := ledger.claimed.filter fun other => other.id ≠ task.id
    executed := task.id :: ledger.executed }

theorem nodup_carriedOut (once : (ledger.claimed.map Task.id ++ ledger.executed).Nodup)
    {task : Task} (member : task ∈ ledger.claimed) :
    ((ledger.carriedOut task).claimed.map Task.id ++ (ledger.carriedOut task).executed).Nodup := by
  obtain ⟨distinct, executed, apart⟩ := List.nodup_append.mp once
  refine List.nodup_append.mpr ⟨(List.filter_sublist.map _).nodup distinct,
    List.nodup_cons.mpr ⟨fun taken => ?_, executed⟩, ?_⟩
  · exact apart task.id (List.mem_map_of_mem member) task.id taken rfl
  · rintro id left other right rfl
    obtain ⟨held, inside, rfl⟩ := List.mem_map.mp left
    obtain ⟨before, different⟩ := List.mem_filter.mp inside
    obtain same | taken := List.mem_cons.mp right
    · exact of_decide_eq_true different same
    · exact apart held.id (List.mem_map_of_mem before) held.id taken rfl

theorem IsKept.carriedOut (kept : ledger.IsKept trigger) {task : Task}
    (member : task ∈ ledger.claimed) : (ledger.carriedOut task).IsKept trigger where
  orderly := kept.orderly
  ascends := kept.ascends
  recalls := kept.recalls
  hourly := kept.hourly
  signed := kept.signed
  held other inside := kept.held other (List.mem_filter.mp inside).1
  once := nodup_carriedOut kept.once member
  done id executed := by
    obtain rfl | before := List.mem_cons.mp executed
    · obtain ⟨record, inside, own, process, handler, -⟩ := kept.held task member
      obtain ⟨other, used, same⟩ := kept.orderly.known record inside
      obtain rfl := Option.some.inj (own.symm.trans same)
      refine ⟨used, fun former before named => ?_⟩
      rw [kept.orderly.distinct.eq_of_id?_eq before inside (named.trans own.symm), process]
      exact ⟨handler, nofun⟩
    · exact kept.done id before
  clear record inside run unexecuted :=
    kept.clear record inside run fun id executed => unexecuted id (List.mem_cons_of_mem _ executed)

/-- A trigger knows of the entry of a run that was recorded. -/
theorem recalls_recorded {maxRetries : Nat} {before after : AutomateStore} {clock : Instant}
    {held : Trigger} {call : Call} (recalls : trigger.Recalls before clock held)
    (records : RecordsRun maxRetries trigger.id before after held call)
    (atOnce : call.createdAt = clock) :
    trigger.Recalls after clock (held.afterRun maxRetries call.outcome call.createdAt) where
  found := records.saved
  kind := (TriggerRunner.kind_afterRun _ _ _ _).trans recalls.kind
  past last called := by
    rw [TriggerRunner.lastCallAt_afterRun] at called
    obtain rfl := Option.some.inj called
    rw [atOnce]
    exact Instant.le_refl _
  latest other recorded := by
    refine ⟨call.createdAt, TriggerRunner.lastCallAt_afterRun _ _ _ _, ?_⟩
    rw [records.history] at recorded
    obtain before | new := List.mem_append.mp recorded
    · obtain ⟨last, called, ordered⟩ := recalls.latest other before
      rw [atOnce]
      exact Instant.le_trans ordered (recalls.past last called)
    · rw [List.mem_singleton.mp new]
      exact Instant.le_refl _

/-- A run adds an entry in an hour of its own, and there is no other run that could still add one in
the same hour. -/
theorem IsKept.recorded (kept : ledger.IsKept trigger) {task : Task}
    (member : task ∈ ledger.claimed) (named : TriggerRun.parse task.params = .ok ⟨trigger.id⟩)
    {maxRetries : Nat} {store : AutomateStore} {held : Trigger} {call : Call}
    (records : RecordsRun maxRetries trigger.id ledger.store store held call)
    (atOnce : call.createdAt = ledger.clock)
    (ascends : AutomateStore.Ascends store.triggers) :
    ((ledger.withStore store).carriedOut task).IsKept trigger := by
  have after := kept.carriedOut member
  obtain ⟨known, recalls⟩ := kept.recalls
  obtain rfl := Option.some.inj (recalls.found.symm.trans records.found)
  obtain ⟨record, inside, own, executing, clear⟩ := kept.run_of_holds member named
  refine {
    orderly := after.orderly
    ascends
    recalls := ⟨_, recalls_recorded recalls records atOnce⟩
    hourly := ?_
    signed := after.signed
    held := after.held
    once := after.once
    done := after.done
    clear := fun other member run unexecuted => ?_ }
  · show (store.historyOf trigger.id).Pairwise _
    rw [records.history]
    refine List.pairwise_append.mpr ⟨kept.hourly, List.pairwise_singleton _ _, ?_⟩
    intro former before new same
    rw [List.mem_singleton.mp same, atOnce]
    exact clear former before
  · -- Both runs would hold one sign, so they are one.
    have same := kept.orderly.exclusive _ other member record inside
      ⟨kept.signed other member run, run.inFlight⟩
      ⟨kept.signed record inside executing, executing.inFlight⟩
    exact absurd (same.trans own) (unexecuted task.id List.mem_cons_self)

end RunLedger

end TaskAutomation
