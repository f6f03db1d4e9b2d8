import TaskAutomation.Automation.Params
import TaskAutomation.Proofs.Json.RoundTrip
import TaskAutomation.Proofs.Queue.Content
import TaskAutomation.Proofs.Queue.Orderly

/-!
This file is about the watcher of the clock in a queue. A record of it stays one through every
operation that does not end its task, because a change touches neither its sign nor what it says of
the work, a task in flight is not purged, and a report on it that asks for a further run puts it back
among the pending. As long as it is there, it holds its sign against all later pushes.
-/

namespace TaskAutomation

namespace StoredTask

/-- A record is that of a watcher of the clock in flight. -/
structure IsWatcher (record : StoredTask) : Prop where
  inFlight : record.IsInFlight
  sign : record.sign? = some ScheduleTick.collisionSign
  handler : record.handler? = some TaskKind.scheduleTick.name
  watcher : record.watcher? = some true
  params : record.params? = some (ScheduleTick.encode ⟨⟩)

theorem IsWatcher.holds {record : StoredTask} (watches : record.IsWatcher) :
    record.Holds ScheduleTick.collisionSign := ⟨watches.sign, watches.inFlight⟩

theorem parse_compact_tick :
    Json.parse (ScheduleTick.encode ⟨⟩).compact = .ok (ScheduleTick.encode ⟨⟩) :=
  Json.parse_compact ⟨List.Pairwise.nil, trivial⟩ (by decide)

/-- The record of a task that was queued to watch the clock. -/
theorem isWatcher_of_isOf {record : StoredTask} {id : TaskId} {options : PushOptions}
    {now : Instant} (signed : options.collisionSign = some ScheduleTick.collisionSign)
    (watcher : options.watcher = true)
    (stored : record.IsOf
      (Task.new id TaskKind.scheduleTick.name (ScheduleTick.encode ⟨⟩) options now)) :
    record.IsWatcher where
  inFlight := Or.inl (status?_of_isOf stored)
  sign := (sign?_of_isOf stored).trans signed
  handler := handler?_of_isOf stored
  watcher := (watcher?_of_isOf stored).trans (congrArg some watcher)
  params := params?_of_isOf stored parse_compact_tick

/-- An operation does not end a task: a report on it asks for a further run and leaves its params as
they are. -/
def Renews (id : TaskId) (operation : QueueOperation) : Prop :=
  ∀ report apply, operation.settlement? = some (report, apply) → report.id = id →
    report.params = none ∧ ∃ startAt, operation = .reschedule report startAt

/-- A watcher of the clock stays one through every change that does not end its task. -/
theorem IsWatcher.change {operation : QueueOperation} {record changed : StoredTask} {id : TaskId}
    (watches : record.IsWatcher) (named : record.id? = some id)
    (change : Change operation record changed) (renews : Renews id operation) :
    changed.IsWatcher where
  inFlight := by
    cases change with
    | kept => exact watches.inFlight
    | claimed topics now record claims due => exact Or.inr (status?_claimed record now)
    | reaped now cutoff record reaps stale => exact Or.inl (status?_reaped record now)
    | settled report apply record task reports own read held =>
      obtain ⟨-, startAt, rfl⟩ := renews report apply reports
        (Option.some.inj (own.symm.trans named))
      cases reports
      exact Or.inl (status?_settled record _)
  sign := change.sign?_eq.trans watches.sign
  handler := change.sameOrigin.handler?_eq.trans watches.handler
  watcher := change.sameOrigin.watcher?_eq.trans watches.watcher
  params := change.params?_eq (fun report apply reports own =>
    (renews report apply reports (Option.some.inj (own.symm.trans named))).1) parse_compact_tick
    watches.params

end StoredTask

/-- A task is one that was queued to watch the clock. -/
structure Task.WatchesClock (task : Task) : Prop where
  handler : task.handler = TaskKind.scheduleTick.name
  watcher : task.watcher = true
  params : task.params = ScheduleTick.encode ⟨⟩

namespace Backend

open StoredTask

/-- An identifier is reserved for a watcher of the clock: a record that has it is that of one. -/
structure ReservedFor (backend : Backend) (used : List TaskId) (watcher : TaskId) : Prop
    extends backend.Orderly used where
  reserved : ∀ record ∈ backend.records, record.id? = some watcher → record.IsWatcher

variable {backend : Backend} {used : List TaskId} {watcher : TaskId} {operation : QueueOperation}

theorem ReservedFor.empty (storage : Storage) (watcher : TaskId) :
    (empty storage).ReservedFor [] watcher where
  toOrderly := .empty storage
  reserved record member := absurd member (not_mem_records_empty storage record)

namespace ReservedFor

variable (reserved : backend.ReservedFor used watcher)
  (fresh : ∀ id ∈ operation.pushedId?, id ∉ used)

include reserved fresh

/-- A queue keeps its watcher through every operation that does not end it. A task under its
identifier that is pushed is a watcher as well. -/
theorem step (renews : Renews watcher operation)
    (pushes : operation.pushedId? = some watcher →
      ∀ record ∈ (backend.step operation).2.records, record.id? = some watcher →
        record.IsWatcher) :
    (backend.step operation).2.ReservedFor (operation.pushedId?.toList ++ used) watcher := by
  refine ⟨reserved.toOrderly.step fresh, fun record after named => ?_⟩
  obtain ⟨former, before, change⟩ | ⟨id, pushed, own, -⟩ :=
    (reserved.effect fresh).backward reserved.distinct after
  · have same := change.id?_eq.symm.trans named
    exact (reserved.reserved former before same).change same change renews
  · obtain rfl := Option.some.inj (own.symm.trans named)
    exact pushes pushed record after named

/-- The record of the watcher is not removed. -/
theorem stored_step (stored : ∃ record ∈ backend.records, record.id? = some watcher) :
    ∃ record ∈ (backend.step operation).2.records, record.id? = some watcher := by
  obtain ⟨record, member, named⟩ := stored
  obtain ⟨changed, after, change⟩ | ⟨before, -, expired⟩ :=
    (reserved.effect fresh).forward reserved.distinct member
  · exact ⟨changed, after, change.id?_eq.trans named⟩
  · exact absurd (reserved.reserved record member named).inFlight
      (not_isInFlight_of_isExpired expired)

/-- Whoever claims the task under the identifier of the watcher is handed a watcher. -/
theorem watchesClock_of_claimed {topics : List String} {now : Instant} {task : Task}
    (claims : operation = .claim topics now)
    (claimed : (backend.step operation).1 = .ok (.claimed (some task))) (own : task.id = watcher) :
    task.WatchesClock := by
  have effect := reserved.effect fresh
  rw [claimed, claims] at effect
  obtain ⟨record, member, named, due, read, -⟩ := effect.claim_inv
  rw [own] at named
  have change : Change (.claim topics now) record (record.claimed now) :=
    .claimed topics now record rfl due
  have watches := (reserved.reserved record member named).change named change (by rintro _ _ ⟨⟩)
  obtain ⟨handler, params, watcher⟩ := read_content read
  exact ⟨Option.some.inj (handler.symm.trans watches.handler),
    Option.some.inj (watcher.symm.trans watches.watcher),
    Option.some.inj (params.symm.trans watches.params)⟩

end ReservedFor

/-- A task that is queued under the identifier of the watcher to watch the clock is its record. -/
theorem ReservedFor.step_seed (reserved : backend.ReservedFor used watcher)
    (fresh : watcher ∉ used) {now : Instant} {options : PushOptions} {task : Task}
    (signed : options.collisionSign = some ScheduleTick.collisionSign)
    (watches : options.watcher = true)
    (queued : (backend.step (.push watcher now TaskKind.scheduleTick.name (ScheduleTick.encode ⟨⟩)
      options)).1 = .ok (.pushed (.queued task))) :
    (backend.step (.push watcher now TaskKind.scheduleTick.name (ScheduleTick.encode ⟨⟩)
        options)).2.ReservedFor (watcher :: used) watcher ∧
      ∃ record ∈ (backend.step (.push watcher now TaskKind.scheduleTick.name
        (ScheduleTick.encode ⟨⟩) options)).2.records, record.id? = some watcher := by
  have new : ∀ id ∈ (QueueOperation.push watcher now TaskKind.scheduleTick.name
      (ScheduleTick.encode ⟨⟩) options).pushedId?, id ∉ used := by
    rintro _ ⟨⟩
    exact fresh
  obtain ⟨added, -, records, stored, -⟩ | ⟨existing, record, answer, -⟩ :=
    (reserved.effect new).push_inv
  · refine ⟨reserved.step new (by rintro _ _ ⟨⟩) fun _ record member named => ?_, added, ?_,
      id?_of_isOf stored⟩
    · rw [records] at member
      obtain before | own := List.mem_append.mp member
      · exact reserved.reserved record before named
      · rw [List.mem_singleton.mp own]
        exact isWatcher_of_isOf signed watches stored
    · rw [records]
      exact List.mem_append_right _ (List.mem_singleton_self added)
  · rw [queued] at answer
    cases answer

/-- As long as the watcher is stored, every push with its sign is kept as a collision with it. -/
theorem ReservedFor.collides (reserved : backend.ReservedFor used watcher)
    (stored : ∃ record ∈ backend.records, record.id? = some watcher) {id : TaskId}
    (fresh : id ∉ used) (now : Instant) (handler : String) (params : Json) {options : PushOptions}
    (signed : options.collisionSign = some ScheduleTick.collisionSign) :
    (backend.step (.push id now handler params options)).1 =
      .ok (.pushed
        (.collided ((Task.new id handler params options now).collide watcher) watcher)) := by
  obtain ⟨record, member, named⟩ := stored
  have new : ∀ other ∈ (QueueOperation.push id now handler params options).pushedId?,
      other ∉ used := by
    rintro _ ⟨⟩
    exact fresh
  have effect := reserved.effect new
  obtain ⟨existing, -, same, answer, -⟩ := effect.collided_of_holds reserved.exclusive signed member
    (reserved.reserved record member named).holds
  obtain rfl := Option.some.inj (named.symm.trans same)
  exact answer

end Backend

end TaskAutomation
