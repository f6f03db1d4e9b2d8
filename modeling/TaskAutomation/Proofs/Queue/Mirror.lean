import TaskAutomation.Proofs.Queue.MemoryEffect
import TaskAutomation.Proofs.Queue.Placement
import TaskAutomation.Proofs.Queue.RowOfTask
import TaskAutomation.Proofs.Queue.TableEffect

/-!
This file compares a queue in memory with the table that has the rows of its tasks. As long as all
times are whole milliseconds, the rows are due, come before each other, are stale and expire exactly
when the tasks do, so what an operation makes of the table are the rows of what it makes of the
queue in memory, and the answers are the same.
-/

namespace TaskAutomation

namespace Row

open TableQueue

variable {task a b : Task}

/-! ### The conditions in the statements -/

theorem hasStatus_ofTask (task : Task) (status : TaskStatus) :
    hasStatus (ofTask task) status = decide (task.status = status) := by
  refine decide_eq_decide.mpr ?_
  show Cell.text task.status.name = Cell.text status.name ↔ _
  rw [Cell.text.injEq, TaskStatus.name_injective.eq_iff]

theorem id_ofTask_eq_iff (task : Task) (id : TaskId) :
    (ofTask task).id = .text id.bare ↔ task.id = id := by
  show Cell.text task.id.bare = Cell.text id.bare ↔ _
  rw [Cell.text.injEq, Id.bare_injective.eq_iff]

theorem id_ofTask_eq_id_ofTask_iff (a b : Task) :
    (ofTask a).id = (ofTask b).id ↔ a.id = b.id := id_ofTask_eq_iff a b.id

theorem below_ofInstant {first second : Instant} (left : first.Whole) (right : second.Whole) :
    (ofInstant first).below (ofInstant second) = decide (first < second) := by
  show decide (first.millis < second.millis) = _
  exact decide_eq_decide.mpr (left.millis_lt_iff right)

theorem isStale_ofTask (within : task.Within .exact) {cutoff : Instant} (whole : cutoff.Whole) :
    isStale (ofTask task) cutoff = MemoryQueue.isStale task cutoff := by
  rw [isStale, MemoryQueue.isStale, hasStatus_ofTask]
  show (_ && (ofInstant task.updatedAt).below (ofInstant cutoff)) = _
  rw [below_ofInstant within.updatedAt.2 whole]

theorem isExpired_ofTask (within : task.Within .exact) {before : Instant} (whole : before.Whole) :
    isExpired (ofTask task) before = MemoryQueue.isExpired task before := by
  have ended : (hasStatus (ofTask task) .done || hasStatus (ofTask task) .error ||
      hasStatus (ofTask task) .collision) = task.status.isTerminal := by
    rw [hasStatus_ofTask, hasStatus_ofTask, hasStatus_ofTask]
    cases task.status <;> rfl
  rw [isExpired, MemoryQueue.isExpired, ended]
  show (_ && (ofInstant task.updatedAt).below (ofInstant before)) = _
  rw [below_ofInstant within.updatedAt.2 whole]

end Row

/-- The row that is claimed next is the one of the task that is claimed next. -/
theorem nextDue?_map_ofTask {tasks : List Task} (within : ∀ task ∈ tasks, task.Within .exact)
    (topics : List String) {now : Instant} (whole : now.Whole) :
    TableQueue.nextDue? (tasks.map Row.ofTask) topics now =
      (nextDue? tasks topics now).map Row.ofTask := by
  let relation (row : Row) (task : Task) : Prop := row = Row.ofTask task ∧ task.startAt.Whole
  have places (row : Row) (task : Task) (same : relation row task) : row.Places task := by
    obtain ⟨rfl, whole⟩ := same
    exact Row.places_ofTask whole
  have related : List.Forall₂ relation (tasks.map Row.ofTask) tasks := by
    rw [List.forall₂_map_left_iff, List.forall₂_same]
    exact fun task member => ⟨rfl, (within task member).startAt.2⟩
  have found := Row.relates_nextDue? places related topics whole
  generalize TableQueue.nextDue? (tasks.map Row.ofTask) topics now = row at found ⊢
  generalize nextDue? tasks topics now = task at found ⊢
  cases found with
  | none => rfl
  | some own => exact congrArg some own.1

namespace MemoryQueue

/-- The table with the rows of all tasks. -/
def mirror (queue : MemoryQueue) : TableQueue := ⟨queue.tasks.map Row.ofTask⟩

variable {queue : MemoryQueue}

theorem find?_mirror (queue : MemoryQueue) (id : TaskId) :
    queue.mirror.find? id = (queue.find? id).map Row.ofTask := by
  have same : (fun row : Row => decide (row.id = .text id.bare)) ∘ Row.ofTask =
      fun task => decide (task.id = id) := by
    funext task
    rw [Bool.eq_iff_iff, Function.comp, decide_eq_true_iff, decide_eq_true_iff]
    exact Row.id_ofTask_eq_iff task id
  rw [TableQueue.find?, mirror, List.find?_map, same]
  rfl

/-! ### The operations -/

theorem get_mirror (within : ∀ task ∈ queue.tasks, task.Within .exact) (id : TaskId) :
    queue.mirror.get id = .ok (queue.find? id) := by
  rw [TableQueue.get, find?_mirror]
  cases found : queue.find? id with
  | none => rfl
  | some held =>
    have inside := within held (find?_eq_some found).1
    show (Row.ofTask held).task.map some = _
    rw [Row.task_ofTask inside.readable, inside.stored_eq]
    rfl

theorem reap_mirror (within : ∀ task ∈ queue.tasks, task.Within .exact) (now : Instant)
    {cutoff : Instant} (whole : cutoff.Whole) :
    queue.mirror.reap now cutoff =
      ((queue.reap now cutoff).1, (queue.reap now cutoff).2.mirror) := by
  have stale (task : Task) (member : task ∈ queue.tasks) :
      TableQueue.isStale (Row.ofTask task) cutoff = isStale task cutoff :=
    Row.isStale_ofTask (within task member) whole
  have number : (queue.mirror.rows.filter fun row => TableQueue.isStale row cutoff).length =
      (queue.tasks.filter fun task => isStale task cutoff).length := by
    rw [mirror, List.filter_map, List.length_map]
    exact congrArg List.length (List.filter_congr stale)
  have rows : (queue.mirror.rows.map fun row =>
      if TableQueue.isStale row cutoff then TableQueue.reaped row now else row) =
        (queue.tasks.map fun task =>
          if isStale task cutoff then task.reaped now else task).map Row.ofTask := by
    rw [mirror, List.map_map, List.map_map]
    refine List.map_congr_left fun task member => ?_
    simp only [Function.comp, stale task member, Row.reaped_ofTask]
    split <;> rfl
  rw [TableQueue.reap, number, rows]
  rfl

theorem purge_mirror (within : ∀ task ∈ queue.tasks, task.Within .exact) {before : Instant}
    (whole : before.Whole) :
    queue.mirror.purge before = ((queue.purge before).1, (queue.purge before).2.mirror) := by
  have kept : (queue.mirror.rows.filter fun row => !TableQueue.isExpired row before) =
      (queue.tasks.filter fun task => !isExpired task before).map Row.ofTask := by
    rw [mirror, List.filter_map]
    refine congrArg (List.map Row.ofTask) (List.filter_congr fun task member => ?_)
    exact congrArg (!·) (Row.isExpired_ofTask (within task member) whole)
  have number : queue.mirror.rows.length = queue.tasks.length := List.length_map ..
  rw [TableQueue.purge]
  simp only [kept, number, List.length_map]
  rfl

theorem kept_mirror (queue : MemoryQueue) : ∀ row ∈ queue.mirror.rows, row.Kept := by
  intro row member
  obtain ⟨task, -, rfl⟩ := List.mem_map.mp member
  exact Row.kept_ofTask task

theorem counts_mirror (queue : MemoryQueue) : queue.mirror.counts = .ok queue.counts := by
  obtain ⟨counts, counted, each⟩ := TableQueue.counts_eq_ok queue.kept_mirror
  rw [counted]
  refine congrArg Except.ok (TaskCounts.eq_of_of fun status => ?_)
  rw [each, MemoryQueue.counts, of_countTasks, mirror, List.map_map, List.countP_map]
  refine List.countP_congr fun task _ => ?_
  simp only [Function.comp, Row.status?_ofTask, Option.some.injEq]

/-- Replacing the row of a task by another one is storing another task in its place. -/
theorem map_mirror (distinct : (queue.tasks.map Task.id).Nodup) {held : Task}
    (member : held ∈ queue.tasks) {guard : Row → Bool} {change : Row → Row} {new : Task}
    (chosen : ∀ other ∈ queue.tasks, guard (Row.ofTask other) = true ↔ other.id = held.id)
    (changed : change (Row.ofTask held) = Row.ofTask new) (same : new.id = held.id) :
    (⟨queue.mirror.rows.map fun row => if guard row then change row else row⟩ : TableQueue) =
      (queue.store new).mirror := by
  rw [store_present queue new member same.symm, mirror, mirror, List.map_map, List.map_map]
  refine congrArg TableQueue.mk (List.map_congr_left fun other inside => ?_)
  show (if guard (Row.ofTask other) then change (Row.ofTask other) else Row.ofTask other) =
    Row.ofTask (if other.id = new.id then new else other)
  rw [same]
  by_cases picked : other.id = held.id
  · rw [if_pos picked, if_pos ((chosen other inside).mpr picked),
      eq_of_id_eq distinct inside member picked, changed]
  · rw [if_neg picked, if_neg fun guarded => picked ((chosen other inside).mp guarded)]

theorem claim_mirror (within : ∀ task ∈ queue.tasks, task.Within .exact)
    (distinct : (queue.tasks.map Task.id).Nodup) (topics : List String) {now : Instant}
    (time : Limits.exact.time now)
    (fit : ∀ task ∈ (queue.claim topics now).2.tasks, task.attempt < Word.size32) :
    queue.mirror.claim topics now =
      (.ok (queue.claim topics now).1, (queue.claim topics now).2.mirror) := by
  have found : TableQueue.nextDue? queue.mirror.rows topics now =
      (nextDue? queue.tasks topics now).map Row.ofTask := nextDue?_map_ofTask within topics time.2
  cases next : nextDue? queue.tasks topics now with
  | none =>
    rw [next] at found
    rw [claim_idle next, TableQueue.claim_idle found]
  | some held =>
    rw [next] at found
    obtain ⟨member, -⟩ := mem_of_nextDue? next
    have own := within held member
    have taken := claim_due next
    have small : (held.claimed now).attempt < Word.size32 := by
      refine fit _ ?_
      rw [taken, store_present queue (held.claimed now) member rfl]
      exact List.mem_map.mpr ⟨held, member, if_pos rfl⟩
    have claimed := own.claimed time small
    have chosen (other : Task) (_ : other ∈ queue.tasks) :
        decide ((Row.ofTask other).id = (Row.ofTask held).id) = true ↔ other.id = held.id := by
      rw [decide_eq_true_iff, Row.id_ofTask_eq_id_ofTask_iff]
    have rows := @map_mirror queue distinct held member
      (fun row => decide (row.id = (Row.ofTask held).id)) (fun row => TableQueue.claimed row now)
      (held.claimed now) chosen (Row.claimed_ofTask own.attempt now) rfl
    have read : (TableQueue.claimed (Row.ofTask held) now).task = .ok (held.claimed now) := by
      rw [Row.claimed_ofTask own.attempt, Row.task_ofTask claimed.readable, claimed.stored_eq]
    have present : (Row.ofTask held).id ≠ .null := by
      intro same
      cases same
    rw [TableQueue.claim_due found present, rows, read, taken]
    rfl

theorem settle_mirror (within : ∀ task ∈ queue.tasks, task.Within .exact)
    (distinct : (queue.tasks.map Task.id).Nodup) {operation : QueueOperation} {report : RunReport}
    {apply : Task → Task} (reports : operation.settlement? = some (report, apply)) :
    queue.mirror.settle report apply =
      ((queue.settle report apply).1, (queue.settle report apply).2.mirror) := by
  have found := queue.find?_mirror report.id
  cases looked : queue.find? report.id with
  | none =>
    rw [looked] at found
    rw [settle_absent apply looked, TableQueue.settle_absent apply found]
  | some held =>
    rw [looked] at found
    obtain ⟨member, named⟩ := find?_eq_some looked
    have own := within held member
    have read : (Row.ofTask held).task = .ok held := by
      rw [Row.task_ofTask own.readable, own.stored_eq]
    by_cases process : held.status = .process
    · have origin := QueueOperation.sameOrigin_settlement reports held
      have state : TableQueue.hasStatus (Row.ofTask held) .process = true := by
        rw [Row.hasStatus_ofTask]
        exact decide_eq_true process
      have chosen (other : Task) (inside : other ∈ queue.tasks) :
          (decide ((Row.ofTask other).id = (Row.ofTask held).id) &&
            TableQueue.hasStatus (Row.ofTask other) .process) = true ↔ other.id = held.id := by
        rw [Bool.and_eq_true, decide_eq_true_iff, Row.id_ofTask_eq_id_ofTask_iff]
        refine ⟨And.left, fun same => ⟨same, ?_⟩⟩
        rw [eq_of_id_eq distinct inside member same]
        exact state
      have changed : TableQueue.settled (Row.ofTask held) (apply (held.absorb report)) =
          Row.ofTask (apply (held.absorb report)) :=
        Row.settled_ofTask (by rw [own.stored_eq]; exact origin)
      have rows := @map_mirror queue distinct held member
        (fun row => decide (row.id = (Row.ofTask held).id) && TableQueue.hasStatus row .process)
        (fun row => TableQueue.settled row (apply (held.absorb report)))
        (apply (held.absorb report)) chosen changed origin.id
      rw [TableQueue.settle_process apply found read process, rows,
        settle_process apply looked process]
      -- The index of signs has no counterpart among the rows.
      split
      · rfl
      · rw [mirror, mirror, releaseSign_tasks]
    · rw [TableQueue.settle_unheld apply found read process, settle_unheld apply looked process]

theorem holds_ofTask (task : Task) (sign : String) :
    (StoredTask.row (Row.ofTask task)).Holds sign ↔ (StoredTask.task task).Holds sign := by
  rw [StoredTask.Holds, StoredTask.Holds, StoredTask.IsInFlight, StoredTask.IsInFlight,
    Row.sign?_ofTask, Row.status?_ofTask]
  rfl

theorem push_mirror (indexed : queue.Indexed) {id : TaskId} (now : Instant) (handler : String)
    (params : Json) (options : PushOptions) (fresh : ∀ held ∈ queue.tasks, held.id ≠ id) :
    queue.mirror.push id now handler params options =
      (.ok (queue.push id now handler params options).1,
        (queue.push id now handler params options).2.mirror) := by
  have added (task : Task) : queue.mirror.rows ++ [Row.ofTask task] =
      (queue.tasks ++ [task]).map Row.ofTask := by
    rw [List.map_append]
    rfl
  have freshRows : ∀ row ∈ queue.mirror.rows, (StoredTask.row row).id? ≠ some id := by
    intro row member named
    obtain ⟨held, inside, rfl⟩ := List.mem_map.mp member
    rw [Row.id?_ofTask] at named
    exact fresh held inside (Option.some.inj named)
  cases signed : options.collisionSign with
  | none =>
    rw [push_unsigned now handler params fresh signed,
      TableQueue.push_of_free queue.kept_mirror freshRows
        (fun sign same => by rw [signed] at same; cases same), added]
    rfl
  | some sign =>
    cases held : queue.holder? sign with
    | none =>
      have free : ∀ other, options.collisionSign = some other →
          ∀ row ∈ queue.mirror.rows, ¬ (StoredTask.row row).Holds other := by
        intro other same row member holds
        obtain rfl := Option.some.inj (signed.symm.trans same)
        obtain ⟨task, inside, rfl⟩ := List.mem_map.mp member
        have carried := CarriedBy.of_holds inside ((holds_ofTask task sign).mp holds)
        rw [(indexed.holder?_eq_some_iff sign task.id).mpr carried] at held
        cases held
      rw [push_free now handler params fresh signed held,
        TableQueue.push_of_free queue.kept_mirror freshRows free, added]
      rfl
    | some existing =>
      obtain ⟨holder, member, -, carries, inFlight⟩ :=
        (indexed.holder?_eq_some_iff sign existing).mp held
      have holds : (StoredTask.row (Row.ofTask holder)).Holds sign :=
        (holds_ofTask holder sign).mpr ⟨carries, (StoredTask.isInFlight_task holder).mpr inFlight⟩
      obtain ⟨row, inside, found, carried, named, pushed⟩ :=
        TableQueue.push_of_held queue.kept_mirror now handler params freshRows signed
          (List.mem_map.mpr ⟨holder, member, rfl⟩) holds
      -- The row that is found by the sign is the one that the index names.
      have same : found = existing := by
        obtain ⟨task, own, rfl⟩ := List.mem_map.mp inside
        rw [Row.id?_ofTask] at named
        have listed := (indexed.holder?_eq_some_iff sign task.id).mpr
          (.of_holds own ((holds_ofTask task sign).mp carried))
        rw [held] at listed
        exact (Option.some.inj named).symm.trans (Option.some.inj listed).symm
      rw [push_held now handler params fresh signed held, pushed, same, added]
      rfl

end MemoryQueue

end TaskAutomation
