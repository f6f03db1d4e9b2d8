import TaskAutomation.Proofs.Queue.Record
import TaskAutomation.Proofs.Task.Origin
import Mathlib.Data.List.Nodup

/-!
This file says once what an operation can do to the records of a queue, and with what answer. A push
adds one record behind all others, a claim and a report replace one record, a reap changes the stale
records in their places, a purge drops the expired ones, and everything else leaves the records as
they are. All that is proved about whole histories follows from this relation, so it is the same for
both queues.
-/

namespace TaskAutomation

namespace StoredTask

/-- No two records have the same identifier. -/
def Distinct (records : List StoredTask) : Prop := (records.map id?).Nodup

/-- What an operation answers and which records it leaves behind. -/
inductive Effect (records : List StoredTask) :
    QueueOperation → QueueReply → List StoredTask → Prop where
  /-- A push whose sign is free. -/
  | queued (id : TaskId) (now : Instant) (handler : String) (params : Json)
      (options : PushOptions) (record : StoredTask)
      (free : ∀ sign, options.collisionSign = some sign → ∀ other ∈ records, ¬ other.Holds sign)
      (stored : record.IsOf (Task.new id handler params options now)) :
      Effect records (.push id now handler params options)
        (.ok (.pushed (.queued (Task.new id handler params options now)))) (records ++ [record])
  /-- A push whose sign is held. -/
  | collided (id : TaskId) (now : Instant) (handler : String) (params : Json)
      (options : PushOptions) (sign : String) (holder : StoredTask) (existing : TaskId)
      (record : StoredTask) (signed : options.collisionSign = some sign)
      (member : holder ∈ records) (holds : holder.Holds sign) (named : holder.id? = some existing)
      (stored : record.IsOf ((Task.new id handler params options now).collide existing)) :
      Effect records (.push id now handler params options)
        (.ok (.pushed
          (.collided ((Task.new id handler params options now).collide existing) existing)))
        (records ++ [record])
  /-- A claim when nothing is due. -/
  | unclaimed (topics : List String) (now : Instant)
      (idle : ∀ record ∈ records, record.isDue topics now = false) :
      Effect records (.claim topics now) (.ok (.claimed none)) records
  /-- A claim of a record that is due. It stays even if the record does not read. -/
  | claimed (topics : List String) (now : Instant) (id : TaskId) (record : StoredTask)
      (member : record ∈ records) (named : record.id? = some id)
      (due : record.isDue topics now = true) :
      Effect records (.claim topics now)
        ((record.claimed now).read.map fun task => .claimed (some task))
        (replace records id (record.claimed now))
  /-- A report on a task in process. -/
  | settled (operation : QueueOperation) (report : RunReport) (apply : Task → Task)
      (record : StoredTask) (task : Task)
      (reports : operation.settlement? = some (report, apply)) (member : record ∈ records)
      (named : record.id? = some report.id) (read : record.read = .ok task)
      (held : task.status = .process) :
      Effect records operation (.ok (.settled (apply (task.absorb report))))
        (replace records report.id (record.settled (apply (task.absorb report))))
  /-- A report on a task that is not stored. -/
  | absent (operation : QueueOperation) (report : RunReport) (apply : Task → Task)
      (reports : operation.settlement? = some (report, apply))
      (missing : ∀ record ∈ records, record.id? ≠ some report.id) :
      Effect records operation (.error (.notFound report.id.display)) records
  /-- A report on a record that does not read. -/
  | unreadable (operation : QueueOperation) (report : RunReport) (apply : Task → Task)
      (record : StoredTask) (fault : StoreFault)
      (reports : operation.settlement? = some (report, apply)) (member : record ∈ records)
      (named : record.id? = some report.id) (read : record.read = .error fault) :
      Effect records operation (.error fault) records
  /-- A report on a task that is not in process. -/
  | unheld (operation : QueueOperation) (report : RunReport) (apply : Task → Task)
      (record : StoredTask) (task : Task)
      (reports : operation.settlement? = some (report, apply)) (member : record ∈ records)
      (named : record.id? = some report.id) (read : record.read = .ok task)
      (unheld : task.status ≠ .process) :
      Effect records operation (.error (.notInProcess report.id)) records
  /-- A look at a task that is stored. -/
  | found (id : TaskId) (record : StoredTask) (member : record ∈ records)
      (named : record.id? = some id) :
      Effect records (.get id) (record.read.map fun task => .found (some task)) records
  /-- A look at a task that is not stored. -/
  | notFound (id : TaskId) (missing : ∀ record ∈ records, record.id? ≠ some id) :
      Effect records (.get id) (.ok (.found none)) records
  /-- A look at the number of tasks in each state. -/
  | counted (counts : TaskCounts)
      (each : ∀ status,
        counts.of status = records.countP fun record => record.status? = some status) :
      Effect records .counts (.ok (.counted counts)) records
  /-- Stale records are taken back. -/
  | reaped (now cutoff : Instant) :
      Effect records (.reap now cutoff)
        (.ok (.changed (records.filter fun record => record.isStale cutoff).length))
        (records.map fun record => if record.isStale cutoff then record.reaped now else record)
  /-- Expired records are dropped. -/
  | purged (before : Instant) (rows : Nat)
      (reported :
        (records.filter fun record => !record.isExpired before).length + rows = records.length) :
      Effect records (.purge before) (.ok (.changed rows))
        (records.filter fun record => !record.isExpired before)

/-! ### Reaping and purging what a queue keeps -/

section

variable {kept : Type} {record : kept → StoredTask}

/-- Reaping on what a queue keeps is reaping on its records. -/
theorem Effect.reaped_map (items : List kept) {now cutoff : Instant} {stale : kept → Bool}
    {change : kept → kept} (isStale : ∀ item, (record item).isStale cutoff = stale item)
    (changed : ∀ item, (record item).reaped now = record (change item)) :
    Effect (items.map record) (.reap now cutoff) (.ok (.changed (items.filter stale).length))
      ((items.map fun item => if stale item then change item else item).map record) := by
  have effect := @Effect.reaped (items.map record) now cutoff
  have number : ((items.map record).filter fun record => record.isStale cutoff).length =
      (items.filter stale).length := by
    rw [List.filter_map, List.length_map]
    exact congrArg List.length (List.filter_congr fun item _ => isStale item)
  have records : ((items.map record).map fun record =>
      if record.isStale cutoff then record.reaped now else record) =
        (items.map fun item => if stale item then change item else item).map record := by
    rw [List.map_map, List.map_map]
    refine List.map_congr_left fun item _ => ?_
    simp only [Function.comp, isStale, changed]
    split <;> rfl
  rw [number, records] at effect
  exact effect

/-- Purging what a queue keeps is purging its records. -/
theorem Effect.purged_map (items : List kept) {before : Instant} {expired : kept → Bool}
    (isExpired : ∀ item, (record item).isExpired before = expired item) :
    Effect (items.map record) (.purge before)
      (.ok (.changed (items.length - (items.filter fun item => !expired item).length)))
      ((items.filter fun item => !expired item).map record) := by
  have remain : (items.map record).filter (fun record => !record.isExpired before) =
      (items.filter fun item => !expired item).map record := by
    rw [List.filter_map]
    exact congrArg (List.map record) (List.filter_congr fun item _ =>
      congrArg (!·) (isExpired item))
  have effect := @Effect.purged (items.map record) before
    (items.length - (items.filter fun item => !expired item).length)
  rw [remain] at effect
  refine effect ?_
  rw [List.length_map, List.length_map]
  exact Nat.add_sub_of_le (List.length_filter_le _ items)

end

end StoredTask

end TaskAutomation
