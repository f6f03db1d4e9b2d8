import TaskAutomation.Proofs.Queue.Change
import TaskAutomation.Proofs.Queue.MemoryEffect
import TaskAutomation.Proofs.Queue.TableEffect

/-!
This file follows a queue through a history of operations. A queue is sound for what is still to
come when its own bookkeeping is in order, no two records are of one task and every task that is
still to be pushed has a new identifier. An operation on a sound queue does what
`StoredTask.Effect` says and leaves a queue that is sound for the rest, so every state that a
history leads to, from a queue without tasks, is sound.
-/

namespace TaskAutomation

/-! ### Identifiers -/

namespace QueueOperation

/-- The identifiers of the tasks that a history pushes, in order. -/
def pushedIds (history : List QueueOperation) : List TaskId := history.filterMap pushedId?

theorem pushedIds_append (past future : List QueueOperation) :
    pushedIds (past ++ future) = pushedIds past ++ pushedIds future := List.filterMap_append

theorem pushedIds_cons (operation : QueueOperation) (rest : List QueueOperation) :
    pushedIds (operation :: rest) = operation.pushedId?.toList ++ pushedIds rest := by
  rw [pushedIds, List.filterMap_cons]
  cases operation.pushedId? <;> rfl

end QueueOperation

/-! ### Histories -/

/-- The two places where a queue can be kept. -/
inductive Storage where
  | memory
  | table
  deriving DecidableEq, Repr

namespace Backend

open QueueOperation StoredTask

/-- A queue without tasks. -/
def empty : Storage → Backend
  | .memory => .memory .empty
  | .table => .table .empty

theorem records_empty (storage : Storage) : (empty storage).records = [] := by
  cases storage <;> rfl

theorem not_mem_records_empty (storage : Storage) (record : StoredTask) :
    record ∉ (empty storage).records := by
  rw [records_empty]
  exact List.not_mem_nil

theorem run_cons (backend : Backend) (operation : QueueOperation) (rest : List QueueOperation) :
    backend.run (operation :: rest) =
      ((backend.step operation).1 :: ((backend.step operation).2.run rest).1,
        ((backend.step operation).2.run rest).2) := rfl

theorem run_append (backend : Backend) (past future : List QueueOperation) :
    backend.run (past ++ future) =
      ((backend.run past).1 ++ ((backend.run past).2.run future).1,
        ((backend.run past).2.run future).2) := by
  induction past generalizing backend with
  | nil => rfl
  | cons operation rest inductionHypothesis =>
    rw [List.cons_append, run_cons, inductionHypothesis, run_cons]
    rfl

/-- Where a queue is kept. -/
def storage : Backend → Storage
  | memory _ => .memory
  | table _ => .table

@[simp] theorem storage_empty (storage : Storage) : (empty storage).storage = storage := by
  cases storage <;> rfl

@[simp] theorem storage_step (backend : Backend) (operation : QueueOperation) :
    (backend.step operation).2.storage = backend.storage := by
  cases backend <;> cases operation <;> rfl

@[simp] theorem storage_run (backend : Backend) (history : List QueueOperation) :
    (backend.run history).2.storage = backend.storage := by
  induction history generalizing backend with
  | nil => rfl
  | cons operation rest inductionHypothesis =>
    rw [run_cons, inductionHypothesis, storage_step]

theorem step_settlement (backend : Backend) {operation : QueueOperation} {report : RunReport}
    {apply : Task → Task} (reports : operation.settlement? = some (report, apply)) :
    backend.step operation =
      ((backend.settle report apply).1.map .settled, (backend.settle report apply).2) := by
  cases operation <;> cases reports <;> rfl

/-! ### Sound queues -/

/-- The bookkeeping of a queue is in order. -/
def InOrder : Backend → Prop
  | memory queue => queue.Indexed
  | table kept => ∀ row ∈ kept.rows, row.Kept

/-- A queue is ready for the operations that are still to come. -/
structure Sound (backend : Backend) (future : List QueueOperation) : Prop where
  inOrder : backend.InOrder
  distinct : Distinct backend.records
  fresh : ∀ id ∈ pushedIds future, ∀ record ∈ backend.records, record.id? ≠ some id
  unique : (pushedIds future).Nodup

/-- One operation on a queue that has no record of the task that is pushed. -/
theorem step_effect {backend : Backend} (inOrder : backend.InOrder)
    (distinct : Distinct backend.records) (operation : QueueOperation)
    (fresh : ∀ id ∈ operation.pushedId?, ∀ record ∈ backend.records, record.id? ≠ some id) :
    Effect backend.records operation (backend.step operation).1
        (backend.step operation).2.records ∧
      (backend.step operation).2.InOrder := by
  cases backend with
  | memory queue =>
    have unique := MemoryQueue.nodup_ids distinct
    have unused (id : TaskId) (pushed : id ∈ operation.pushedId?) :
        ∀ held ∈ queue.tasks, held.id ≠ id := MemoryQueue.id_ne_of_fresh (fresh id pushed)
    cases operation with
    | push id now handler params options =>
      exact MemoryQueue.push_effect inOrder id now handler params options (unused id rfl)
    | claim topics now => exact MemoryQueue.claim_effect inOrder unique topics now
    | complete report => exact MemoryQueue.settle_effect inOrder unique rfl
    | fail report why =>
      exact @MemoryQueue.settle_effect queue inOrder unique (.fail report why) report _ rfl
    | reschedule report startAt =>
      exact @MemoryQueue.settle_effect queue inOrder unique (.reschedule report startAt) report _
        rfl
    | get id => exact ⟨queue.get_effect id, inOrder⟩
    | counts => exact ⟨queue.counts_effect, inOrder⟩
    | reap now cutoff => exact MemoryQueue.reap_effect inOrder now cutoff
    | purge before => exact MemoryQueue.purge_effect inOrder before
  | table kept =>
    have sound : TableQueue.Kept kept.rows := ⟨inOrder, distinct⟩
    have unused (id : TaskId) (pushed : id ∈ operation.pushedId?) :
        ∀ row ∈ kept.rows, (StoredTask.row row).id? ≠ some id := fun row member =>
      fresh id pushed (.row row) (List.mem_map.mpr ⟨row, member, rfl⟩)
    cases operation with
    | push id now handler params options =>
      exact TableQueue.push_effect sound id now handler params options (unused id rfl)
    | claim topics now => exact TableQueue.claim_effect sound topics now
    | complete report => exact TableQueue.settle_effect sound rfl
    | fail report why => exact @TableQueue.settle_effect kept sound (.fail report why) report _ rfl
    | reschedule report startAt =>
      exact @TableQueue.settle_effect kept sound (.reschedule report startAt) report _ rfl
    | get id => exact ⟨TableQueue.get_effect inOrder id, inOrder⟩
    | counts => exact ⟨TableQueue.counts_effect inOrder, inOrder⟩
    | reap now cutoff => exact TableQueue.reap_effect inOrder now cutoff
    | purge before => exact TableQueue.purge_effect inOrder before

variable {backend : Backend} {operation : QueueOperation} {rest past future : List QueueOperation}

namespace Sound

/-- What the next operation does. -/
theorem effect (sound : backend.Sound (operation :: rest)) :
    Effect backend.records operation (backend.step operation).1
      (backend.step operation).2.records := by
  refine (step_effect sound.inOrder sound.distinct operation fun id pushed => ?_).1
  refine sound.fresh id ?_
  rw [pushedIds_cons]
  exact List.mem_append_left _ (Option.mem_toList.mpr pushed)

/-- A queue stays sound for what is left of its future. -/
theorem step (sound : backend.Sound (operation :: rest)) :
    (backend.step operation).2.Sound rest := by
  obtain ⟨inOrder, distinct, fresh, unique⟩ := sound
  rw [pushedIds_cons] at fresh unique
  have unused : ∀ id ∈ operation.pushedId?, ∀ record ∈ backend.records, record.id? ≠ some id :=
    fun id pushed => fresh id (List.mem_append_left _ (Option.mem_toList.mpr pushed))
  obtain ⟨effect, stillInOrder⟩ := step_effect inOrder distinct operation unused
  have ids := effect.ids_sublist
  have different := List.nodup_append.mp unique
  refine ⟨stillInOrder, List.Nodup.sublist ids ?_, fun id later record member named => ?_,
    different.2.1⟩
  · refine List.nodup_append.mpr ⟨distinct, different.1.map fun _ _ => Option.some.inj, ?_⟩
    rintro _ before _ pushed rfl
    obtain ⟨record, member, named⟩ := List.mem_map.mp before
    obtain ⟨id, inside, same⟩ := List.mem_map.mp pushed
    exact unused id (Option.mem_toList.mp inside) record member (named.trans same.symm)
  · have known := ids.subset (List.mem_map.mpr ⟨record, member, named⟩)
    obtain before | pushed := List.mem_append.mp known
    · obtain ⟨other, inside, same⟩ := List.mem_map.mp before
      exact fresh id (List.mem_append_right _ later) other inside same
    · obtain ⟨other, inside, same⟩ := List.mem_map.mp pushed
      exact different.2.2 other inside id later (Option.some.inj same)

/-- A queue is sound for what follows any part of its future. -/
theorem run (sound : backend.Sound (past ++ future)) : (backend.run past).2.Sound future := by
  induction past generalizing backend with
  | nil => exact sound
  | cons operation rest inductionHypothesis => exact inductionHypothesis sound.step

/-- A queue without tasks is sound for every history that pushes no identifier twice. -/
theorem empty (storage : Storage) (unique : (pushedIds future).Nodup) :
    (Backend.empty storage).Sound future := by
  have inOrder : (Backend.empty storage).InOrder := by
    cases storage with
    | memory =>
      refine ⟨List.nodup_nil, fun sign id => ⟨fun listed => absurd listed List.not_mem_nil, ?_⟩⟩
      rintro ⟨held, member, -⟩
      exact absurd member List.not_mem_nil
    | table => exact fun row member => absurd member List.not_mem_nil
  refine ⟨inOrder, ?_, fun id _ record member => ?_, unique⟩
  · rw [records_empty]
    exact List.nodup_nil
  · exact absurd member (not_mem_records_empty storage record)

/-- A history that pushes no identifier twice may be followed by one that pushes nothing. -/
theorem before (storage : Storage) (unique : (pushedIds past).Nodup)
    (quiet : pushedIds future = []) : (Backend.empty storage).Sound (past ++ future) := by
  refine .empty storage ?_
  rw [pushedIds_append, quiet, List.append_nil]
  exact unique

end Sound

/-- A task of a queue is one that it had before or one that was pushed since. -/
theorem Sound.id_origin (sound : backend.Sound past) {record : StoredTask} {id : TaskId}
    (member : record ∈ (backend.run past).2.records) (named : record.id? = some id) :
    (∃ former ∈ backend.records, former.id? = some id) ∨ id ∈ pushedIds past := by
  induction past generalizing backend with
  | nil => exact Or.inl ⟨record, member, named⟩
  | cons operation rest inductionHypothesis =>
    rw [run_cons] at member
    obtain ⟨former, inside, same⟩ | later := inductionHypothesis sound.step member
    · have known := sound.effect.ids_sublist.subset (List.mem_map.mpr ⟨former, inside, same⟩)
      obtain before | pushed := List.mem_append.mp known
      · exact Or.inl (List.mem_map.mp before)
      · obtain ⟨other, new, equal⟩ := List.mem_map.mp pushed
        refine Or.inr ?_
        rw [pushedIds_cons, ← Option.some.inj equal]
        exact List.mem_append_left _ new
    · refine Or.inr ?_
      rw [pushedIds_cons]
      exact List.mem_append_right _ later

/-- A short history: of two tasks with one sign the first is claimed and done, and what is over is
purged. -/
def sampleHistory : List QueueOperation :=
  [.push ⟨.ofNat 1⟩ ⟨0, 0⟩ "mail" (.list []) { collisionSign := some "customer" },
    .push ⟨.ofNat 2⟩ ⟨1, 0⟩ "mail" (.list []) { collisionSign := some "customer" },
    .claim [defaultTopic] ⟨2, 0⟩,
    .complete (.bare ⟨.ofNat 1⟩ ⟨3, 0⟩),
    .purge ⟨4, 0⟩]

end Backend

end TaskAutomation
