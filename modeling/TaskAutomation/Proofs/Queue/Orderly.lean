import TaskAutomation.Proofs.Queue.CollisionSign

/-!
This file sums up what a queue always is, whatever is asked of it: its bookkeeping is in order, no two
records are of one task, no two tasks in flight carry one sign, and every record is of a task whose
identifier has been used. As long as no identifier is used twice, no operation changes that.
-/

namespace TaskAutomation.Backend

open QueueOperation StoredTask

/-- A queue is as it should be, where some identifiers have been used for tasks. -/
structure Orderly (backend : Backend) (used : List TaskId) : Prop where
  inOrder : backend.InOrder
  distinct : Distinct backend.records
  exclusive : Exclusive backend.records
  known : ∀ record ∈ backend.records, ∃ id ∈ used, record.id? = some id

namespace Orderly

theorem empty (storage : Storage) : (Backend.empty storage).Orderly [] where
  inOrder := (@Sound.empty [] storage List.nodup_nil).inOrder
  distinct := (@Sound.empty [] storage List.nodup_nil).distinct
  exclusive _ record member := absurd member (not_mem_records_empty storage record)
  known record member := absurd member (not_mem_records_empty storage record)

variable {backend : Backend} {used : List TaskId} {operation : QueueOperation}

/-- More identifiers have been used than are known of. -/
theorem mono (orderly : backend.Orderly used) {more : List TaskId} (subset : used ⊆ more) :
    backend.Orderly more where
  inOrder := orderly.inOrder
  distinct := orderly.distinct
  exclusive := orderly.exclusive
  known record member := by
    obtain ⟨id, inside, named⟩ := orderly.known record member
    exact ⟨id, subset inside, named⟩

variable (orderly : backend.Orderly used) (fresh : ∀ id ∈ operation.pushedId?, id ∉ used)

include orderly fresh

theorem sound : backend.Sound [operation] where
  inOrder := orderly.inOrder
  distinct := orderly.distinct
  fresh id pushed record member named := by
    rw [pushedIds_cons] at pushed
    obtain own | none := List.mem_append.mp pushed
    · obtain ⟨other, inside, same⟩ := orderly.known record member
      obtain rfl := Option.some.inj (named.symm.trans same)
      exact fresh id (Option.mem_toList.mp own) inside
    · exact absurd none List.not_mem_nil
  unique := by
    rw [pushedIds_cons]
    cases operation.pushedId? with
    | none => exact List.nodup_nil
    | some id => exact List.nodup_singleton id

/-- What an operation does to the records. -/
theorem effect : Effect backend.records operation (backend.step operation).1
    (backend.step operation).2.records := (orderly.sound fresh).effect

/-- An operation leaves a queue as it should be. -/
theorem step : (backend.step operation).2.Orderly (operation.pushedId?.toList ++ used) where
  inOrder := (orderly.sound fresh).step.inOrder
  distinct := (orderly.sound fresh).step.distinct
  exclusive := (orderly.effect fresh).exclusive orderly.distinct orderly.exclusive
  known record after := by
    obtain ⟨former, before, change⟩ | ⟨id, pushed, named, -⟩ :=
      (orderly.effect fresh).backward orderly.distinct after
    · obtain ⟨id, inside, named⟩ := orderly.known former before
      exact ⟨id, List.mem_append_right _ inside, change.id?_eq.trans named⟩
    · exact ⟨id, List.mem_append_left _ (Option.mem_toList.mpr pushed), named⟩

end Orderly

end TaskAutomation.Backend
