import TaskAutomation.Proofs.Queue.Mirror
import TaskAutomation.Proofs.Queue.Readable

/-!
This file proves that the two queues cannot be told apart by their answers. The table that has the
rows of the tasks in memory answers every operation as the queue in memory does and is left with the
rows of the tasks that are then in memory, so both run along a history side by side. That needs
limits within which a row is read as the task that was written.
-/

namespace TaskAutomation.Backend

open QueueOperation StoredTask

/-- The table with the same tasks. -/
def mirror : Backend → Backend
  | memory queue => table queue.mirror
  | table kept => table kept

variable {queue : MemoryQueue} {operation : QueueOperation} {history rest : List QueueOperation}

theorem within_of_mem_tasks {limits : Limits}
    (within : ∀ record ∈ (memory queue).records, record.Within limits) :
    ∀ held ∈ queue.tasks, held.Within limits := by
  intro held member
  obtain ⟨own, inside, same | same⟩ := within (.task held) (List.mem_map.mpr ⟨held, member, rfl⟩)
  · cases same
    exact inside
  · cases same

/-- One operation on a queue in memory and on its table. -/
theorem step_mirror (sound : (memory queue).Sound (operation :: rest))
    (within : ∀ record ∈ (memory queue).records, record.Within .exact)
    (inside : operation.Within .exact)
    (fit : ∀ record ∈ ((memory queue).step operation).2.records, ∀ n ∈ record.attempt?,
      n < Word.size32) :
    (memory queue).mirror.step operation =
      (((memory queue).step operation).1, ((memory queue).step operation).2.mirror) := by
  have tasks := within_of_mem_tasks within
  have distinct := MemoryQueue.nodup_ids sound.distinct
  have settled {report : RunReport} {apply : Task → Task}
      (reports : operation.settlement? = some (report, apply)) :
      (memory queue).mirror.step operation =
        (((memory queue).step operation).1, ((memory queue).step operation).2.mirror) := by
    have same := MemoryQueue.settle_mirror tasks distinct reports
    rw [step_settlement _ reports, step_settlement _ reports]
    show ((queue.mirror.settle report apply).1.map _,
      table (queue.mirror.settle report apply).2) = _
    rw [same]
    rfl
  cases operation with
  | push id now handler params options =>
    have fresh := MemoryQueue.id_ne_of_fresh (sound.fresh id List.mem_cons_self)
    have same := MemoryQueue.push_mirror sound.inOrder now handler params options fresh
    show ((queue.mirror.push id now handler params options).1.map _,
      table (queue.mirror.push id now handler params options).2) = _
    rw [same]
    rfl
  | claim topics now =>
    have small : ∀ task ∈ (queue.claim topics now).2.tasks, task.attempt < Word.size32 :=
      fun task member => Int.ofNat_lt.mp
        (fit (.task task) (List.mem_map.mpr ⟨task, member, rfl⟩) _ rfl)
    have same := MemoryQueue.claim_mirror tasks distinct topics inside small
    show ((queue.mirror.claim topics now).1.map _, table (queue.mirror.claim topics now).2) = _
    rw [same]
    rfl
  | complete report => exact settled rfl
  | fail report why => exact @settled report _ rfl
  | reschedule report startAt => exact @settled report _ rfl
  | get id =>
    show ((queue.mirror.get id).map _, table queue.mirror) = _
    rw [MemoryQueue.get_mirror tasks]
    rfl
  | counts =>
    show (queue.mirror.counts.map _, table queue.mirror) = _
    rw [queue.counts_mirror]
    rfl
  | reap now cutoff =>
    have same := MemoryQueue.reap_mirror tasks now inside.2.2
    show (Except.ok (QueueAnswer.changed (queue.mirror.reap now cutoff).1),
      table (queue.mirror.reap now cutoff).2) = _
    rw [same]
    rfl
  | purge before =>
    have same := MemoryQueue.purge_mirror tasks inside.2
    show (Except.ok (QueueAnswer.changed (queue.mirror.purge before).1),
      table (queue.mirror.purge before).2) = _
    rw [same]
    rfl

/-- Along a history the table answers as the queue in memory does and ends with the same tasks. -/
theorem run_mirror (sound : (memory queue).Sound history)
    (within : ∀ record ∈ (memory queue).records, record.Within .exact)
    (inside : ∀ operation ∈ history, operation.Within .exact)
    (fit : (memory queue).AttemptsFit history) :
    (memory queue).mirror.run history =
      (((memory queue).run history).1, ((memory queue).run history).2.mirror) := by
  induction history generalizing queue with
  | nil => rfl
  | cons operation rest inductionHypothesis =>
    have small := fit.step _ (mem_states_self _ rest)
    have first := inside operation List.mem_cons_self
    have step := step_mirror sound within first small
    have next := sound.effect.within sound.distinct Limits.durable_exact.faithful first within
      small
    have soundNext := sound.step
    have fitNext := fit.step
    obtain ⟨changed, same⟩ : ∃ changed, ((memory queue).step operation).2 = memory changed := by
      cases operation <;> exact ⟨_, rfl⟩
    rw [same] at next soundNext fitNext
    have later := inductionHypothesis soundNext next
      (fun other member => inside other (List.mem_cons_of_mem operation member)) fitNext
    rw [run_cons, run_cons, step, same]
    show (_ :: ((memory changed).mirror.run rest).1, ((memory changed).mirror.run rest).2) = _
    rw [later]

/-- Both queues give the same answers to every history that pushes no identifier twice, as long as
all params read back, all times are whole milliseconds and all runs and attempts are in range. -/
theorem replies_eq (history : List QueueOperation) (unique : (pushedIds history).Nodup)
    (within : ∀ operation ∈ history, operation.Within .exact)
    (fit : (empty .memory).AttemptsFit history) :
    ((empty .memory).run history).1 = ((empty .table).run history).1 := by
  have run := run_mirror (Sound.empty .memory unique)
    (fun record member => absurd member List.not_mem_nil) within fit
  exact (congrArg Prod.fst run).symm

theorem replies_eq_sample :
    (pushedIds sampleHistory).Nodup ∧ (∀ operation ∈ sampleHistory, operation.Within .exact) ∧
      (empty .memory).AttemptsFit sampleHistory ∧
      ((empty .memory).run sampleHistory).1 = ((empty .table).run sampleHistory).1 := by
  have unique : (pushedIds sampleHistory).Nodup := by decide
  have fit : (empty .memory).AttemptsFit sampleHistory :=
    attemptsFit_of_claims unique (by decide)
  exact ⟨unique, sampleHistory_within, fit,
    replies_eq sampleHistory unique sampleHistory_within fit⟩

end TaskAutomation.Backend
