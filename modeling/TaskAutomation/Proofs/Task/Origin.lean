import TaskAutomation.Queue.Backend

/-!
This file proves what the steps in the life of a task leave alone. What a task was pushed with, its
params and its start apart, stays as it is for good, its lines of diagnostics only grow, and no
report counts an attempt. These facts are proved of each change of a task and then of each report as
a whole.
-/

namespace TaskAutomation

/-- The report that an operation makes on a run, and what follows from it for the task. -/
def QueueOperation.settlement? : QueueOperation → Option (RunReport × (Task → Task))
  | complete report => some (report, Task.markDone)
  | fail report why => some (report, fun task => task.markError why)
  | reschedule report startAt => some (report, fun task => task.reschedule startAt report.rearm)
  | _ => none

namespace Task

/-- Two tasks have in common what never changes. -/
structure SameOrigin (before after : Task) : Prop where
  id : after.id = before.id
  handler : after.handler = before.handler
  priority : after.priority = before.priority
  topic : after.topic = before.topic
  collisionSign : after.collisionSign = before.collisionSign
  watcher : after.watcher = before.watcher
  createdAt : after.createdAt = before.createdAt

namespace SameOrigin

theorem refl (task : Task) : SameOrigin task task := ⟨rfl, rfl, rfl, rfl, rfl, rfl, rfl⟩

theorem trans {first second third : Task} (former : SameOrigin first second)
    (latter : SameOrigin second third) : SameOrigin first third :=
  ⟨latter.id.trans former.id, latter.handler.trans former.handler,
    latter.priority.trans former.priority, latter.topic.trans former.topic,
    latter.collisionSign.trans former.collisionSign, latter.watcher.trans former.watcher,
    latter.createdAt.trans former.createdAt⟩

end SameOrigin

/-! ### Lines of diagnostics -/

/-- Lines with one more behind them. -/
def appendLine (info line : String) : String :=
  if info.isEmpty then line else info ++ "\n" ++ line

theorem exists_appendLine (info line : String) : ∃ more, appendLine info line = info ++ more := by
  unfold appendLine
  split
  · next empty =>
    refine ⟨line, ?_⟩
    rw [String.isEmpty_iff.mp empty, String.empty_append]
  · exact ⟨"\n" ++ line, String.append_assoc⟩

theorem exists_foldl_appendLine (lines : List String) (info : String) :
    ∃ more, lines.foldl appendLine info = info ++ more := by
  induction lines generalizing info with
  | nil => exact ⟨"", String.append_empty.symm⟩
  | cons line rest inductionHypothesis =>
    obtain ⟨first, added⟩ := exists_appendLine info line
    obtain ⟨later, grown⟩ := inductionHypothesis (appendLine info line)
    exact ⟨first ++ later, by rw [List.foldl_cons, grown, added, String.append_assoc]⟩

theorem foldl_addInfo (lines : List String) (task : Task) :
    lines.foldl addInfo task = { task with info := lines.foldl appendLine task.info } := by
  induction lines generalizing task with
  | nil => rfl
  | cons line rest inductionHypothesis =>
    rw [List.foldl_cons, inductionHypothesis]
    rfl

/-! ### The changes of a task -/

/-- All that a report changes. -/
theorem absorb_eq (task : Task) (report : RunReport) :
    task.absorb report =
      { task with
        params := report.params.getD task.params
        info := report.info.foldl appendLine task.info
        executionMillis := some report.executionMillis
        updatedAt := report.finishedAt } := by
  rw [absorb, foldl_addInfo]

theorem sameOrigin_claimed (task : Task) (now : Instant) : SameOrigin task (task.claimed now) :=
  ⟨rfl, rfl, rfl, rfl, rfl, rfl, rfl⟩

theorem sameOrigin_reaped (task : Task) (now : Instant) : SameOrigin task (task.reaped now) :=
  ⟨rfl, rfl, rfl, rfl, rfl, rfl, rfl⟩

theorem sameOrigin_absorb (task : Task) (report : RunReport) :
    SameOrigin task (task.absorb report) := by
  rw [absorb_eq]
  exact ⟨rfl, rfl, rfl, rfl, rfl, rfl, rfl⟩

theorem info_absorb (task : Task) (report : RunReport) :
    ∃ more, (task.absorb report).info = task.info ++ more := by
  rw [absorb_eq]
  exact exists_foldl_appendLine report.info task.info

theorem attempt_absorb (task : Task) (report : RunReport) :
    (task.absorb report).attempt = task.attempt := by rw [absorb_eq]

theorem startAt_absorb (task : Task) (report : RunReport) :
    (task.absorb report).startAt = task.startAt := by rw [absorb_eq]

end Task

namespace QueueOperation

variable {operation : QueueOperation} {report : RunReport} {apply : Task → Task}

/-- A report changes nothing of what a task was pushed with. -/
theorem sameOrigin_settlement (settles : operation.settlement? = some (report, apply))
    (task : Task) : task.SameOrigin (apply (task.absorb report)) := by
  refine (task.sameOrigin_absorb report).trans ?_
  cases operation <;> cases settles <;> exact ⟨rfl, rfl, rfl, rfl, rfl, rfl, rfl⟩

/-- A report only adds to the lines of diagnostics. -/
theorem info_settlement (settles : operation.settlement? = some (report, apply)) (task : Task) :
    ∃ more, (apply (task.absorb report)).info = task.info ++ more := by
  obtain ⟨more, grown⟩ := task.info_absorb report
  cases operation <;> cases settles
  · exact ⟨more, grown⟩
  · next why =>
    obtain ⟨last, added⟩ := Task.exists_appendLine (task.absorb report).info why
    refine ⟨more ++ last, ?_⟩
    rw [← String.append_assoc, ← grown]
    exact added
  · exact ⟨more, grown⟩

/-- The state in which a report leaves a task. -/
theorem status_settlement (settles : operation.settlement? = some (report, apply)) (task : Task) :
    (apply (task.absorb report)).status = .done ∨ (apply (task.absorb report)).status = .error ∨
      (apply (task.absorb report)).status = .pending := by
  cases operation <;> cases settles
  · exact Or.inl rfl
  · exact Or.inr (Or.inl rfl)
  · exact Or.inr (Or.inr rfl)

theorem status_settlement_ne (settles : operation.settlement? = some (report, apply))
    (task : Task) : (apply (task.absorb report)).status ≠ .process := by
  obtain state | state | state := status_settlement settles task <;>
    · rw [state]
      exact nofun

/-- A report counts no attempt; it may start the count again. -/
theorem attempt_settlement (settles : operation.settlement? = some (report, apply)) (task : Task) :
    (apply (task.absorb report)).attempt ≤ task.attempt := by
  have same := task.attempt_absorb report
  cases operation <;> cases settles
  · exact Nat.le_of_eq same
  · exact Nat.le_of_eq same
  · show (if report.rearm then 0 else (task.absorb report).attempt) ≤ task.attempt
    split
    · exact Nat.zero_le _
    · exact Nat.le_of_eq same

end QueueOperation

end TaskAutomation
