import TaskAutomation.Proofs.Task.Origin

/-!
This file says which values the operations of a history carry, and that the tasks of a queue then
carry such values too. How narrow the limits are is left open here: one choice makes sure that every
row can be read, a narrower one that every row is read as the task that was written.
-/

namespace TaskAutomation

/-- Limits on the params, the times and the durations in a history. -/
structure Limits where
  params : Json → Prop
  time : Instant → Prop
  millis : Nat → Prop

variable {limits : Limits}

/-- A task stays within limits, and its numbers fit into their words. -/
structure Task.Within (limits : Limits) (task : Task) : Prop where
  params : limits.params task.params
  priority : Word.holds32 task.priority = true
  attempt : task.attempt < Word.size32
  startAt : limits.time task.startAt
  executionMillis : ∀ millis ∈ task.executionMillis, limits.millis millis
  createdAt : limits.time task.createdAt
  updatedAt : limits.time task.updatedAt

/-- A report stays within limits. -/
structure RunReport.Within (limits : Limits) (report : RunReport) : Prop where
  params : ∀ params ∈ report.params, limits.params params
  finishedAt : limits.time report.finishedAt
  executionMillis : limits.millis report.executionMillis

/-- An operation stays within limits. -/
def QueueOperation.Within (limits : Limits) : QueueOperation → Prop
  | push _ now _ params options =>
    limits.params params ∧ limits.time now ∧ (∀ startAt ∈ options.startAt, limits.time startAt) ∧
      Word.holds32 options.priority = true
  | claim _ now => limits.time now
  | complete report => report.Within limits
  | fail report _ => report.Within limits
  | reschedule report startAt => report.Within limits ∧ limits.time startAt
  | get _ => True
  | counts => True
  | reap now cutoff => limits.time now ∧ limits.time cutoff
  | purge before => limits.time before

namespace Task

variable {task : Task}

theorem within_new {id : TaskId} {now : Instant} {handler : String} {params : Json}
    {options : PushOptions} (pushes : (QueueOperation.push id now handler params options).Within
      limits) : (Task.new id handler params options now).Within limits := by
  obtain ⟨params, time, start, priority⟩ := pushes
  refine ⟨params, priority, show 0 < Word.size32 by decide, ?_, nofun, time, time⟩
  show limits.time (options.startAt.getD now)
  cases same : options.startAt with
  | none => exact time
  | some startAt => exact start startAt same

theorem Within.collide (within : task.Within limits) (existing : TaskId) :
    (task.collide existing).Within limits :=
  ⟨within.params, within.priority, within.attempt, within.startAt, within.executionMillis,
    within.createdAt, within.updatedAt⟩

theorem Within.claimed (within : task.Within limits) {now : Instant} (time : limits.time now)
    (fits : task.attempt + 1 < Word.size32) : (task.claimed now).Within limits :=
  ⟨within.params, within.priority, fits, within.startAt, within.executionMillis,
    within.createdAt, time⟩

theorem Within.reaped (within : task.Within limits) {now : Instant} (time : limits.time now) :
    (task.reaped now).Within limits :=
  ⟨within.params, within.priority, within.attempt, within.startAt, within.executionMillis,
    within.createdAt, time⟩

theorem Within.absorb (within : task.Within limits) {report : RunReport}
    (reported : report.Within limits) : (task.absorb report).Within limits := by
  have params : limits.params (report.params.getD task.params) := by
    cases same : report.params with
    | none => exact within.params
    | some params => exact reported.params params same
  rw [absorb_eq]
  refine ⟨params, within.priority, within.attempt, within.startAt, fun millis same => ?_,
    within.createdAt, reported.finishedAt⟩
  rw [← Option.some.inj same]
  exact reported.executionMillis

/-- A report within limits keeps a task within them. -/
theorem Within.settlement (within : task.Within limits) {operation : QueueOperation}
    {report : RunReport} {apply : Task → Task}
    (reports : operation.settlement? = some (report, apply)) (inside : operation.Within limits) :
    (apply (task.absorb report)).Within limits := by
  cases operation with
  | complete own =>
    cases reports
    have absorbed := within.absorb inside
    exact ⟨absorbed.params, absorbed.priority, absorbed.attempt, absorbed.startAt,
      absorbed.executionMillis, absorbed.createdAt, absorbed.updatedAt⟩
  | fail own why =>
    cases reports
    have absorbed := within.absorb inside
    exact ⟨absorbed.params, absorbed.priority, absorbed.attempt, absorbed.startAt,
      absorbed.executionMillis, absorbed.createdAt, absorbed.updatedAt⟩
  | reschedule own startAt =>
    cases reports
    have absorbed := within.absorb inside.1
    refine ⟨absorbed.params, absorbed.priority, ?_, inside.2, absorbed.executionMillis,
      absorbed.createdAt, absorbed.updatedAt⟩
    show (if report.rearm then 0 else (task.absorb report).attempt) < Word.size32
    split
    · decide
    · exact absorbed.attempt
  | _ => cases reports

end Task

end TaskAutomation
