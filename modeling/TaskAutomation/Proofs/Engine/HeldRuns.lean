import TaskAutomation.Proofs.Engine.EventRuns
import TaskAutomation.Proofs.Engine.RunPushes

/-!
This file follows the runs of triggers that are in flight from world to world. As long as none of them
is reported done or failed, they stay in flight, and as long as nobody pushes another one, no trigger
comes to have a run in flight that had none.
-/

namespace TaskAutomation

open StoredTask

/-! ### Requests that leave runs alone -/

/-- The request reports none of some tasks done or failed. -/
def Request.EndsNone (tasks : TaskId → Prop) (request : Request) : Prop :=
  ∀ report, (request = .tasks (.complete report) ∨ ∃ why, request = .tasks (.fail report why)) →
    ¬ tasks report.id

/-- The request pushes no task with the sign of the runs of a trigger. -/
def Request.PushesNoRun (request : Request) : Prop :=
  ∀ handler params options, request = .tasks (.push handler params options) →
    ∀ trigger, options.collisionSign ≠ some (TriggerRun.collisionSign ⟨trigger⟩)

/-- A task in flight has the sign of the runs of a trigger. -/
def StoredTask.IsRunInFlight (records : List StoredTask) (trigger : TriggerId) (task : TaskId) :
    Prop :=
  Has (fun record => record.Holds (TriggerRun.collisionSign ⟨trigger⟩)) records task

/-- Who has a run in flight has one of a task that is known. -/
theorem Backend.Orderly.runInFlight_iff {backend : Backend} {used : List TaskId}
    (orderly : backend.Orderly used) {trigger : TriggerId} :
    RunInFlight backend.records trigger ↔ ∃ task, IsRunInFlight backend.records trigger task := by
  constructor
  · rintro ⟨record, member, holds⟩
    obtain ⟨task, -, named⟩ := orderly.known record member
    exact ⟨task, record, member, named, holds⟩
  · rintro ⟨task, record, member, -, holds⟩
    exact ⟨record, member, holds⟩

namespace World

variable {State : Type} [Outside State] {world final : World State} {moments : List (World State)}
  {kind : Request → Prop} {request : Request} {tasks : TaskId → Prop} {task : TaskId}
  {trigger : TriggerId}

/-! ### One request -/

/-- A run that is in flight stays so, unless it is reported done or failed. -/
theorem isRunInFlight_answer (orderly : world.backend.Orderly world.pushed)
    (unique : (answer request world).2.pushed.Nodup) (goesOn : request.EndsNone tasks)
    (own : tasks task) (inFlight : IsRunInFlight world.backend.records trigger task) :
    IsRunInFlight (answer request world).2.backend.records trigger task := by
  obtain same | ⟨asked, new, reply, rfl, effect⟩ := effect_answer orderly unique
  · rw [same]
    exact inFlight
  · obtain ⟨record, member, named, holds⟩ := inFlight
    have spared : ∀ id ∈ (asked.operation new world.clock).endedId?, record.id? ≠ some id := by
      intro id ended same
      obtain rfl := Option.some.inj (named.symm.trans same)
      cases asked with
      | complete report =>
        cases ended
        exact goesOn report (Or.inl rfl) own
      | fail report why =>
        cases ended
        exact goesOn report (Or.inr ⟨why, rfl⟩) own
      | _ => cases ended
    obtain ⟨after, inside, same, still⟩ := effect.still_held orderly.distinct member holds spared
    exact ⟨after, inside, same.trans named, still⟩

/-- No trigger comes to have a run in flight, unless one is pushed. -/
theorem runInFlight_of_answer (orderly : world.backend.Orderly world.pushed)
    (unique : (answer request world).2.pushed.Nodup) (pushes : request.PushesNoRun)
    (after : RunInFlight (answer request world).2.backend.records trigger) :
    RunInFlight world.backend.records trigger := by
  obtain same | ⟨asked, new, reply, rfl, effect⟩ := effect_answer orderly unique
  · rw [same] at after
    exact after
  · obtain ⟨record, member, holds⟩ := after
    refine effect.held_before orderly.distinct member holds fun signed => ?_
    cases asked with
    | push handler params options => exact pushes _ _ _ rfl trigger signed
    | _ => cases signed

/-! ### Any number of requests -/

theorem orderly_through (through : Through answer kind world moments final)
    (orderly : world.backend.Orderly world.pushed) (unique : final.pushed.Nodup) :
    final.backend.Orderly final.pushed := by
  induction through with
  | here => exact orderly
  | step request fits rest inductionHypothesis =>
    have used := unique.sublist (pushed_prefix_through rest).sublist
    exact inductionHypothesis (orderly_answer orderly used) unique

theorem automate_through (through : Through answer kind world moments final)
    (leaves : ∀ request, kind request → request.LeavesStore) : final.automate = world.automate := by
  induction through with
  | here => rfl
  | step request fits rest inductionHypothesis =>
    exact inductionHypothesis.trans (automateHost.store_answer_of_leaves (leaves request fits) _)

theorem isRunInFlight_through (through : Through answer kind world moments final)
    (orderly : world.backend.Orderly world.pushed) (unique : final.pushed.Nodup)
    (goesOn : ∀ request, kind request → request.EndsNone tasks) (own : tasks task)
    (inFlight : IsRunInFlight world.backend.records trigger task) :
    IsRunInFlight final.backend.records trigger task := by
  induction through with
  | here => exact inFlight
  | step request fits rest inductionHypothesis =>
    have used := unique.sublist (pushed_prefix_through rest).sublist
    exact inductionHypothesis (orderly_answer orderly used) unique
      (isRunInFlight_answer orderly used (goesOn request fits) own inFlight)

theorem runInFlight_of_through (through : Through answer kind world moments final)
    (orderly : world.backend.Orderly world.pushed) (unique : final.pushed.Nodup)
    (pushes : ∀ request, kind request → request.PushesNoRun)
    (after : RunInFlight final.backend.records trigger) :
    RunInFlight world.backend.records trigger := by
  induction through with
  | here => exact after
  | step request fits rest inductionHypothesis =>
    have used := unique.sublist (pushed_prefix_through rest).sublist
    exact runInFlight_of_answer orderly used (pushes request fits)
      (inductionHypothesis (orderly_answer orderly used) unique after)

end World

end TaskAutomation
