import TaskAutomation.Proofs.Queue.CollisionSign

/-!
This file follows who holds a sign through one operation. A task that holds a sign goes on holding it
unless it is reported done or failed, whatever else happens to its record, and nobody comes to hold a
sign but a task that is pushed with it.
-/

namespace TaskAutomation

namespace QueueOperation

/-- The task that an operation reports done or failed. -/
def endedId? : QueueOperation → Option TaskId
  | complete report | fail report _ => some report.id
  | _ => none

/-- The sign of the task that an operation pushes. -/
def pushedSign? : QueueOperation → Option String
  | push _ _ _ _ options => options.collisionSign
  | _ => none

end QueueOperation

namespace StoredTask

variable {records newRecords : List StoredTask} {operation : QueueOperation} {reply : QueueReply}
  {record changed : StoredTask} {sign : String}

/-- A record goes on holding a sign, unless its task is reported done or failed. -/
theorem Change.still_holds (change : Change operation record changed) (holds : record.Holds sign)
    (goesOn : ∀ id ∈ operation.endedId?, record.id? ≠ some id) : changed.Holds sign := by
  refine ⟨change.sign?_eq.trans holds.1, ?_⟩
  cases change with
  | kept => exact holds.2
  | claimed topics now record claims due => exact Or.inr (status?_claimed record now)
  | reaped now cutoff record reaps stale => exact Or.inl (status?_reaped record now)
  | settled report apply record task reports named read process =>
    refine Or.inl ((status?_settled record _).trans ?_)
    cases operation with
    | complete own | fail own why =>
      cases reports
      exact absurd named (goesOn _ rfl)
    | reschedule own startAt =>
      cases reports
      rfl
    | _ => cases reports

/-- A task that holds a sign holds it after an operation, unless it is reported done or failed. -/
theorem Effect.still_held (effect : Effect records operation reply newRecords)
    (distinct : Distinct records) (member : record ∈ records) (holds : record.Holds sign)
    (goesOn : ∀ id ∈ operation.endedId?, record.id? ≠ some id) :
    ∃ after ∈ newRecords, after.id? = record.id? ∧ after.Holds sign := by
  obtain ⟨after, inside, change⟩ | ⟨before, -, expired⟩ := effect.forward distinct member
  · exact ⟨after, inside, change.id?_eq, change.still_holds holds goesOn⟩
  · exact absurd holds.2 (not_isInFlight_of_isExpired expired)

/-- A task that holds a sign after an operation held it before, unless it is pushed with it. -/
theorem Effect.held_before (effect : Effect records operation reply newRecords)
    (distinct : Distinct records) (member : changed ∈ newRecords) (holds : changed.Holds sign)
    (unpushed : operation.pushedSign? ≠ some sign) : ∃ former ∈ records, former.Holds sign := by
  cases operation with
  | push id now handler params options =>
    obtain ⟨task, added, rfl, stored, made⟩ := effect.push_adds
    obtain before | new := List.mem_append.mp member
    · exact ⟨changed, before, holds⟩
    · rw [List.mem_singleton.mp new] at holds
      have own : task.collisionSign = options.collisionSign := by
        obtain rfl | ⟨existing, rfl⟩ := made <;> rfl
      exact absurd (own.symm.trans ((sign?_of_isOf stored).symm.trans holds.1)) unpushed
  | _ =>
    obtain ⟨former, before, change⟩ := effect.exists_change distinct rfl member
    exact ⟨former, before, change.holds holds⟩

end StoredTask

end TaskAutomation
