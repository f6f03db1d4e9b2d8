import TaskAutomation.Proofs.Task.Origin
import TaskAutomation.Proofs.Time.Forward
import TaskAutomation.Task.Decision

/-!
This file proves what a decision makes of a task. The decider gives a task up after a failure that no
further attempt can mend, or once a task that is not a watcher has used up its attempts, and after
any other failure it asks for a further attempt. The operation that writes its decision back then
leaves the task as the conclusion of the run asks for.
-/

namespace TaskAutomation

/-! ### Decisions -/

namespace Decider

variable {decider : Decider} {held : Task} {finishedAt : Instant}

/-- A failure is the end of a task. -/
def GivesUp (decider : Decider) (held : Task) (failure : Failure) : Prop :=
  failure.kind.isRetryable = false ∨ held.watcher = false ∧ decider.maxAttempts ≤ held.attempt

/-- What is decided on a run that ended at a time. -/
inductive Decides (decider : Decider) (held : Task) (finishedAt : Instant) :
    Conclusion → Decision → Prop
  | done : Decides decider held finishedAt .done .complete
  | later (time : Instant) (reason : String) :
      Decides decider held finishedAt (.later time) (.reschedule time reason)
  | gaveUp (failure : Failure) (reason : String) (final : decider.GivesUp held failure) :
      Decides decider held finishedAt (.error failure) (.markError reason)
  | retried (failure : Failure) (reason : String) (further : ¬ decider.GivesUp held failure) :
      Decides decider held finishedAt (.error failure)
        (.reschedule (decider.policy.nextRunAt held.attempt finishedAt) reason)

theorem decides (decider : Decider) (held : Task) (conclusion : Conclusion)
    (finishedAt : Instant) :
    Decides decider held finishedAt conclusion (decider.decide held conclusion finishedAt) := by
  cases conclusion with
  | done => exact .done
  | later time => exact .later time _
  | error failure =>
    simp only [decide]
    split
    · next final =>
      exact .gaveUp failure _ (Or.inl (Bool.not_eq_true' _ ▸ final))
    · next retryable =>
      split
      · next final =>
        simp only [Bool.and_eq_true, Bool.not_eq_true', decide_eq_true_eq] at final
        exact .gaveUp failure _ (Or.inr final)
      · next left =>
        refine .retried failure _ ?_
        simp only [Bool.and_eq_true, Bool.not_eq_true', decide_eq_true_eq] at left retryable
        exact not_or.mpr ⟨retryable, left⟩

end Decider

namespace Decision

/-- The lines that say why a task becomes what its run did not ask for. -/
def reasons (decision : Decision) (rearm : Bool) : List String :=
  match decision with
  | complete => []
  | reschedule _ reason => if rearm then [] else [reason]
  | markError reason => [reason]

theorem length_reasons_le (decision : Decision) (rearm : Bool) :
    (decision.reasons rearm).length ≤ 1 := by
  cases decision <;> cases rearm <;> first | exact Nat.zero_le 1 | exact Nat.le_refl 1

/-- The operation that writes a decision back. -/
def operation (report : RunReport) : Decision → QueueOperation
  | complete => .complete report
  | reschedule time reason =>
    .reschedule (if report.rearm then report else { report with info := report.info ++ [reason] })
      time
  | markError reason => .fail report reason

variable {decision : Decision} {report settled : RunReport} {apply : Task → Task}

theorem params_settled (settles : (decision.operation report).settlement? = some (settled, apply))
    (held : Task) : (apply (held.absorb settled)).params = report.params.getD held.params := by
  cases decision <;> cases settles <;> rw [Task.absorb_eq]
  · rfl
  · show Option.getD (RunReport.params (if report.rearm then _ else _)) _ = _
    split <;> rfl
  · rfl

theorem info_settled (settles : (decision.operation report).settlement? = some (settled, apply))
    (held : Task) :
    (apply (held.absorb settled)).info =
      (report.info ++ decision.reasons report.rearm).foldl Task.appendLine held.info := by
  cases decision <;> cases settles <;> rw [Task.absorb_eq]
  · rw [reasons, List.append_nil]
    rfl
  · next time reason =>
    show (RunReport.info (if report.rearm then _ else _)).foldl Task.appendLine held.info = _
    unfold reasons
    split
    · rw [List.append_nil]
    · rfl
  · rw [reasons, List.foldl_append]
    rfl

end Decision

namespace Decider

variable {decider : Decider} {held final : Task} {finishedAt : Instant} {conclusion : Conclusion}
  {decision : Decision} {report settled : RunReport} {apply : Task → Task}

/-- What a conclusion makes of a task that was claimed. -/
inductive Settles (decider : Decider) (held : Task) (finishedAt : Instant) (final : Task) :
    Conclusion → Prop
  | done (status : final.status = .done) : Settles decider held finishedAt final .done
  | later (time : Instant) (status : final.status = .pending) (startAt : final.startAt = time)
      (attempt : final.attempt = 0) : Settles decider held finishedAt final (.later time)
  | gaveUp (failure : Failure) (lost : decider.GivesUp held failure)
      (status : final.status = .error) : Settles decider held finishedAt final (.error failure)
  | retried (failure : Failure) (further : ¬ decider.GivesUp held failure)
      (status : final.status = .pending) (attempt : final.attempt = held.attempt)
      (startAt : final.startAt = decider.policy.nextRunAt held.attempt finishedAt) :
      Settles decider held finishedAt final (.error failure)

/-- The operation that writes a decision back makes of the task what the conclusion asks for. -/
theorem Decides.settles (decides : decider.Decides held finishedAt conclusion decision)
    (rearm : report.rearm = conclusion.isLater)
    (written : (decision.operation report).settlement? = some (settled, apply)) :
    decider.Settles held finishedAt (apply (held.absorb settled)) conclusion := by
  have attempt := held.attempt_absorb settled
  cases decides with
  | done =>
    cases written
    exact .done rfl
  | later time reason =>
    cases written
    refine .later time rfl rfl ?_
    simp only [Task.reschedule, rearm, Conclusion.isLater, if_true]
  | gaveUp failure reason lost =>
    cases written
    exact .gaveUp failure lost rfl
  | retried failure reason further =>
    cases written
    refine .retried failure further rfl ?_ rfl
    simp only [Task.reschedule, rearm, Conclusion.isLater, Bool.false_eq_true, if_false] at attempt ⊢
    exact attempt

/-- A reason is given if and only if the run ended in an error. -/
theorem Decides.reasons_eq_nil_iff (decides : decider.Decides held finishedAt conclusion decision) :
    decision.reasons conclusion.isLater = [] ↔ ∀ failure, conclusion ≠ .error failure := by
  cases decides with
  | done | later => exact iff_of_true rfl nofun
  | gaveUp failure | retried failure => exact iff_of_false nofun fun good => good failure rfl

namespace Settles

variable (settles : decider.Settles held finishedAt final conclusion)

include settles

theorem done_iff : final.status = .done ↔ conclusion = .done := by cases settles <;> simp [*]

/-- A task that was claimed has an attempt, and only a later run that is asked for takes it away. -/
theorem later_iff (attempted : held.attempt ≠ 0) (time : Instant) :
    (final.status = .pending ∧ final.startAt = time ∧ final.attempt = 0) ↔
      conclusion = .later time := by
  cases settles <;> simp [*]

theorem error_iff :
    final.status = .error ↔ ∃ failure, conclusion = .error failure ∧ decider.GivesUp held failure := by
  cases settles <;> simp [*]

theorem of_not_giveUp {failure : Failure} (concluded : conclusion = .error failure)
    (further : ¬ decider.GivesUp held failure) :
    final.status = .pending ∧ final.attempt = held.attempt ∧
      (finishedAt ≤ final.startAt ∨ final.startAt = Instant.max) := by
  cases settles with
  | done | later => cases concluded
  | gaveUp own lost =>
    cases concluded
    exact absurd lost further
  | retried own _ status attempt startAt =>
    rw [startAt]
    exact ⟨status, attempt, decider.policy.le_nextRunAt held.attempt finishedAt⟩

end Settles

end Decider

end TaskAutomation
