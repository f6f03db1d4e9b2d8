import TaskAutomation.Proofs.Task.Decision

/-!
This file counts the runs of a task. The runs that have ended form a list, and of those of one task
only the ones since its handler last asked for a later run count. Where a task stands then follows
from how these were concluded: all but the last have failed in a way that another attempt may mend
and have left room for one, and the last one says what became of the task. A claim and the operation
that settles it lead from one standing to the next, so a task that is not a watcher never has more
attempts than the decider grants, and it fails for want of attempts exactly with the last of them.
-/

namespace TaskAutomation

/-- A run of a task that has ended, and how. -/
structure EndedRun where
  task : TaskId
  conclusion : Conclusion
  deriving DecidableEq, Repr

/-- The conclusions of the runs of a task since its handler last asked for a later run. -/
def conclusionsOf (ended : List EndedRun) (id : TaskId) : List Conclusion :=
  ended.foldl (fun conclusions run =>
    if run.task ≠ id then conclusions
    else if run.conclusion.isLater then []
    else conclusions ++ [run.conclusion]) []

section

variable {ended : List EndedRun} {id : TaskId}

theorem conclusionsOf_append (ended : List EndedRun) (run : EndedRun) (id : TaskId) :
    conclusionsOf (ended ++ [run]) id =
      if run.task ≠ id then conclusionsOf ended id
      else if run.conclusion.isLater then []
      else conclusionsOf ended id ++ [run.conclusion] := by
  rw [conclusionsOf, List.foldl_append]
  rfl

theorem conclusionsOf_append_of_ne {run : EndedRun} (other : run.task ≠ id) :
    conclusionsOf (ended ++ [run]) id = conclusionsOf ended id := by
  rw [conclusionsOf_append, if_pos other]

theorem conclusionsOf_append_later {run : EndedRun} (own : run.task = id)
    (later : run.conclusion.isLater = true) : conclusionsOf (ended ++ [run]) id = [] := by
  rw [conclusionsOf_append, if_neg (not_not_intro own), if_pos later]

theorem conclusionsOf_append_own {run : EndedRun} (own : run.task = id)
    (last : run.conclusion.isLater = false) :
    conclusionsOf (ended ++ [run]) id = conclusionsOf ended id ++ [run.conclusion] := by
  rw [conclusionsOf_append, if_neg (not_not_intro own), if_neg (by rw [last]; decide)]

/-- A task of which no run has ended has no conclusions. -/
theorem conclusionsOf_eq_nil (none : ∀ run ∈ ended, run.task ≠ id) : conclusionsOf ended id = [] := by
  induction ended with
  | nil => rfl
  | cons run rest inductionHypothesis =>
    rw [conclusionsOf, List.foldl_cons, if_pos (none run List.mem_cons_self)]
    exact inductionHypothesis fun other member => none other (List.mem_cons_of_mem _ member)

end

/-- The run ended in a failure that another attempt may mend. -/
def Conclusion.IsRetryable (conclusion : Conclusion) : Prop :=
  ∃ failure, conclusion = .error failure ∧ failure.kind.isRetryable = true

/-- Unless a report makes a task pending again, it leaves the count of attempts as it is. -/
theorem QueueOperation.attempt_settlement_of_ne {operation : QueueOperation} {report : RunReport}
    {apply : Task → Task} (settles : operation.settlement? = some (report, apply)) (task : Task)
    (settled : (apply (task.absorb report)).status ≠ .pending) :
    (apply (task.absorb report)).attempt = task.attempt := by
  have same := task.attempt_absorb report
  cases operation <;> cases settles
  · exact same
  · exact same
  · exact absurd rfl settled

/-! ### The standing of a task -/

/-- Runs of a task that have failed in a way that another attempt may mend, and that have left room
for one. -/
structure Retried (decider : Decider) (task : Task) (conclusions : List Conclusion) : Prop where
  retryable : ∀ conclusion ∈ conclusions, conclusion.IsRetryable
  room : task.watcher = false → conclusions.length < decider.maxAttempts

/-- Where a task stands after its runs were concluded in some ways. -/
inductive Standing (decider : Decider) (task : Task) : List Conclusion → Prop
  | waiting (former : List Conclusion) (retried : Retried decider task former)
      (status : task.status = .pending) (attempt : task.attempt = former.length) :
      Standing decider task former
  | running (former : List Conclusion) (retried : Retried decider task former)
      (status : task.status = .process) (attempt : task.attempt = former.length + 1) :
      Standing decider task former
  | done (former : List Conclusion) (retried : Retried decider task former)
      (status : task.status = .done) (attempt : task.attempt = former.length + 1) :
      Standing decider task (former ++ [.done])
  | lost (former : List Conclusion) (retried : Retried decider task former) (failure : Failure)
      (final : failure.kind.isRetryable = false ∨
        task.watcher = false ∧ decider.maxAttempts ≤ task.attempt)
      (status : task.status = .error) (attempt : task.attempt = former.length + 1) :
      Standing decider task (former ++ [.error failure])
  | collided (status : task.status = .collision) (attempt : task.attempt = 0) :
      Standing decider task []

variable {decider : Decider} {task held final : Task} {conclusions : List Conclusion}

theorem Retried.nil (positive : 1 ≤ decider.maxAttempts) (task : Task) : Retried decider task [] :=
  ⟨nofun, fun _ => positive⟩

theorem Retried.congr (retried : Retried decider held conclusions)
    (same : final.watcher = held.watcher) : Retried decider final conclusions :=
  ⟨retried.retryable, fun watcher => retried.room (same.symm.trans watcher)⟩

theorem Retried.append (retried : Retried decider held conclusions)
    (same : final.watcher = held.watcher) (attempt : held.attempt = conclusions.length + 1)
    {failure : Failure} (further : ¬ decider.GivesUp held failure) :
    Retried decider final (conclusions ++ [.error failure]) := by
  obtain ⟨retryable, left⟩ := not_or.mp further
  refine ⟨fun conclusion member => ?_, fun watcher => ?_⟩
  · obtain former | last := List.mem_append.mp member
    · exact retried.retryable conclusion former
    · exact ⟨failure, List.mem_singleton.mp last, eq_true_of_ne_false retryable⟩
  · rw [List.length_append, List.length_singleton, ← attempt]
    exact Nat.not_le.mp fun reached => left ⟨same.symm.trans watcher, reached⟩

namespace Standing

/-- A task that is pushed stands at its beginning. -/
theorem new (positive : 1 ≤ decider.maxAttempts) (id : TaskId) (handler : String) (params : Json)
    (options : PushOptions) (now : Instant) :
    Standing decider (Task.new id handler params options now) [] :=
  .waiting [] (.nil positive _) rfl rfl

/-- A claim starts a run. -/
theorem claimed (standing : Standing decider held conclusions) (pending : held.status = .pending)
    (now : Instant) : Standing decider (held.claimed now) conclusions := by
  cases standing with
  | waiting _ retried _ attempt =>
    exact .running conclusions (retried.congr rfl) rfl (congrArg (· + 1) attempt)
  | running _ _ status | done _ _ status | lost _ _ _ _ status | collided status =>
    rw [pending] at status
    cases status

/-- The conclusion of a run decides where the task stands after it. -/
theorem settled (positive : 1 ≤ decider.maxAttempts) {ended : List EndedRun}
    (standing : Standing decider held (conclusionsOf ended held.id))
    (process : held.status = .process) (origin : held.SameOrigin final) {finishedAt : Instant}
    {conclusion : Conclusion} (attempt : final.status ≠ .pending → final.attempt = held.attempt)
    (settles : decider.Settles held finishedAt final conclusion) :
    Standing decider final (conclusionsOf (ended ++ [⟨held.id, conclusion⟩]) final.id) := by
  generalize known : conclusionsOf ended held.id = former at standing
  cases standing with
  | waiting _ _ status | done _ _ status | lost _ _ _ _ status | collided status =>
    rw [process] at status
    cases status
  | running _ retried _ count =>
    have earlier := retried.congr origin.watcher
    rw [origin.id]
    cases settles with
    | done status =>
      rw [conclusionsOf_append_own rfl rfl, known]
      exact .done _ earlier status ((attempt (by rw [status]; exact nofun)).trans count)
    | later time status _ fresh =>
      rw [conclusionsOf_append_later rfl rfl]
      exact .waiting [] (.nil positive final) status fresh
    | gaveUp failure lost status =>
      have same := attempt (by rw [status]; exact nofun)
      rw [conclusionsOf_append_own rfl rfl, known]
      refine .lost _ earlier failure ?_ status (same.trans count)
      rw [same, origin.watcher]
      exact lost
    | retried failure further status same =>
      rw [conclusionsOf_append_own rfl rfl, known]
      refine .waiting _ (retried.append origin.watcher count further) status ?_
      rw [same, count, List.length_append, List.length_singleton]

end Standing

/-! ### What a standing says -/

/-- The attempts of a task are its runs, of which it never has more than the decider grants. -/
structure WithinAttempts (decider : Decider) (ended : List EndedRun) (task : Task) : Prop where
  /-- A run that is under way counts. -/
  counted : task.attempt =
    (conclusionsOf ended task.id).length + if task.status = .process then 1 else 0
  bounded : task.watcher = false → task.attempt ≤ decider.maxAttempts ∧
    (task.status = .pending → task.attempt < decider.maxAttempts)
  /-- If all runs have failed in a way that another attempt may mend, the task fails with the last
  attempt that is granted and not before. -/
  exhausted : task.watcher = false → task.status ≠ .collision →
    (∀ conclusion ∈ conclusionsOf ended task.id, conclusion.IsRetryable) →
      (conclusionsOf ended task.id).length = decider.maxAttempts ∧ task.status = .error ∨
        (conclusionsOf ended task.id).length < decider.maxAttempts ∧
          (task.status = .pending ∨ task.status = .process)
  /-- A watcher fails only from a failure that no further attempt can mend. -/
  watched : task.watcher = true → task.status = .error →
    ∃ conclusion, (conclusionsOf ended task.id).getLast? = some conclusion ∧
      ¬ conclusion.IsRetryable

theorem not_isRetryable_error {failure : Failure} (final : failure.kind.isRetryable = false) :
    ¬ (Conclusion.error failure).IsRetryable := by
  rintro ⟨_, ⟨⟩, retryable⟩
  rw [final] at retryable
  cases retryable

theorem Standing.withinAttempts {ended : List EndedRun}
    (standing : Standing decider task (conclusionsOf ended task.id)) :
    WithinAttempts decider ended task := by
  generalize known : conclusionsOf ended task.id = conclusions at standing
  cases standing with
  | waiting _ retried status attempt =>
    refine ⟨?_, fun watcher => ?_, fun watcher _ _ => ?_, fun _ failed => ?_⟩
    · rw [known, attempt, if_neg (by rw [status]; exact nofun), Nat.add_zero]
    · rw [attempt]
      exact ⟨Nat.le_of_lt (retried.room watcher), fun _ => retried.room watcher⟩
    · rw [known]
      exact Or.inr ⟨retried.room watcher, Or.inl status⟩
    · rw [status] at failed
      cases failed
  | running _ retried status attempt =>
    refine ⟨?_, fun watcher => ?_, fun watcher _ _ => ?_, fun _ failed => ?_⟩
    · rw [known, attempt, if_pos status]
    · rw [attempt, status]
      exact ⟨retried.room watcher, nofun⟩
    · rw [known]
      exact Or.inr ⟨retried.room watcher, Or.inr status⟩
    · rw [status] at failed
      cases failed
  | done former retried status attempt =>
    refine ⟨?_, fun watcher => ?_, fun _ _ all => ?_, fun _ failed => ?_⟩
    · rw [known, attempt, if_neg (by rw [status]; exact nofun), List.length_append]
      rfl
    · rw [attempt, status]
      exact ⟨retried.room watcher, nofun⟩
    · rw [known] at all
      obtain ⟨failure, ⟨⟩, -⟩ := all .done (List.mem_append_right _ (List.mem_singleton.mpr rfl))
    · rw [status] at failed
      cases failed
  | lost former retried failure final status attempt =>
    refine ⟨?_, fun watcher => ?_, fun watcher _ all => ?_, fun watcher _ => ?_⟩
    · rw [known, attempt, if_neg (by rw [status]; exact nofun), List.length_append]
      rfl
    · rw [attempt, status]
      exact ⟨retried.room watcher, nofun⟩
    · rw [known] at all ⊢
      have retryable := all (.error failure)
        (List.mem_append_right _ (List.mem_singleton.mpr rfl))
      obtain lasting | ⟨-, reached⟩ := final
      · exact absurd retryable (not_isRetryable_error lasting)
      · rw [List.length_append, List.length_singleton, ← attempt]
        refine Or.inl ⟨Nat.le_antisymm ?_ reached, status⟩
        rw [attempt]
        exact retried.room watcher
    · rw [known, List.getLast?_append]
      refine ⟨.error failure, rfl, not_isRetryable_error ?_⟩
      obtain lasting | ⟨alone, -⟩ := final
      · exact lasting
      · rw [watcher] at alone
        cases alone
  | collided status attempt =>
    refine ⟨?_, fun _ => ?_, fun _ apart => absurd status apart, fun _ failed => ?_⟩
    · rw [known, attempt, status]
      rfl
    · rw [attempt, status]
      exact ⟨Nat.zero_le _, nofun⟩
    · rw [status] at failed
      cases failed

end TaskAutomation
