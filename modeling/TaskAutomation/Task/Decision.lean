import TaskAutomation.Task.Outcome
import TaskAutomation.Task.Retry

/-!
This file decides what becomes of a task after a run. An error that another attempt may mend leads
to another attempt after a delay, until a task that is not a watcher has used up its attempts.
-/

namespace TaskAutomation

/-- What becomes of a task. -/
inductive Decision where
  | complete
  | reschedule (time : Instant) (reason : String)
  | markError (reason : String)
  deriving DecidableEq, Repr, Inhabited

/-- Decides with a policy for delays and a bound on the attempts. -/
structure Decider where
  policy : RetryPolicy
  maxAttempts : Nat
  deriving DecidableEq, Repr, Inhabited

namespace Decider

/-- Five attempts with the usual delays. -/
def default : Decider := ⟨.default, 5⟩

/-- The decision on a task whose run ended at a given time. -/
def decide (decider : Decider) (task : Task) (conclusion : Conclusion) (now : Instant) : Decision :=
  match conclusion with
  | .done => .complete
  | .later time => .reschedule time "later"
  | .error failure =>
    if !failure.kind.isRetryable then .markError failure.message
    else if !task.watcher && decider.maxAttempts ≤ task.attempt then
      .markError (failure.message ++ " (max attempts reached: " ++ toString task.attempt ++ "/" ++
        toString decider.maxAttempts ++ ")")
    else
      .reschedule (decider.policy.nextRunAt task.attempt now)
        ("retry after " ++ (decider.policy.nextDelay task.attempt).text ++ ": " ++ failure.message)

end Decider

end TaskAutomation
