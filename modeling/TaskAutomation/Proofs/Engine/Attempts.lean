import TaskAutomation.Engine.Simulated
import TaskAutomation.Proofs.Engine.Tally

/-!
This file counts attempts over whole histories of a queue in memory: pushes, purges, dispatches one
after the other, and whatever else happens to the host in between. At every moment, that is between
two dispatches or in the midst of one, every task of the queue has as many attempts as it has had
runs since its push or since its handler last asked for a later run, and no more than the decider
grants.
-/

namespace TaskAutomation

/-! ### Histories -/

/-- What happens to a host from outside of any run: a request, or a dispatch from beginning to
end. -/
inductive Happening where
  | asked (request : Request)
  | dispatched

/-- Where a host has come to, and the runs that have ended on the way. -/
structure Chronicle (State : Type) where
  ended : List EndedRun
  state : State

namespace TaskHost

variable {State : Type} (host : TaskHost State)

/-- The run that a dispatch from a state comes to, if a task is due then. -/
def endedRun? (dispatcher : Dispatcher) (state : State) : Option EndedRun :=
  match (host.perform (TaskRequest.ask (.claim dispatcher.topics (host.claimTime state))).run
    (host.answer .now state).2).1 with
  | some (.ok (some task)) =>
    (host.perform (dispatcher.outcome task (host.claimTime state))
      (host.afterClaim dispatcher.topics state)).1.map fun outcome => ⟨task.id, outcome.conclusion⟩
  | _ => none

/-- A host after one more thing has happened to it. -/
def after (dispatcher : Dispatcher) (past : Chronicle State) : Happening → Chronicle State
  | .asked request => ⟨past.ended, (host.answer request past.state).2⟩
  | .dispatched =>
    ⟨past.ended ++ (host.endedRun? dispatcher past.state).toList,
      (host.perform dispatcher.runOnce.run past.state).2⟩

/-- A host behind a history. -/
def follow (dispatcher : Dispatcher) (start : State) (history : List Happening) :
    Chronicle State :=
  history.foldl (host.after dispatcher) ⟨[], start⟩

end TaskHost

namespace PushHost

variable {State : Type} {host : PushHost State} {dispatcher : Dispatcher}
  {ended : List EndedRun} {state moment : State}

/-- One dispatch counts the run that it comes to. -/
theorem Tally.dispatched (positive : 1 ≤ dispatcher.decider.maxAttempts)
    (leaves : dispatcher.registry.LeavesRuns host.answer)
    (unique : (host.pushed (host.perform dispatcher.runOnce.run state).2).Nodup)
    (tally : host.Tally dispatcher.decider ended none state) :
    host.Tally dispatcher.decider (ended ++ (host.endedRun? dispatcher state).toList) none
      (host.perform dispatcher.runOnce.run state).2 := by
  obtain ⟨running, claim, claimed⟩ := tally.claimed dispatcher.topics
  cases running with
  | none =>
    have idle : host.endedRun? dispatcher state = none := by
      rw [TaskHost.endedRun?, TaskHost.perform, claim]
    rw [idle, Dispatcher.runOnce_of_idle claim, Option.toList_none, List.append_nil]
    exact claimed
  | some held =>
    obtain ⟨outcome, worked, ran⟩ := Dispatcher.exists_outcome host.answer dispatcher held
      (host.claimTime state) (host.afterClaim dispatcher.topics state)
    have asks := Dispatcher.asks_outcome leaves held (host.claimTime state)
      (host.afterClaim dispatcher.topics state)
    have one : host.endedRun? dispatcher state = some ⟨held.id, outcome.conclusion⟩ := by
      rw [TaskHost.endedRun?, TaskHost.perform, claim]
      show Option.map _ (Program.run host.answer _ _).1 = _
      rw [ran]
      rfl
    -- Whatever the dispatch does after the run, it has added no task before it that is lost.
    obtain ⟨rest, goesOn⟩ : ∃ rest : Work StoreFault (Option Task),
        host.perform dispatcher.runOnce.run state = rest.run.run host.answer worked :=
      ⟨_, (Work.run_bind (Work.run_time state)).trans
        ((Work.run_bind claim).trans (Work.run_bind (Work.run_ofProgram ran)))⟩
    have early : (host.pushed worked).Nodup := by
      rw [goesOn] at unique
      exact unique.sublist (host.pushed_prefix_run rest.run worked).sublist
    have known := claimed.worked positive asks (by rw [ran]; exact early)
    rw [ran] at known
    obtain ⟨final, written, applied, settled⟩ :=
      (known.timed).settled positive outcome (host.answer .now worked).1
    rw [one, Dispatcher.runOnce_of_claimed claim ran applied]
    exact settled

/-- In the midst of a dispatch the runs that have ended are those that had ended before it. -/
theorem Tally.underway (positive : 1 ≤ dispatcher.decider.maxAttempts)
    (leaves : dispatcher.registry.LeavesRuns host.answer)
    (underway : dispatcher.runOnce.run.Underway host.answer state moment)
    (unique : (host.pushed moment).Nodup) (tally : host.Tally dispatcher.decider ended none state) :
    ∃ running, host.Tally dispatcher.decider ended running moment := by
  obtain before | ⟨now, _, read, underway⟩ := Work.underway_of_bind underway
  · obtain rfl : moment = state := before.resolve_right id
    exact ⟨none, tally⟩
  cases (Work.run_time state).symm.trans read
  obtain ⟨running, claim, claimed⟩ := tally.claimed dispatcher.topics
  obtain before | ⟨found, _, asked, underway⟩ := Work.underway_of_bind underway
  · obtain rfl : moment = (host.answer .now state).2 := before.resolve_right id
    exact ⟨none, tally.timed⟩
  cases claim.symm.trans asked
  cases running with
  | none => exact absurd underway id
  | some held =>
    have asks := Dispatcher.asks_outcome leaves held (host.claimTime state)
      (host.afterClaim dispatcher.topics state)
    refine ⟨some held, ?_⟩
    obtain working | ⟨outcome, worked, finished, underway⟩ := Work.underway_of_bind underway
    · exact asks.underway
        (fun state => (host.pushed state).Nodup →
          host.Tally dispatcher.decider ended (some held) state)
        (fun request before leaves known => Tally.asked_of_unique positive leaves known)
        (fun _ => claimed) (Work.underway_ofProgram working) unique
    obtain ⟨_, _, ran⟩ := Dispatcher.exists_outcome host.answer dispatcher held
      (host.claimTime state) (host.afterClaim dispatcher.topics state)
    cases (Work.run_ofProgram ran).symm.trans finished
    have known := claimed.worked positive asks
    rw [ran] at known
    obtain before | ⟨finishedAt, _, read, underway⟩ := Work.underway_of_bind underway
    · obtain rfl := before.resolve_right id
      exact known unique
    cases (Work.run_time _).symm.trans read
    -- The decision is one request, before which nothing is written.
    obtain before | ⟨final, _, -, underway⟩ := Work.underway_of_bind underway
    · have last : moment = (host.answer .now worked).2 := by
        cases decided : dispatcher.decider.decide held outcome.conclusion
            (host.answer .now worked).1 <;> rw [decided] at before <;>
          exact before.resolve_right id
      subst last
      exact (known (unique.sublist (host.grows .now worked).sublist)).timed
    · exact absurd underway id

/-- What happens to a host counts the runs that end thereby. -/
theorem Tally.after (positive : 1 ≤ dispatcher.decider.maxAttempts)
    (leaves : dispatcher.registry.LeavesRuns host.answer) {happening : Happening}
    (quiet : ∀ request, happening = .asked request → request.LeavesRuns) {past : Chronicle State}
    (unique : (host.pushed (host.after dispatcher past happening).state).Nodup)
    (tally : host.Tally dispatcher.decider past.ended none past.state) :
    host.Tally dispatcher.decider (host.after dispatcher past happening).ended none
      (host.after dispatcher past happening).state := by
  cases happening with
  | asked request => exact tally.asked positive (quiet request rfl) unique
  | dispatched => exact tally.dispatched positive leaves unique

theorem pushed_prefix_after (past : Chronicle State) (happening : Happening) :
    host.pushed past.state <+: host.pushed (host.after dispatcher past happening).state := by
  cases happening with
  | asked request => exact host.grows request past.state
  | dispatched => exact host.pushed_prefix_run dispatcher.runOnce.run past.state

/-- A whole history counts the runs that end in it. -/
theorem Tally.follow (positive : 1 ≤ dispatcher.decider.maxAttempts)
    (leaves : dispatcher.registry.LeavesRuns host.answer) {history : List Happening}
    (quiet : ∀ request, .asked request ∈ history → request.LeavesRuns) {past : Chronicle State}
    (unique : (host.pushed (history.foldl (host.after dispatcher) past).state).Nodup)
    (tally : (host.pushed past.state).Nodup →
      host.Tally dispatcher.decider past.ended none past.state) :
    host.Tally dispatcher.decider (history.foldl (host.after dispatcher) past).ended none
      (history.foldl (host.after dispatcher) past).state := by
  induction history generalizing past with
  | nil => exact tally unique
  | cons happening later inductionHypothesis =>
    refine inductionHypothesis (fun request member => quiet request (.tail _ member)) unique
      fun soFar => ?_
    have before := soFar.sublist (pushed_prefix_after past happening).sublist
    exact (tally before).after positive leaves
      (fun request same => quiet request (same ▸ List.mem_cons_self)) soFar

/-- In every history of pushes, purges and dispatches of a queue that was empty, and in the midst
of its last dispatch, the attempts of every task are its runs, and no task has more of them than the
decider grants. -/
theorem counts_attempts (positive : 1 ≤ dispatcher.decider.maxAttempts)
    (leaves : dispatcher.registry.LeavesRuns host.answer) {start : State}
    (steady : host.Steady start) (empty : host.queue start = .memory .empty)
    {history : List Happening}
    (quiet : ∀ request, .asked request ∈ history → request.LeavesRuns)
    (reached : moment = (host.follow dispatcher start history).state ∨
      dispatcher.runOnce.run.Underway host.answer (host.follow dispatcher start history).state
        moment)
    (unique : (host.pushed moment).Nodup) :
    ∃ queue, host.queue moment = .memory queue ∧ ∀ task ∈ queue.tasks,
      WithinAttempts dispatcher.decider (host.follow dispatcher start history).ended task := by
  have begun : host.Tally dispatcher.decider [] none start :=
    .idle steady empty (.nil _ _)
  have tally (distinct : (host.pushed (host.follow dispatcher start history).state).Nodup) :
      host.Tally dispatcher.decider (host.follow dispatcher start history).ended none
        (host.follow dispatcher start history).state :=
    Tally.follow positive leaves quiet distinct fun _ => begun
  obtain ⟨running, -, queue, stored, tallied, -⟩ : ∃ running, host.Tally dispatcher.decider
      (host.follow dispatcher start history).ended running moment := by
    obtain rfl | underway := reached
    · exact ⟨none, tally unique⟩
    · exact (tally (unique.sublist (host.pushed_prefix_underway underway).sublist)).underway
        positive leaves underway unique
  exact ⟨queue, stored, fun task member => (tallied.standing task member).withinAttempts⟩

/-- A dispatcher that grants two attempts to a handler that always fails in a way that another
attempt may mend. -/
def failing : Dispatcher where
  registry := ⟨[(.triggerRun, fun _ _ => .pure (.failed (.transient "busy")))]⟩
  decider := ⟨.default, 2⟩
  topics := [defaultTopic]
  handlerTimeout := ⟨1000⟩
  pollInterval := ⟨0⟩

/-- A push, and two dispatches an hour apart. -/
def failingHistory : List Happening :=
  [.asked (.tasks (.push TaskKind.triggerRun.name (.list []) {})), .dispatched,
    .asked (.elapse ⟨3600000000000⟩), .dispatched]

/-- Where this leads from an empty queue. -/
def failingPast : Chronicle (World Logging) :=
  World.pushHost.follow failing
    (.start ⟨1, 0⟩ (.memory .empty) (fun _ => 0) ⟨fun _ _ => .ofNat 0, fun _ => 0⟩ ⟨⟩)
    failingHistory

/-- The task has failed with the second of its attempts. -/
theorem counts_attempts_failing :
    1 ≤ failing.decider.maxAttempts ∧ failing.registry.LeavesRuns (@World.answer Logging _) ∧
      (∀ request, .asked request ∈ failingHistory → request.LeavesRuns) ∧
      (World.pushHost.pushed failingPast.state).Nodup ∧
      (World.pushHost.queue failingPast.state).records.map
        (fun record => (record.attempt?, record.status?)) = [(some 2, some .error)] ∧
      ∃ queue, World.pushHost.queue failingPast.state = .memory queue ∧
        ∀ task ∈ queue.tasks, WithinAttempts failing.decider failingPast.ended task := by
  have positive : 1 ≤ failing.decider.maxAttempts := by decide
  have leaves : failing.registry.LeavesRuns (@World.answer Logging _) := by
    rintro _ member task now world
    obtain rfl := List.mem_singleton.mp member
    trivial
  have quiet : ∀ request, .asked request ∈ failingHistory → request.LeavesRuns := by
    intro request member
    simp only [failingHistory, List.mem_cons, Happening.asked.injEq, reduceCtorEq, false_or,
      List.not_mem_nil, or_false] at member
    obtain rfl | rfl := member
    · exact .push _ _ _
    · exact .spares _ nofun
  have unique : (World.pushHost.pushed failingPast.state).Nodup := by
    have single : (World.pushHost.pushed failingPast.state).length = 1 := by decide +kernel
    obtain ⟨id, pushed⟩ := List.length_eq_one_iff.mp single
    rw [pushed]
    exact List.nodup_singleton id
  have lost : (World.pushHost.queue failingPast.state).records.map
      (fun record => (record.attempt?, record.status?)) = [(some 2, some .error)] := by
    decide +kernel
  exact ⟨positive, leaves, quiet, unique, lost, @counts_attempts _ World.pushHost failing
    failingPast.state positive leaves _ (fun _ => rfl) rfl failingHistory quiet (Or.inl rfl) unique⟩

end PushHost

end TaskAutomation
