import TaskAutomation.Engine.Simulated
import TaskAutomation.Proofs.Engine.Course
import TaskAutomation.Proofs.Queue.History
import TaskAutomation.Proofs.Queue.Precedence

/-!
This file proves what one dispatch does to a queue in memory. If nothing is due it changes nothing.
Otherwise it claims the one task that is due first, and whatever course the run of this task takes,
one report settles it: the task does not stay in process, it becomes what the course leads to, and
no other task changes.
-/

namespace TaskAutomation

/-! ### The queue -/

namespace MemoryQueue

variable {queue : MemoryQueue} {held claimed : Task} {report : RunReport} {apply : Task → Task}

theorem find?_of_mem (distinct : (queue.tasks.map Task.id).Nodup) (member : held ∈ queue.tasks) :
    queue.find? held.id = some held := by
  cases looked : queue.find? held.id with
  | none => exact absurd rfl (find?_eq_none looked (.task held) (List.mem_map.mpr ⟨held, member, rfl⟩))
  | some other =>
    obtain ⟨inside, same⟩ := find?_eq_some looked
    rw [eq_of_id_eq distinct inside member same]

/-- Tasks keep their identifiers when one of them changes in its place. -/
theorem map_id_replace (tasks : List Task) {new : Task} (named : new.id = held.id) :
    (tasks.map fun task => if task.id = held.id then new else task).map Task.id =
      tasks.map Task.id := by
  rw [List.map_map]
  refine List.map_congr_left fun task _ => ?_
  show (if task.id = held.id then new else task).id = task.id
  split
  · next chosen => exact named.trans chosen.symm
  · rfl

/-- A report on a task in process settles this task and leaves the others alone. -/
theorem settle_member (distinct : (queue.tasks.map Task.id).Nodup) (member : held ∈ queue.tasks)
    (process : held.status = .process) (own : report.id = held.id)
    (kept : (apply (held.absorb report)).id = held.id) :
    ∃ changed, queue.settle report apply = (.ok (apply (held.absorb report)), changed) ∧
      changed.tasks = queue.tasks.map fun task =>
        if task.id = held.id then apply (held.absorb report) else task := by
  have found := find?_of_mem distinct member
  rw [← own] at found
  refine ⟨_, settle_process apply found process, ?_⟩
  -- A sign that is given back changes the index only.
  have tasks : (if (apply (held.absorb report)).status.isInFlight then
        queue.store (apply (held.absorb report))
      else (queue.store (apply (held.absorb report))).releaseSign
        (apply (held.absorb report))).tasks = (queue.store (apply (held.absorb report))).tasks := by
    split
    · rfl
    · exact releaseSign_tasks _ _
  rw [tasks, store_present _ _ member kept.symm, kept]

/-- A report on a task that was just claimed settles this task and leaves the others alone. -/
theorem settle_store (distinct : (queue.tasks.map Task.id).Nodup) (member : held ∈ queue.tasks)
    (same : claimed.id = held.id) (process : claimed.status = .process)
    (own : report.id = held.id) (kept : (apply (claimed.absorb report)).id = held.id) :
    ∃ changed, (queue.store claimed).settle report apply =
        (.ok (apply (claimed.absorb report)), changed) ∧
      changed.tasks = queue.tasks.map fun task =>
        if task.id = held.id then apply (claimed.absorb report) else task := by
  have stored := store_present queue claimed member same.symm
  rw [same] at stored
  have inside : claimed ∈ (queue.store claimed).tasks := by
    rw [stored]
    exact List.mem_map.mpr ⟨held, member, if_pos rfl⟩
  have ids : (queue.store claimed).tasks.map Task.id = queue.tasks.map Task.id := by
    rw [stored]
    exact map_id_replace queue.tasks same
  obtain ⟨changed, settled, tasks⟩ := settle_member (ids ▸ distinct) inside process
    (own.trans same.symm) (kept.trans same.symm)
  refine ⟨changed, settled, ?_⟩
  rw [tasks, stored, List.map_map, same]
  refine List.map_congr_left fun task _ => ?_
  show (if (if task.id = held.id then claimed else task).id = held.id then _ else _) = _
  by_cases chosen : task.id = held.id
  · rw [if_pos chosen, if_pos chosen, if_pos same]
  · simp only [if_neg chosen]

end MemoryQueue

theorem Backend.settle_memory {queue changed : MemoryQueue} {report : RunReport}
    {apply : Task → Task} {result : Except StoreFault Task}
    (settled : queue.settle report apply = (result, changed)) :
    (Backend.memory queue).settle report apply = (result, .memory changed) := by
  show ((queue.settle report apply).1, Backend.memory (queue.settle report apply).2) = _
  rw [settled]

/-! ### One dispatch -/

namespace TaskHost

variable {State : Type} (host : TaskHost State) {state : State}

/-- The time at which a dispatch claims. -/
def claimTime (state : State) : Instant := (host.answer .now state).1

/-- The state after the claim of a dispatch. -/
def afterClaim (topics : List String) (state : State) : State :=
  (host.answer (.tasks (.claim topics (host.claimTime state))) (host.answer .now state).2).2

/-- A decision is written back by one operation on the queue. -/
theorem apply_run (steady : host.Steady state) (report : RunReport) (decision : Decision) :
    ∃ settled apply changed,
      (decision.operation report).settlement? = some (settled, apply) ∧ settled.id = report.id ∧
        (Dispatcher.apply report decision).run.run host.answer state =
          (some ((host.queue state).settle settled apply).1, changed) ∧
        host.queue changed = ((host.queue state).settle settled apply).2 := by
  cases decision with
  | complete =>
    obtain ⟨reply, queue, -⟩ := host.serves (.complete report) _ state rfl steady
    exact ⟨report, _, _, rfl, rfl, congrArg (fun reply => (some reply, _)) reply, queue⟩
  | reschedule time reason =>
    obtain ⟨reply, queue, -⟩ := host.serves (.reschedule
      (if report.rearm then report else { report with info := report.info ++ [reason] }) time) _
        state rfl steady
    refine ⟨_, _, _, rfl, ?_, congrArg (fun reply => (some reply, _)) reply, queue⟩
    split <;> rfl
  | markError reason =>
    obtain ⟨reply, queue, -⟩ := host.serves (.fail report reason) _ state rfl steady
    exact ⟨report, _, _, rfl, rfl, congrArg (fun reply => (some reply, _)) reply, queue⟩

end TaskHost

namespace Dispatcher

open QueueOperation

variable {State : Type} {host : TaskHost State} {dispatcher : Dispatcher}
  {handlers : List (TaskKind × TypedHandler)} {past : List QueueOperation} {queue : MemoryQueue}
  {state : State}

/-- A dispatch found no task that was due. -/
structure Idle (host : TaskHost State) (dispatcher : Dispatcher) (queue : MemoryQueue)
    (state : State) : Prop where
  none : ∀ task ∈ queue.tasks, task.isDue dispatcher.topics (host.claimTime state) = false
  returned : (host.perform dispatcher.runOnce.run state).1 = some (.ok .none)
  unchanged : host.queue (host.perform dispatcher.runOnce.run state).2 = .memory queue

/-- A dispatch ran the task that was due first. Its run took a course to a state, and what the
course leads to was written back by one operation. -/
structure Ran (host : TaskHost State) (dispatcher : Dispatcher)
    (handlers : List (TaskKind × TypedHandler)) (past : List QueueOperation) (queue : MemoryQueue)
    (state : State) (before : Task) (course : RunCourse) (ended : State) (final : Task) : Prop where
  first : Task.IsFirstDue queue.tasks dispatcher.topics (host.claimTime state) before
  takes : course.Takes host.answer handlers dispatcher.handlerTimeout
    (before.claimed (host.claimTime state)) (host.claimTime state)
    (host.afterClaim dispatcher.topics state) ended
  leaves : course.Leaves dispatcher.decider (before.claimed (host.claimTime state))
    (host.answer .now ended).1 final
  returned : (host.perform dispatcher.runOnce.run state).1 = some (.ok (some final))
  others : ∃ changed, host.queue (host.perform dispatcher.runOnce.run state).2 = .memory changed ∧
    changed.tasks = queue.tasks.map fun task => if task.id = before.id then final else task
  once : ∃ operation report apply, operation.settlement? = some (report, apply) ∧
    report.id = before.id ∧
    host.queue (host.perform dispatcher.runOnce.run state).2 =
      ((Backend.empty .memory).run
        (past ++ [.claim dispatcher.topics (host.claimTime state), operation])).2

/-- What the claim of a dispatch gives. -/
theorem claim_run (steady : host.Steady state) (stored : host.queue state = .memory queue)
    (topics : List String) :
    (TaskRequest.ask (.claim topics (host.claimTime state))).run.run host.answer
        (host.answer .now state).2 =
          (some (.ok (queue.claim topics (host.claimTime state)).1), host.afterClaim topics state) ∧
      host.queue (host.afterClaim topics state) =
        .memory (queue.claim topics (host.claimTime state)).2 ∧
      host.Steady (host.afterClaim topics state) := by
  obtain ⟨same, calm⟩ := host.spares .now state nofun steady
  obtain ⟨reply, after, still⟩ := host.serves (.claim topics (host.claimTime state)) _
    (host.answer .now state).2 rfl calm
  rw [same, stored] at reply after
  exact ⟨congrArg (fun reply => (some reply, _)) reply, after, still⟩

theorem runOnce_of_idle {claimed : State}
    (claim : (TaskRequest.ask (.claim dispatcher.topics (host.claimTime state))).run.run host.answer
      (host.answer .now state).2 = (some (.ok none), claimed)) :
    host.perform dispatcher.runOnce.run state = (some (.ok none), claimed) :=
  (Work.run_bind (Work.run_time state)).trans (Work.run_bind claim)

theorem runOnce_of_claimed {claimed ended written : State} {held final : Task} {outcome : Outcome}
    (claim : (TaskRequest.ask (.claim dispatcher.topics (host.claimTime state))).run.run host.answer
      (host.answer .now state).2 = (some (.ok (some held)), claimed))
    (ran : (dispatcher.outcome held (host.claimTime state)).run host.answer claimed =
      (some outcome, ended))
    (applied : (apply (report held outcome (host.answer .now ended).1)
      (dispatcher.decider.decide held outcome.conclusion (host.answer .now ended).1)).run.run
        host.answer (host.answer .now ended).2 = (some (.ok final), written)) :
    host.perform dispatcher.runOnce.run state = (some (.ok (some final)), written) := by
  refine (Work.run_bind (Work.run_time state)).trans ((Work.run_bind claim).trans ?_)
  refine (Work.run_bind (Work.run_ofProgram ran)).trans ?_
  exact (Work.run_bind (Work.run_time ended)).trans (Work.run_bind applied)

/-- What the course of a run leads to was written back for the task that was claimed. -/
structure WroteBack (host : TaskHost State) (dispatcher : Dispatcher) (queue : MemoryQueue)
    (before : Task) (now : Instant) (course : RunCourse) (ended : State) (final : Task)
    (written : State) : Prop where
  leaves : course.Leaves dispatcher.decider (before.claimed now) (host.answer .now ended).1 final
  applied : (apply
    (report (before.claimed now) (course.outcome dispatcher.handlerTimeout before.handler)
      (host.answer .now ended).1)
    (dispatcher.decider.decide (before.claimed now)
      (course.outcome dispatcher.handlerTimeout before.handler).conclusion
        (host.answer .now ended).1)).run.run host.answer (host.answer .now ended).2 =
      (some (.ok final), written)
  others : ∃ changed, host.queue written = .memory changed ∧
    changed.tasks = queue.tasks.map fun task => if task.id = before.id then final else task
  once : ∃ operation report apply, operation.settlement? = some (report, apply) ∧
    report.id = before.id ∧
    host.queue written = ((Backend.memory (queue.store (before.claimed now))).step operation).2

theorem writes_back (dispatcher : Dispatcher) (course : RunCourse) {before : Task} {now : Instant}
    {ended : State} (distinct : (queue.tasks.map Task.id).Nodup) (member : before ∈ queue.tasks)
    (steady : host.Steady ended)
    (stored : host.queue ended = .memory (queue.store (before.claimed now))) :
    ∃ final written, dispatcher.WroteBack host queue before now course ended final written := by
  obtain ⟨same, ready⟩ := host.spares .now ended nofun steady
  obtain ⟨settled, apply, written, reports, own, applied, queued⟩ := host.apply_run ready
    (report (before.claimed now) (course.outcome dispatcher.handlerTimeout before.handler)
      (host.answer .now ended).1)
    (dispatcher.decider.decide (before.claimed now)
      (course.outcome dispatcher.handlerTimeout before.handler).conclusion
        (host.answer .now ended).1)
  have leaves := course.leaves dispatcher.decider dispatcher.handlerTimeout
    (host.answer .now ended).1 (Nat.succ_ne_zero before.attempt) reports
  obtain ⟨changed, answered, tasks⟩ := MemoryQueue.settle_store distinct member
    (rfl : (before.claimed now).id = before.id) rfl own leaves.origin.id
  have settle := Backend.settle_memory answered
  rw [same, stored, settle] at applied queued
  refine ⟨_, written, leaves, applied, ⟨changed, queued, tasks⟩, _, settled, apply, reports, own, ?_⟩
  rw [queued, Backend.step_settlement _ reports, settle]

/-- A dispatch either finds nothing due and changes nothing, or it runs the one task that is due
first, whatever course the run takes, and settles this task and no other. -/
theorem runs_first_due (registry : dispatcher.registry = .ofTyped handlers)
    (unique : (pushedIds past).Nodup)
    (reached : ((Backend.empty .memory).run past).2 = .memory queue)
    (stored : host.queue state = .memory queue) (steady : host.Steady state)
    (spares : ∀ before, Task.IsFirstDue queue.tasks dispatcher.topics (host.claimTime state) before →
      RunCourse.SparesQueue host.answer handlers dispatcher.handlerTimeout
        (before.claimed (host.claimTime state)) (host.claimTime state)
        (host.afterClaim dispatcher.topics state)) :
    dispatcher.Idle host queue state ∨
      ∃ before course ended final,
        dispatcher.Ran host handlers past queue state before course ended final := by
  have sound : ((Backend.empty .memory).run past).2.Sound [] :=
    (Backend.Sound.before .memory unique rfl).run
  rw [reached] at sound
  obtain ⟨claim, after, calm⟩ := claim_run steady stored dispatcher.topics
  cases due : nextDue? queue.tasks dispatcher.topics (host.claimTime state) with
  | none =>
    rw [MemoryQueue.claim_idle due] at claim after
    have ran := runOnce_of_idle claim
    exact Or.inl ⟨isDue_eq_false_of_nextDue? due, by rw [ran], by rw [ran]; exact after⟩
  | some before =>
    have first := Task.isFirstDue_of_nextDue? due
    rw [MemoryQueue.claim_due due] at claim after
    obtain ⟨course, ended, takes⟩ := RunCourse.exists_takes host.answer handlers
      dispatcher.handlerTimeout (before.claimed (host.claimTime state)) (host.claimTime state)
      (host.afterClaim dispatcher.topics state)
    -- Behind the run the queue is still as the claim has left it.
    obtain ⟨kept, still⟩ := takes.spared (spares before first) calm
    obtain ⟨final, written, wrote⟩ := writes_back dispatcher course
      (MemoryQueue.nodup_ids sound.distinct) first.member still (kept.trans after)
    have ran := runOnce_of_claimed claim (takes.run_outcome registry) wrote.applied
    obtain ⟨operation, report, apply, reports, own, queued⟩ := wrote.once
    refine Or.inr ⟨before, course, ended, final, first, takes, wrote.leaves, by rw [ran],
      by rw [ran]; exact wrote.others, operation, report, apply, reports, own, ?_⟩
    rw [ran, queued, Backend.run_append, reached, Backend.run_cons, Backend.run_cons]
    show _ = ((Backend.memory (queue.claim _ _).2).step operation).2
    rw [MemoryQueue.claim_due due]

/-- A handler that never ends. -/
def endlessHandler : TypedHandler := ⟨Json, .ok, fun _ => Work.ofProgram .hang⟩

/-- A dispatcher with this handler only. -/
def endless : Dispatcher where
  registry := .ofTyped [(.triggerRun, endlessHandler)]
  decider := .default
  topics := [defaultTopic]
  handlerTimeout := ⟨1000⟩
  pollInterval := ⟨0⟩

/-- A task for the handler. -/
def endlessTask : Task := Task.new ⟨.ofNat 1⟩ TaskKind.triggerRun.name (.list []) {} ⟨0, 0⟩

/-- A history that pushes the task. -/
def endlessPast : List QueueOperation :=
  [.push endlessTask.id ⟨0, 0⟩ endlessTask.handler endlessTask.params {}]

/-- A world behind that history. -/
def endlessWorld : World Logging :=
  .start ⟨1, 0⟩ (.memory ⟨[endlessTask], []⟩) (fun _ => 0) ⟨fun _ _ => .ofNat 0, fun _ => 0⟩ ⟨⟩

theorem runs_first_due_endless :
    (pushedIds endlessPast).Nodup ∧
      ((Backend.empty .memory).run endlessPast).2 = .memory ⟨[endlessTask], []⟩ ∧
      ∃ final, (endlessWorld.perform endless.runOnce.run).1 = some (.ok (some final)) ∧
        final.status = .pending ∧ final.attempt = 1 := by
  have unique : (pushedIds endlessPast).Nodup := by decide
  have reached : ((Backend.empty .memory).run endlessPast).2 = .memory ⟨[endlessTask], []⟩ := rfl
  have resolved : TaskRegistry.typed? [(.triggerRun, endlessHandler)] endlessTask.handler =
      some endlessHandler := rfl
  refine ⟨unique, reached, ?_⟩
  obtain idle | ⟨before, course, ended, final, ran⟩ :=
    @runs_first_due _ World.host endless _ _ _ endlessWorld rfl unique reached rfl (fun _ => rfl)
      fun before first typed params known read => by
        obtain rfl := List.mem_singleton.mp first.member
        obtain rfl := Option.some.inj (resolved.symm.trans known)
        trivial
  · exact absurd (idle.none endlessTask (List.mem_singleton.mpr rfl)) (by decide)
  · obtain rfl := List.mem_singleton.mp ran.first.member
    obtain rfl : course = .timedOut := by
      cases ran.takes with
      | unhandled unknown => cases resolved.symm.trans unknown
      | unstarted => rfl
      | refused typed known length invalid read =>
        obtain rfl := Option.some.inj (resolved.symm.trans known)
        cases read
      | worked typed known length params read ending changed ran =>
        obtain rfl := Option.some.inj (resolved.symm.trans known)
        cases ran
        rfl
    have running : ¬ RunCourse.IsFinal endless.decider
        (endlessTask.claimed (World.host.claimTime endlessWorld)) .timedOut := by
      rintro (_ | _ | ⟨_, fails⟩ | ⟨_, _, _, _, _, reached⟩)
      · cases fails
      · exact absurd reached (by decide)
    have unended (conclusion : Conclusion) : ¬ RunCourse.timedOut.Concludes conclusion := nofun
    obtain ⟨pending, attempt, -⟩ := ran.leaves.retried (unended _) (fun _ => unended _) running
    exact ⟨final, ran.returned, pending, attempt⟩

end Dispatcher

end TaskAutomation
