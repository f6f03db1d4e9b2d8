import TaskAutomation.Proofs.Engine.Dispatch
import TaskAutomation.Proofs.Engine.Underway
import TaskAutomation.Proofs.Task.Attempts

/-!
This file counts the attempts of the tasks of a queue in memory along one dispatch. Pushes and
purges leave all tasks where their runs have led them, and so does everything that is not a request
to the queue. A claim starts a run of one task, the handler of which may push and purge while it
works, and the operation that writes the decision back counts this run among those that have ended.
-/

namespace TaskAutomation

/-! ### Requests that leave runs alone -/

/-- The request neither starts a run of a task nor ends one or takes it back: it is not one to the
queue at all, a push or a purge. -/
inductive Request.LeavesRuns : Request → Prop
  | spares (request : Request) (spares : request.SparesQueue) : LeavesRuns request
  | push (handler : String) (params : Json) (options : PushOptions) :
      LeavesRuns (.tasks (.push handler params options))
  | purge (before : Instant) : LeavesRuns (.tasks (.purge before))

/-- No handler makes another request to the queue than a push or a purge. -/
def TaskRegistry.LeavesRuns {State : Type} (registry : TaskRegistry)
    (answer : (request : Request) → State → request.Reply × State) : Prop :=
  ∀ entry ∈ registry.entries, ∀ task now state,
    (entry.2 task now).Asks answer Request.LeavesRuns state

namespace Dispatcher

variable {State : Type} {answer : (request : Request) → State → request.Reply × State}
  {dispatcher : Dispatcher}

theorem mem_of_resolveName {registry : TaskRegistry} {name : String} {kind : TaskKind}
    {handler : Handler} (resolved : registry.resolveName name = .ok (kind, handler)) :
    (kind, handler) ∈ registry.entries := by
  unfold TaskRegistry.resolveName at resolved
  split at resolved
  · next found known =>
    cases resolved
    obtain ⟨named, -, looked⟩ := Option.bind_eq_some_iff.mp known
    obtain ⟨other, listed, same⟩ := Option.map_eq_some_iff.mp looked
    cases same
    exact Registry.mem_of_find? listed
  · cases resolved

/-- A run makes no request that no handler makes. -/
theorem asks_outcome {allowed : Request → Prop}
    (asks : ∀ entry ∈ dispatcher.registry.entries, ∀ task now state,
      (entry.2 task now).Asks answer allowed state) (task : Task) (now : Instant) (state : State) :
    (dispatcher.outcome task now).Asks answer allowed state := by
  unfold outcome
  split
  · next kind handler resolved =>
    show (if _ then _ else _ : Program Outcome).Asks answer allowed state
    split
    · trivial
    · exact ((asks _ (mem_of_resolveName resolved) task now state).within _).bind fun _ _ => trivial
  · trivial

/-- A pass through the queue makes no request but those of its handlers, looks at the clock, and
requests to the queue that push nothing. -/
theorem asks_runOnce {allowed : Request → Prop}
    (asks : ∀ entry ∈ dispatcher.registry.entries, ∀ task now state,
      (entry.2 task now).Asks answer allowed state) (time : allowed .now)
    (queue : ∀ own : TaskRequest, (∀ handler params options, own ≠ .push handler params options) →
      allowed (.tasks own))
    (state : State) : dispatcher.runOnce.run.Asks answer allowed state := by
  refine Work.asks_bind ⟨time, trivial⟩ fun now state => ?_
  refine Work.asks_bind ⟨queue _ nofun, trivial⟩ fun claimed state => ?_
  cases claimed with
  | none => trivial
  | some task =>
    have works := asks_outcome asks task now state
    refine Work.asks_bind (Work.asks_ofProgram works) fun outcome state => ?_
    refine Work.asks_bind ⟨time, trivial⟩ fun finishedAt state => ?_
    refine Work.asks_bind ?_ fun _ _ => trivial
    cases dispatcher.decider.decide task outcome.conclusion finishedAt <;>
      exact ⟨queue _ nofun, trivial⟩

/-- A run comes to an outcome, whatever its handler does. -/
theorem exists_outcome (answer : (request : Request) → State → request.Reply × State)
    (dispatcher : Dispatcher) (task : Task) (now : Instant) (state : State) :
    ∃ outcome changed, (dispatcher.outcome task now).run answer state = (some outcome, changed) := by
  unfold outcome
  split
  · next kind handler resolved =>
    by_cases none : dispatcher.handlerTimeout.nanos = 0
    · refine ⟨.failed (timeoutFailure dispatcher.handlerTimeout), state, ?_⟩
      show (if _ then _ else _ : Program Outcome).run answer state = _
      rw [if_pos none]
      rfl
    · obtain ⟨ending, ran⟩ := Program.run_within answer dispatcher.handlerTimeout.nanos
        (handler task now) state
      refine ⟨outcomeOf dispatcher.handlerTimeout ending,
        (((handler task now).within dispatcher.handlerTimeout.nanos).run answer state).2, ?_⟩
      show (if _ then _ else _ : Program Outcome).run answer state = _
      rw [if_neg none, Program.run_bind_of_run ran]
      rfl
  · exact ⟨_, _, rfl⟩

end Dispatcher

/-! ### Hosts that take pushes -/

/-- Where programs reach a task queue and may add tasks to it. -/
structure PushHost (State : Type) extends TaskHost State where
  /-- The identifiers of the tasks that were added, in order. -/
  pushed : State → List TaskId
  grows : ∀ request state, pushed state <+: pushed (answer request state).2
  pushes : ∀ handler params options state, Steady state → ∃ id now,
    (answer (.tasks (.push handler params options)) state).1 =
        ((queue state).push id now handler params options).1 ∧
      queue (answer (.tasks (.push handler params options)) state).2 =
        ((queue state).push id now handler params options).2 ∧
      (((queue state).push id now handler params options).1.isOk = true →
        pushed (answer (.tasks (.push handler params options)) state).2 = pushed state ++ [id]) ∧
      Steady (answer (.tasks (.push handler params options)) state).2

namespace World

variable {State : Type}

theorem prefix_append_if {α : Type} (accepted : Bool) (items more : List α) :
    items <+: if accepted then items ++ more else items := by
  cases accepted
  · exact List.prefix_rfl
  · exact List.prefix_append _ _

theorem pushed_prefix_answerTasks (world : World State) (request : TaskRequest) :
    world.pushed <+: (world.answerTasks request).2.pushed := by
  cases request with
  | push handler params options => exact prefix_append_if _ _ _
  | claim | complete | fail | reschedule | reap | purge => exact List.prefix_rfl

variable [Outside State]

theorem pushed_prefix_answer (request : Request) (world : World State) :
    world.pushed <+: (answer request world).2.pushed := by
  cases request with
  | now | elapse | fresh | outside => exact List.prefix_rfl
  | tasks own =>
    have same : (world.takeFault own.gate).2.pushed = world.pushed := rfl
    simp only [answer]
    split
    · next verdict =>
      rw [verdict] at same
      exact same ▸ List.prefix_rfl
    · next verdict =>
      rw [verdict] at same
      exact same ▸ pushed_prefix_answerTasks _ own
  | automate own =>
    have same : (world.takeFault own.gate).2.pushed = world.pushed := rfl
    simp only [answer]
    split
    · next verdict =>
      rw [verdict] at same
      exact same ▸ List.prefix_rfl
    · next verdict =>
      rw [verdict] at same
      rw [← same]
      cases own <;> exact List.prefix_rfl

/-- A world takes pushes. -/
def pushHost : PushHost (World State) where
  toTaskHost := host
  pushed := pushed
  grows := pushed_prefix_answer
  pushes handler params options world faultless := by
    show ∃ id now, (answer (.tasks (.push handler params options)) world).1 = _ ∧ _
    rw [show host.answer = answer from rfl, answer_tasks _ (faultless (.push handler params options))]
    exact ⟨_, _, rfl, rfl, fun accepted => if_pos accepted, faultless⟩

end World

/-! ### Queues whose attempts are counted -/

/-- The tasks of a queue stand where their runs have led them. -/
structure Tallied (decider : Decider) (pushed : List TaskId) (ended : List EndedRun)
    (tasks : List Task) : Prop where
  distinct : (tasks.map Task.id).Nodup
  known : ∀ task ∈ tasks, task.id ∈ pushed
  logged : ∀ run ∈ ended, run.task ∈ pushed
  standing : ∀ task ∈ tasks, Standing decider task (conclusionsOf ended task.id)

namespace Tallied

variable {decider : Decider} {pushed : List TaskId} {ended : List EndedRun} {tasks : List Task}

/-- A queue without tasks. -/
theorem nil (decider : Decider) (pushed : List TaskId) : Tallied decider pushed [] [] :=
  ⟨List.nodup_nil, fun _ member => absurd member List.not_mem_nil,
    fun _ member => absurd member List.not_mem_nil, fun _ member => absurd member List.not_mem_nil⟩

theorem mono {more : List TaskId} (tallied : Tallied decider pushed ended tasks)
    (grows : pushed <+: more) : Tallied decider more ended tasks :=
  ⟨tallied.distinct, fun task member => grows.subset (tallied.known task member),
    fun run member => grows.subset (tallied.logged run member), tallied.standing⟩

/-- A task with a new identifier has had no runs. -/
theorem append {id : TaskId} {task : Task} (tallied : Tallied decider pushed ended tasks)
    (fresh : id ∉ pushed) (named : task.id = id) (standing : Standing decider task []) :
    Tallied decider (pushed ++ [id]) ended (tasks ++ [task]) := by
  refine ⟨?_, fun other member => ?_, fun run member =>
    List.mem_append_left _ (tallied.logged run member), fun other member => ?_⟩
  · rw [List.map_append, List.map_singleton, named]
    refine List.nodup_append.mpr ⟨tallied.distinct, List.nodup_singleton id, ?_⟩
    rintro _ before _ new rfl
    obtain ⟨other, inside, rfl⟩ := List.mem_map.mp before
    exact fresh (List.mem_singleton.mp new ▸ tallied.known other inside)
  · obtain before | new := List.mem_append.mp member
    · exact List.mem_append_left _ (tallied.known other before)
    · obtain rfl := List.mem_singleton.mp new
      exact List.mem_append_right _ (List.mem_singleton.mpr named)
  · obtain before | new := List.mem_append.mp member
    · exact tallied.standing other before
    · obtain rfl := List.mem_singleton.mp new
      have unrun : ∀ run ∈ ended, run.task ≠ other.id := fun run logged same =>
        fresh (named ▸ same ▸ tallied.logged run logged)
      rw [conclusionsOf_eq_nil unrun]
      exact standing

theorem filter (tallied : Tallied decider pushed ended tasks) (kept : Task → Bool) :
    Tallied decider pushed ended (tasks.filter kept) :=
  ⟨tallied.distinct.sublist (List.filter_sublist.map Task.id),
    fun task member => tallied.known task (List.mem_of_mem_filter member), tallied.logged,
    fun task member => tallied.standing task (List.mem_of_mem_filter member)⟩

/-- One task changes, and only its runs are counted anew. -/
theorem replace {held new : Task} {others : List EndedRun}
    (tallied : Tallied decider pushed ended tasks) (named : new.id = held.id)
    (logged : ∀ run ∈ others, run.task ∈ pushed)
    (same : ∀ id, id ≠ held.id → conclusionsOf others id = conclusionsOf ended id)
    (standing : Standing decider new (conclusionsOf others new.id)) :
    Tallied decider pushed others
      (tasks.map fun task => if task.id = held.id then new else task) := by
  have ids := MemoryQueue.map_id_replace tasks named
  refine ⟨ids ▸ tallied.distinct, fun task member => ?_, logged, fun task member => ?_⟩
  · have inside : task.id ∈ tasks.map Task.id := ids ▸ List.mem_map.mpr ⟨task, member, rfl⟩
    obtain ⟨former, before, equal⟩ := List.mem_map.mp inside
    exact equal ▸ tallied.known former before
  · obtain ⟨former, before, rfl⟩ := List.mem_map.mp member
    split
    · exact standing
    · next other =>
      rw [same former.id other]
      exact tallied.standing former before

end Tallied

/-- A push with a new identifier adds one task behind all others. -/
theorem MemoryQueue.push_tasks {queue : MemoryQueue} {id : TaskId} (now : Instant)
    (handler : String) (params : Json) (options : PushOptions)
    (fresh : ∀ held ∈ queue.tasks, held.id ≠ id) :
    ∃ task, (queue.push id now handler params options).2.tasks = queue.tasks ++ [task] ∧
      (task = Task.new id handler params options now ∨
        ∃ existing, task = (Task.new id handler params options now).collide existing) := by
  cases signed : options.collisionSign with
  | none =>
    rw [push_unsigned now handler params fresh signed]
    exact ⟨_, rfl, Or.inl rfl⟩
  | some sign =>
    cases held : queue.holder? sign with
    | none =>
      rw [push_free now handler params fresh signed held]
      exact ⟨_, rfl, Or.inl rfl⟩
    | some existing =>
      rw [push_held now handler params fresh signed held]
      exact ⟨_, rfl, Or.inr ⟨existing, rfl⟩⟩

/-- A decision that is written back leaves no call of the queue about to fail. -/
theorem TaskHost.steady_apply {State : Type} (host : TaskHost State) {state : State}
    (steady : host.Steady state) (report : RunReport) (decision : Decision) :
    host.Steady ((Dispatcher.apply report decision).run.run host.answer state).2 := by
  cases decision with
  | complete => exact (host.serves (.complete report) _ state rfl steady).2.2
  | reschedule time reason => exact (host.serves (.reschedule _ time) _ state rfl steady).2.2
  | markError reason => exact (host.serves (.fail report reason) _ state rfl steady).2.2

namespace PushHost

variable {State : Type} {host : PushHost State} {dispatcher : Dispatcher} {decider : Decider}
  {ended : List EndedRun} {running : Option Task} {held : Task} {state moment : State}

/-- The queue of a host is in memory, its attempts are counted, and the task that is being run, if
there is one, is in process. -/
structure Tally (host : PushHost State) (decider : Decider) (ended : List EndedRun)
    (running : Option Task) (state : State) : Prop where
  steady : host.Steady state
  tallied : ∃ queue, host.queue state = .memory queue ∧
    Tallied decider (host.pushed state) ended queue.tasks ∧
      ∀ held ∈ running, held ∈ queue.tasks ∧ held.status = .process

/-- A queue whose attempts are counted while no task of it is being run. -/
theorem Tally.idle {queue : MemoryQueue} (steady : host.Steady state)
    (stored : host.queue state = .memory queue)
    (tallied : Tallied decider (host.pushed state) ended queue.tasks) :
    host.Tally decider ended none state :=
  ⟨steady, queue, stored, tallied, fun held running => absurd running (Option.not_mem_none held)⟩

theorem pushed_prefix_run {α : Type} (host : PushHost State) (program : Program α) (state : State) :
    host.pushed state <+: host.pushed (program.run host.answer state).2 := by
  induction program generalizing state with
  | pure a => exact List.prefix_rfl
  | call request next inductionHypothesis =>
    exact (host.grows request state).trans (inductionHypothesis _ _)
  | sleep delay next inductionHypothesis => exact inductionHypothesis _
  | hang => exact List.prefix_rfl
  | panic message => exact List.prefix_rfl

theorem pushed_prefix_underway {α : Type} (host : PushHost State) {program : Program α}
    {state moment : State} (underway : program.Underway host.answer state moment) :
    host.pushed state <+: host.pushed moment := by
  induction program generalizing state with
  | pure a => exact absurd underway id
  | call request next inductionHypothesis =>
    obtain rfl | later := underway
    · exact List.prefix_rfl
    · exact (host.grows request state).trans (inductionHypothesis _ later)
  | sleep delay next inductionHypothesis =>
    obtain rfl | later := underway
    · exact List.prefix_rfl
    · exact inductionHypothesis later
  | hang => exact underway ▸ List.prefix_rfl
  | panic message => exact absurd underway id

/-- A request that leaves runs alone leaves all tasks where they stand. -/
theorem Tally.asked (positive : 1 ≤ decider.maxAttempts) {request : Request}
    (leaves : request.LeavesRuns) (unique : (host.pushed (host.answer request state).2).Nodup)
    (tally : host.Tally decider ended running state) :
    host.Tally decider ended running (host.answer request state).2 := by
  obtain ⟨steady, queue, stored, tallied, present⟩ := tally
  cases leaves with
  | spares _ spares =>
    obtain ⟨same, calm⟩ := host.spares request state spares steady
    exact ⟨calm, queue, same.trans stored, tallied.mono (host.grows request state), present⟩
  | push handler params options =>
    obtain ⟨id, now, -, queued, issued, calm⟩ := host.pushes handler params options state steady
    rw [stored] at queued issued
    have pushed := issued rfl
    rw [pushed] at unique
    have fresh : id ∉ host.pushed state := fun member =>
      (List.nodup_append.mp unique).2.2 id member id (List.mem_singleton.mpr rfl) rfl
    have unused : ∀ held ∈ queue.tasks, held.id ≠ id := fun held member same =>
      fresh (same ▸ tallied.known held member)
    obtain ⟨task, tasks, new⟩ := MemoryQueue.push_tasks now handler params options unused
    refine ⟨calm, (queue.push id now handler params options).2, queued, ?_, fun held run => ?_⟩
    · rw [pushed, tasks]
      obtain rfl | ⟨existing, rfl⟩ := new
      · exact tallied.append fresh rfl (.new positive id handler params options now)
      · exact tallied.append fresh rfl (.collided rfl rfl)
    · rw [tasks]
      exact ⟨List.mem_append_left _ (present held run).1, (present held run).2⟩
  | purge before =>
    obtain ⟨-, queued, calm⟩ := host.serves (.purge before) _ state rfl steady
    rw [stored] at queued
    refine ⟨calm, (queue.purge before).2, queued,
      (tallied.filter _).mono (host.grows _ state), fun held run => ?_⟩
    obtain ⟨member, process⟩ := present held run
    refine ⟨List.mem_filter.mpr ⟨member, ?_⟩, process⟩
    simp only [MemoryQueue.isExpired, TaskStatus.isTerminal, process]
    rfl

/-! ### One dispatch -/

/-- Asking for the time changes nothing. -/
theorem Tally.timed (tally : host.Tally decider ended running state) :
    host.Tally decider ended running (host.answer .now state).2 := by
  obtain ⟨steady, queue, stored, tallied, present⟩ := tally
  obtain ⟨same, calm⟩ := host.spares .now state nofun steady
  exact ⟨calm, queue, same.trans stored, tallied.mono (host.grows .now state), present⟩

/-- What the claim of a dispatch hands out is in process then, and nothing else is. -/
theorem Tally.claimed (topics : List String)
    (tally : host.Tally decider ended none state) :
    ∃ running, (TaskRequest.ask (.claim topics (host.claimTime state))).run.run host.answer
        (host.answer .now state).2 = (some (.ok running), host.afterClaim topics state) ∧
      host.Tally decider ended running (host.afterClaim topics state) := by
  obtain ⟨steady, queue, stored, tallied, -⟩ := tally
  obtain ⟨claim, after, calm⟩ := Dispatcher.claim_run steady stored topics
  have grows : host.pushed state <+: host.pushed (host.afterClaim topics state) :=
    (host.grows _ _).trans (host.grows _ _)
  refine ⟨_, claim, ?_⟩
  cases due : nextDue? queue.tasks topics (host.claimTime state) with
  | none =>
    rw [MemoryQueue.claim_idle due] at after ⊢
    exact .idle calm after (tallied.mono grows)
  | some before =>
    obtain ⟨member, ready⟩ := mem_of_nextDue? due
    have pending : before.status = .pending := by
      simp only [Task.isDue, Bool.and_eq_true, decide_eq_true_eq] at ready
      exact ready.1.1
    have replaced := MemoryQueue.store_present queue
      (before.claimed (host.claimTime state)) member rfl
    rw [MemoryQueue.claim_due due] at after ⊢
    refine ⟨calm, _, after, ?_⟩
    rw [replaced]
    refine ⟨(tallied.replace rfl tallied.logged (fun _ _ => rfl) ?_).mono grows, ?_⟩
    · exact (tallied.standing before member).claimed pending _
    · rintro _ ⟨⟩
      exact ⟨List.mem_map.mpr ⟨before, member, if_pos rfl⟩, rfl⟩

/-- Where no identifier was handed out twice, none was handed out twice before. -/
theorem Tally.asked_of_unique (positive : 1 ≤ decider.maxAttempts) {request : Request}
    (leaves : request.LeavesRuns)
    (known : (host.pushed state).Nodup → host.Tally decider ended running state)
    (unique : (host.pushed (host.answer request state).2).Nodup) :
    host.Tally decider ended running (host.answer request state).2 :=
  (known (unique.sublist (host.grows request state).sublist)).asked positive leaves unique

/-- Whatever the handler does, all tasks stay where they stand while it works. -/
theorem Tally.worked (positive : 1 ≤ decider.maxAttempts) {α : Type} {program : Program α}
    (leaves : program.Asks host.answer Request.LeavesRuns state)
    (unique : (host.pushed (program.run host.answer state).2).Nodup)
    (tally : host.Tally decider ended running state) :
    host.Tally decider ended running (program.run host.answer state).2 :=
  leaves.run (fun state => (host.pushed state).Nodup → host.Tally decider ended running state)
    (fun _ _ leaves known => Tally.asked_of_unique positive leaves known) (fun _ => tally) unique

/-- Writing the decision on a run back counts the run among those that have ended. -/
theorem Tally.settled (positive : 1 ≤ decider.maxAttempts) (outcome : Outcome)
    (finishedAt : Instant) (tally : host.Tally decider ended (some held) state) :
    ∃ final written, (Dispatcher.apply (Dispatcher.report held outcome finishedAt)
        (decider.decide held outcome.conclusion finishedAt)).run.run host.answer state =
          (some (.ok final), written) ∧
      host.Tally decider (ended ++ [⟨held.id, outcome.conclusion⟩]) none written := by
  obtain ⟨steady, queue, stored, tallied, present⟩ := tally
  obtain ⟨member, process⟩ := present held rfl
  obtain ⟨settled, apply, written, reports, own, applied, queued⟩ := host.apply_run steady
    (Dispatcher.report held outcome finishedAt) (decider.decide held outcome.conclusion finishedAt)
  have calm := host.steady_apply steady (Dispatcher.report held outcome finishedAt)
    (decider.decide held outcome.conclusion finishedAt)
  have origin := QueueOperation.sameOrigin_settlement reports held
  have settles := (decider.decides held outcome.conclusion finishedAt).settles rfl reports
  obtain ⟨changed, answered, tasks⟩ := MemoryQueue.settle_member tallied.distinct member process
    own origin.id
  have grows := host.pushed_prefix_run (Dispatcher.apply
    (Dispatcher.report held outcome finishedAt)
    (decider.decide held outcome.conclusion finishedAt)).run state
  rw [stored, Backend.settle_memory answered] at applied queued
  rw [applied] at calm grows
  refine ⟨_, written, applied, .idle calm queued ?_⟩
  rw [tasks]
  refine (tallied.replace origin.id (fun run logged => ?_) (fun id other => ?_) ?_).mono grows
  · obtain before | new := List.mem_append.mp logged
    · exact tallied.logged run before
    · obtain rfl := List.mem_singleton.mp new
      exact tallied.known held member
  · exact conclusionsOf_append_of_ne other.symm
  · exact (tallied.standing held member).settled positive process origin
      (QueueOperation.attempt_settlement_of_ne reports held) settles

end PushHost

end TaskAutomation
