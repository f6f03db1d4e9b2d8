import TaskAutomation.Proofs.Engine.Course
import TaskAutomation.Proofs.Engine.Ensures
import TaskAutomation.Proofs.Engine.Tick
import TaskAutomation.Proofs.Engine.WorldQueue
import TaskAutomation.Proofs.Queue.Watcher
import Mathlib.Logic.Relation

/-!
This file proves that the watcher of the clock never ends. Any number of dispatchers, pushes, reaps
and purges work on one queue side by side, and any request of theirs may fail, be answered in
whichever way, or be the last. A dispatcher that holds the watcher can only ask for a further run of
it, since a tick ends with the wish for another one, fails in a way that another attempt may mend, or
does not end; and a watcher has attempts without number.
-/

namespace TaskAutomation

/-! ### Requests -/

namespace TaskRequest

/-- A request makes no report on a run. -/
def IsSilent : TaskRequest → Prop
  | complete _ | fail .. | reschedule .. => False
  | _ => True

/-- A request does not end a task: a report on it asks for a further run and leaves its params as
they are. -/
def Renews (id : TaskId) : TaskRequest → Prop
  | complete report | fail report _ => report.id ≠ id
  | reschedule report _ => report.id = id → report.params = none
  | _ => True

theorem Renews.operation {request : TaskRequest} {id : TaskId} (renews : request.Renews id)
    (new : TaskId) (now : Instant) : StoredTask.Renews id (request.operation new now) := by
  rintro report apply reports own
  cases request with
  | complete report =>
    cases reports
    exact absurd own renews
  | fail report why =>
    cases reports
    exact absurd own renews
  | reschedule report startAt =>
    cases reports
    exact ⟨renews own, startAt, rfl⟩
  | push | claim | reap | purge => cases reports

theorem IsSilent.renews {request : TaskRequest} (silent : request.IsSilent) (id : TaskId) :
    request.Renews id := by
  cases request with
  | complete | fail | reschedule => exact silent.elim
  | push | claim | reap | purge => trivial

end TaskRequest

namespace Request

/-- A request makes no report on a run. -/
def IsSilent : Request → Prop
  | tasks request => request.IsSilent
  | _ => True

/-- A request does not end a task. -/
def Renews (id : TaskId) : Request → Prop
  | tasks request => request.Renews id
  | _ => True

theorem IsSilent.renews {request : Request} (silent : request.IsSilent) (id : TaskId) :
    request.Renews id := by
  cases request with
  | tasks request => exact TaskRequest.IsSilent.renews silent id
  | _ => trivial

/-- Whoever is handed the task of an identifier is handed a watcher of the clock. -/
def HandsOutWatcher (id : TaskId) : (request : Request) → request.Reply → Prop
  | tasks (.claim _ _), reply => ∀ task, reply = .ok (some task) → task.id = id → task.WatchesClock
  | _, _ => True

end Request

/-! ### One tick -/

/-- An outcome calls for a further run, for a task with attempts without number, and leaves the
params as they are. -/
structure Outcome.IsEndless (outcome : Outcome) : Prop where
  params : outcome.params = none
  further : ∀ failure, outcome.conclusion = .error failure → failure.kind.isRetryable = true
  unfinished : outcome.conclusion ≠ .done

theorem Outcome.isEndless_failed {failure : Failure} (retryable : failure.kind.isRetryable = true) :
    (Outcome.failed failure).IsEndless where
  params := rfl
  further := by
    rintro _ ⟨⟩
    exact retryable
  unfinished := nofun

/-- If work failed, another attempt may mend it, and if it did not, its value has a property. -/
def Mendable {α : Type} (property : α → Prop) : Except Failure α → Prop
  | .ok a => property a
  | .error failure => failure.kind.isRetryable = true

section

variable {sound : (request : Request) → request.Reply → Prop}

/-- Whatever a store refuses, it may do at another attempt. -/
theorem Work.ensures_needingStore {α : Type} {allowed : Request → Prop} {work : Work StoreFault α}
    (ensures : work.run.Ensures allowed sound fun _ => True) :
    (needingStore work).run.Ensures allowed sound (Mendable fun _ => True) :=
  Program.Ensures.bind (f := fun result => .pure (result.mapError StoreFault.failure)) ensures
    fun result _ => by
      cases result with
      | ok a => exact trivial
      | error fault => exact rfl

theorem RunSettings.ensures_pushRuns (settings : RunSettings) (due : List Trigger) :
    (settings.pushRuns due).run.Ensures Request.IsSilent sound fun _ => True := by
  induction due with
  | nil => trivial
  | cons trigger rest inductionHypothesis =>
    have pushes : (settings.pushRun trigger.id).run.Ensures Request.IsSilent sound fun _ => True :=
      ⟨trivial, fun _ _ => trivial⟩
    refine Work.ensures_bind pushes (fun _ _ => trivial) fun pushed _ => ?_
    exact Work.ensures_bind inductionHypothesis (fun _ _ => trivial) fun _ _ => trivial

/-- A tick makes no report itself, and on params that it reads it never ends the watcher. -/
theorem TickSettings.ensures_handler (settings : TickSettings) (task : Task) (now : Instant) :
    (settings.handler task now).Ensures Request.IsSilent sound fun outcome =>
      ScheduleTick.parse task.params = .ok ⟨⟩ → outcome.IsEndless := by
  rw [handler_eq_typed, Handler.typed]
  cases parsed : ScheduleTick.parse task.params with
  | error invalid =>
    intro same
    cases same
  | ok params =>
    have worked : (settings.work (Run.start task params now)).run.Ensures Request.IsSilent sound
        (Mendable Outcome.IsEndless) := by
      refine Work.ensures_bind (Work.ensures_needingStore ⟨trivial, fun _ _ => trivial⟩)
        (fun _ known => known) fun triggers _ => ?_
      refine Work.ensures_bind (Work.ensures_needingStore (settings.runs.ensures_pushRuns _))
        (fun _ known => known) fun queued _ => ?_
      split
      · refine ⟨rfl, fun _ failed => ?_, fun done => ?_⟩
        · cases failed
        · cases done
      · trivial
    refine worked.bind fun result known => ?_
    cases result with
    | ok outcome => exact fun _ => known
    | error failure => exact fun _ => Outcome.isEndless_failed known

end

/-! ### Dispatching -/

/-- A dispatcher has the handler of ticks, which may be slowed down or break off at any time, and no
other handler makes reports on runs. -/
structure Dispatcher.WatchesClock (dispatcher : Dispatcher) : Prop where
  ticks : ∃ settings : TickSettings, ∃ handler,
    dispatcher.registry.find? .scheduleTick = some handler ∧
      ∀ task now, (settings.handler task now).Slowed (handler task now)
  others : ∀ kind handler, dispatcher.registry.find? kind = some handler → kind ≠ .scheduleTick →
    ∀ task now, (handler task now).Ensures Request.IsSilent (fun _ _ => True) fun _ => True

namespace Dispatcher

variable {dispatcher : Dispatcher} {sound : (request : Request) → request.Reply → Prop}

theorem find?_of_resolveName {registry : TaskRegistry} {name : String} {kind : TaskKind}
    {handler : Handler} (resolved : registry.resolveName name = .ok (kind, handler)) :
    TaskKind.ofName? name = some kind ∧ registry.find? kind = some handler := by
  unfold TaskRegistry.resolveName at resolved
  split at resolved
  · next found known =>
    cases resolved
    obtain ⟨named, spelt, looked⟩ := Option.bind_eq_some_iff.mp known
    obtain ⟨other, listed, same⟩ := Option.map_eq_some_iff.mp looked
    cases same
    exact ⟨spelt, listed⟩
  · cases resolved

/-- A limit of time and the end of a handler that breaks off turn into failures that another attempt
may mend. -/
theorem ensures_invoke {allowed : Request → Prop} {property : Outcome → Prop} {handler : Handler}
    {task : Task} {now : Instant}
    (ensures : (handler task now).Ensures allowed sound property)
    (failed : ∀ message, property (.failed (.transient message))) (limit : Delay) :
    (invoke limit handler task now).Ensures allowed sound property := by
  show Program.Ensures allowed sound property (if _ then _ else _ : Program Outcome)
  split
  · exact failed _
  · refine (ensures.within limit.nanos).bind fun ending known => ?_
    cases ending with
    | finished outcome => exact known outcome rfl
    | panicked message => exact failed _
    | timedOut => exact failed _

/-- A run makes no report itself. If it is one of the watcher of the clock, it calls for a further
run. -/
theorem WatchesClock.ensures_outcome (watches : dispatcher.WatchesClock) (task : Task)
    (now : Instant) :
    (dispatcher.outcome task now).Ensures Request.IsSilent sound fun outcome =>
      task.WatchesClock → outcome.IsEndless := by
  obtain ⟨settings, tick, found, slowed⟩ := watches.ticks
  unfold outcome
  split
  · next kind handler resolved =>
    obtain ⟨named, listed⟩ := find?_of_resolveName resolved
    refine ensures_invoke ?_ (fun message _ => Outcome.isEndless_failed rfl) _
    by_cases own : kind = .scheduleTick
    · obtain rfl : tick = handler := by
        rw [own] at listed
        exact Option.some.inj (found.symm.trans listed)
      refine ((settings.ensures_handler task now).slowed (slowed task now)).imp ?_
      intro outcome known watcher
      refine known ?_
      rw [watcher.params]
      rfl
    · refine (Program.Ensures.mono (watches.others kind handler listed own task now)
        (fun _ silent => silent) fun _ _ _ => trivial).imp fun outcome _ watcher => ?_
      rw [watcher.handler] at named
      exact absurd (Option.some.inj named).symm own
  · next fault unresolved =>
    -- The handler of ticks is found by its name.
    intro watcher
    rw [watcher.handler, TaskRegistry.resolveName] at unresolved
    have known : (TaskKind.ofName? TaskKind.scheduleTick.name).bind (fun kind =>
        (dispatcher.registry.find? kind).map fun handler => (kind, handler)) =
          some (.scheduleTick, tick) := by
      show (dispatcher.registry.find? .scheduleTick).map _ = _
      rw [found]
      rfl
    rw [known] at unresolved
    cases unresolved

/-- Writing a decision on a run back does not end the watcher of the clock, since its outcomes call
for further runs and it has attempts without number. -/
theorem ensures_apply {allowed : Request → Prop} {id : TaskId} {task : Task} {outcome : Outcome}
    (renews : ∀ request : TaskRequest, request.Renews id → allowed (.tasks request))
    (endless : task.id = id → task.WatchesClock ∧ outcome.IsEndless) (finishedAt : Instant) :
    (apply (report task outcome finishedAt)
      (dispatcher.decider.decide task outcome.conclusion finishedAt)).run.Ensures allowed sound
        fun _ => True := by
  have ended (conclusive : ¬ ∃ time reason,
      dispatcher.decider.decide task outcome.conclusion finishedAt = .reschedule time reason) :
      task.id ≠ id := by
    intro own
    obtain ⟨watcher, -, further, unfinished⟩ := endless own
    have decides := dispatcher.decider.decides task outcome.conclusion finishedAt
    generalize dispatcher.decider.decide task outcome.conclusion finishedAt = decision
      at conclusive decides
    generalize outcome.conclusion = conclusion at further unfinished decides
    cases decides with
    | done => exact unfinished rfl
    | later time reason => exact conclusive ⟨_, _, rfl⟩
    | retried failure reason => exact conclusive ⟨_, _, rfl⟩
    | gaveUp failure reason final =>
      obtain permanent | ⟨ordinary, -⟩ := final
      · rw [further failure rfl] at permanent
        cases permanent
      · rw [watcher.watcher] at ordinary
        cases ordinary
  cases decided : dispatcher.decider.decide task outcome.conclusion finishedAt with
  | complete =>
    exact ⟨renews _ (ended (by simp [decided])), fun _ _ => trivial⟩
  | markError reason =>
    exact ⟨renews _ (ended (by simp [decided])), fun _ _ => trivial⟩
  | reschedule time reason =>
    refine ⟨renews _ ?_, fun _ _ => trivial⟩
    show RunReport.id (if _ then _ else _) = id → RunReport.params (if _ then _ else _) = none
    split
    · exact fun own => (endless own).2.params
    · exact fun own => (endless own).2.params

/-- A dispatcher never ends the watcher of the clock. -/
theorem WatchesClock.ensures_runOnce (watches : dispatcher.WatchesClock) (id : TaskId) :
    dispatcher.runOnce.run.Ensures (Request.Renews id) (Request.HandsOutWatcher id)
      fun _ => True := by
  refine ⟨trivial, fun now _ => ⟨trivial, fun reply handed => ?_⟩⟩
  match reply, handed with
  | .error fault, _ => trivial
  | .ok none, _ => trivial
  | .ok (some task), handed =>
    have ended : (dispatcher.outcome task now).Ensures (Request.Renews id)
        (Request.HandsOutWatcher id) fun outcome => task.WatchesClock → outcome.IsEndless :=
      (watches.ensures_outcome task now).mono
        (fun _ silent => Request.IsSilent.renews silent id) fun _ _ known => known
    refine Work.ensures_bind (Work.ensures_ofProgram ended) (fun _ _ => trivial)
      fun outcome known => ⟨trivial, fun finishedAt _ => ?_⟩
    refine Work.ensures_bind (ensures_apply (fun _ renews => renews) (fun own => ?_) finishedAt)
      (fun _ _ => trivial) fun _ _ => trivial
    have watcher := handed task rfl own
    exact ⟨watcher, known outcome rfl watcher⟩

end Dispatcher

/-! ### Dispatchers side by side -/

/-- A queue with dispatchers at work on it. -/
structure Workshop where
  queue : Backend
  /-- The identifiers that have been given to tasks. -/
  used : List TaskId
  /-- The work of each dispatcher that is in the middle of a run. -/
  running : List (Program (Except StoreFault (Option Task)))

namespace Workshop

/-- A queue without tasks and without dispatchers. -/
def empty (storage : Storage) : Workshop := ⟨.empty storage, [], []⟩

/-- An operation has been carried out. -/
def after (workshop : Workshop) (operation : QueueOperation) : Workshop :=
  { workshop with
    queue := (workshop.queue.step operation).2
    used := operation.pushedId?.toList ++ workshop.used }

/-- The operation pushes no task under an identifier that has been used. -/
def IsFresh (workshop : Workshop) (operation : QueueOperation) : Prop :=
  ∀ id ∈ operation.pushedId?, id ∉ workshop.used

/-- What a program does next. A request to the queue may be refused before anything is done, and the
answer may be lost after it was done. Every other request may be answered in whichever way. -/
inductive Goes (workshop : Workshop) : Program (Except StoreFault (Option Task)) →
    Program (Except StoreFault (Option Task)) → Workshop → Prop
  | refused (request : TaskRequest) (fault : StoreFault)
      (next : Request.Reply (.tasks request) → Program (Except StoreFault (Option Task))) :
      Goes workshop (.call (.tasks request) next) (next (.error fault)) workshop
  | served (request : TaskRequest) (id : TaskId) (now : Instant)
      (reply : Request.Reply (.tasks request))
      (next : Request.Reply (.tasks request) → Program (Except StoreFault (Option Task)))
      (fresh : workshop.IsFresh (request.operation id now))
      (answer : (workshop.queue.step (request.operation id now)).1 = reply.map request.toAnswer) :
      Goes workshop (.call (.tasks request) next) (next reply)
        (workshop.after (request.operation id now))
  | lost (request : TaskRequest) (id : TaskId) (now : Instant) (fault : StoreFault)
      (next : Request.Reply (.tasks request) → Program (Except StoreFault (Option Task)))
      (fresh : workshop.IsFresh (request.operation id now)) :
      Goes workshop (.call (.tasks request) next) (next (.error fault))
        (workshop.after (request.operation id now))
  | learns (request : Request) (reply : request.Reply)
      (next : request.Reply → Program (Except StoreFault (Option Task)))
      (spares : request.SparesQueue) :
      Goes workshop (.call request next) (next reply) workshop
  | waits (delay : Delay) (next : Program (Except StoreFault (Option Task))) :
      Goes workshop (.sleep delay next) next workshop

/-- What happens next at a queue. -/
inductive Moves (workshop : Workshop) : Workshop → Prop
  /-- A dispatcher begins a run. -/
  | begins (dispatcher : Dispatcher) (watches : dispatcher.WatchesClock) :
      Moves workshop { workshop with running := dispatcher.runOnce.run :: workshop.running }
  /-- A dispatcher goes on. -/
  | goes (before later : List (Program (Except StoreFault (Option Task))))
      (program next : Program (Except StoreFault (Option Task))) (changed : Workshop)
      (found : workshop.running = before ++ program :: later)
      (going : Goes workshop program next changed) :
      Moves workshop { changed with running := before ++ next :: later }
  /-- A run is over, or it has been broken off. -/
  | stops (before later : List (Program (Except StoreFault (Option Task))))
      (program : Program (Except StoreFault (Option Task)))
      (found : workshop.running = before ++ program :: later) :
      Moves workshop { workshop with running := before ++ later }
  /-- Something else makes use of the queue: a push, a reap, a purge, a look at it, or a claim
  without a report. -/
  | used (operation : QueueOperation) (fresh : workshop.IsFresh operation)
      (silent : operation.settlement? = none) : Moves workshop (workshop.after operation)

variable {workshop start later : Workshop} {id : TaskId}

/-- An identifier is reserved for a watcher of the clock in the queue, and nobody ends it. -/
structure ReservedFor (workshop : Workshop) (id : TaskId) : Prop where
  queue : workshop.queue.ReservedFor workshop.used id
  running : ∀ program ∈ workshop.running,
    program.Ensures (Request.Renews id) (Request.HandsOutWatcher id) fun _ => True

/-- The watcher is in the queue under its identifier. -/
def Stores (workshop : Workshop) (id : TaskId) : Prop :=
  ∃ record ∈ workshop.queue.records, record.id? = some id

/-- The watcher goes on: it is stored, it is pending or in process, and every push with its sign is
kept as a collision with it. -/
structure KeepsWatcher (workshop : Workshop) (id : TaskId) : Prop where
  stored : workshop.Stores id
  underway : ∀ record ∈ workshop.queue.records, record.id? = some id →
    record.status? = some .pending ∨ record.status? = some .process
  collides : ∀ other ∉ workshop.used, ∀ now handler params options,
    options.collisionSign = some ScheduleTick.collisionSign →
      (workshop.queue.step (.push other now handler params options)).1 =
        .ok (.pushed (.collided ((Task.new other handler params options now).collide id) id))

theorem handsOutWatcher_error (id : TaskId) (request : TaskRequest) (fault : StoreFault) :
    Request.HandsOutWatcher id (.tasks request) (.error fault) := by
  cases request with
  | claim =>
    intro task same
    cases same
  | _ => trivial

theorem IsFresh.pushedId?_ne {operation : QueueOperation} (fresh : workshop.IsFresh operation)
    (settled : id ∈ workshop.used ∨ id ∉ (workshop.after operation).used) :
    operation.pushedId? ≠ some id := by
  intro pushed
  obtain old | unused := settled
  · exact fresh id pushed old
  · exact unused (List.mem_append_left _ (Option.mem_toList.mpr pushed))

/-- An operation that does not end the watcher of the clock leaves it in the queue. -/
theorem ReservedFor.after (reserved : workshop.queue.ReservedFor workshop.used id)
    {operation : QueueOperation} (fresh : workshop.IsFresh operation)
    (renews : StoredTask.Renews id operation)
    (settled : id ∈ workshop.used ∨ id ∉ (workshop.after operation).used) :
    (workshop.after operation).queue.ReservedFor (workshop.after operation).used id ∧
      (workshop.Stores id → (workshop.after operation).Stores id) :=
  ⟨reserved.step fresh renews fun pushed => absurd pushed (fresh.pushedId?_ne settled),
    reserved.stored_step fresh⟩

/-- What a program that never ends the watcher does next leaves it in the queue, and the rest of the
program never ends it either. -/
theorem ReservedFor.goes {changed : Workshop}
    {program next : Program (Except StoreFault (Option Task))}
    (reserved : workshop.queue.ReservedFor workshop.used id)
    (ensures : program.Ensures (Request.Renews id) (Request.HandsOutWatcher id) fun _ => True)
    (going : Goes workshop program next changed)
    (settled : id ∈ workshop.used ∨ id ∉ changed.used) :
    next.Ensures (Request.Renews id) (Request.HandsOutWatcher id) (fun _ => True) ∧
      changed.running = workshop.running ∧ changed.queue.ReservedFor changed.used id ∧
        (workshop.Stores id → changed.Stores id) := by
  cases going with
  | refused request fault next =>
    exact ⟨ensures.2 _ (handsOutWatcher_error id request fault), rfl, reserved, fun stored => stored⟩
  | lost request new now fault next fresh =>
    exact ⟨ensures.2 _ (handsOutWatcher_error id request fault), rfl,
      ReservedFor.after reserved fresh (TaskRequest.Renews.operation ensures.1 new now) settled⟩
  | learns request reply next spares =>
    refine ⟨ensures.2 _ ?_, rfl, reserved, fun stored => stored⟩
    cases request with
    | tasks own => exact absurd rfl (spares own)
    | _ => trivial
  | waits delay next => exact ⟨ensures, rfl, reserved, fun stored => stored⟩
  | served request new now reply next fresh answer =>
    refine ⟨ensures.2 _ ?_, rfl,
      ReservedFor.after reserved fresh (TaskRequest.Renews.operation ensures.1 new now) settled⟩
    cases request with
    | claim topics at_ =>
      rintro task rfl own
      exact reserved.watchesClock_of_claimed fresh rfl answer own
    | _ => trivial

/-- Whatever happens next, a watcher stays in the queue, and nobody is about to end it. -/
theorem ReservedFor.moves (reserved : workshop.ReservedFor id) (moves : Moves workshop later)
    (settled : id ∈ workshop.used ∨ id ∉ later.used) :
    later.ReservedFor id ∧ (workshop.Stores id → later.Stores id) := by
  cases moves with
  | begins dispatcher watches =>
    refine ⟨⟨reserved.queue, fun program member => ?_⟩, fun stored => stored⟩
    obtain rfl | before := List.mem_cons.mp member
    · exact watches.ensures_runOnce id
    · exact reserved.running program before
  | goes before after program next changed found going =>
    have ensures := reserved.running program (by simp [found])
    obtain ⟨rest, same, queue, stored⟩ := ReservedFor.goes reserved.queue ensures going settled
    refine ⟨⟨queue, fun other member => ?_⟩, stored⟩
    obtain front | rfl | back : other ∈ before ∨ other = next ∨ other ∈ after := by
      simpa using member
    · exact reserved.running other (by simp [found, front])
    · exact rest
    · exact reserved.running other (by simp [found, back])
  | stops before after program found =>
    refine ⟨⟨reserved.queue, fun other member => reserved.running other ?_⟩, fun stored => stored⟩
    obtain front | back := List.mem_append.mp member
    · simp [found, front]
    · simp [found, back]
  | used operation fresh silent =>
    have renews : StoredTask.Renews id operation := by
      intro report apply reports
      rw [silent] at reports
      cases reports
    obtain ⟨queue, stored⟩ := ReservedFor.after reserved.queue fresh renews settled
    exact ⟨⟨queue, reserved.running⟩, stored⟩

/-- Identifiers stay used. -/
theorem Moves.used_subset (moves : Moves workshop later) : workshop.used ⊆ later.used := by
  cases moves with
  | begins | stops => exact List.Subset.refl _
  | used operation fresh silent => exact List.subset_append_right _ _
  | goes before after program next changed found going =>
    cases going with
    | refused | learns | waits => exact List.Subset.refl _
    | served | lost => exact List.subset_append_right _ _

open Relation

/-- Before a watcher of the clock is queued, its identifier is reserved for it. -/
theorem reservedFor_of_unused {storage : Storage} (past : ReflTransGen Moves (empty storage) start)
    (unused : id ∉ start.used) : start.ReservedFor id := by
  induction past with
  | refl => exact ⟨.empty storage id, fun program member => absurd member List.not_mem_nil⟩
  | tail earlier moves inductionHypothesis =>
    have before := fun used => unused (moves.used_subset used)
    exact ((inductionHypothesis before).moves moves (Or.inr unused)).1

/-- Once a watcher of the clock is queued, it is never ended. -/
theorem ReservedFor.future (reserved : start.ReservedFor id) (stored : start.Stores id)
    (future : ReflTransGen Moves start later) : later.ReservedFor id ∧ later.Stores id := by
  induction future with
  | refl => exact ⟨reserved, stored⟩
  | tail earlier moves inductionHypothesis =>
    obtain ⟨reserved, record, member, named⟩ := inductionHypothesis
    obtain ⟨other, used, same⟩ := reserved.queue.known record member
    obtain rfl := Option.some.inj (named.symm.trans same)
    obtain ⟨still, stays⟩ := reserved.moves moves (Or.inl used)
    exact ⟨still, stays ⟨record, member, named⟩⟩

/-- A watcher of the clock that has been queued goes on for ever, whatever else has happened and
happens at the queue. -/
theorem watcher_never_ends {storage : Storage} {now : Instant} {options : PushOptions} {task : Task}
    (past : ReflTransGen Moves (empty storage) start) (unused : id ∉ start.used)
    (signed : options.collisionSign = some ScheduleTick.collisionSign)
    (watcher : options.watcher = true)
    (queued : (start.queue.step (.push id now TaskKind.scheduleTick.name (ScheduleTick.encode ⟨⟩)
      options)).1 = .ok (.pushed (.queued task)))
    (future : ReflTransGen Moves (start.after (.push id now TaskKind.scheduleTick.name
      (ScheduleTick.encode ⟨⟩) options)) later) : later.KeepsWatcher id := by
  have before := reservedFor_of_unused past unused
  obtain ⟨queue, stored⟩ := before.queue.step_seed unused signed watcher queued
  have seeded : (start.after (.push id now TaskKind.scheduleTick.name (ScheduleTick.encode ⟨⟩)
    options)).ReservedFor id := ⟨queue, before.running⟩
  obtain ⟨reserved, stays⟩ := seeded.future stored future
  exact ⟨stays, fun record member named => (reserved.queue.reserved record member named).inFlight,
    fun other fresh now handler params options signed =>
      reserved.queue.collides stays fresh now handler params signed⟩

/-- A dispatcher that looks at the clock every minute. The other handler that it has never ends. -/
def minutely : Dispatcher where
  registry := ⟨[(.triggerRun, fun _ _ => .hang),
    (.scheduleTick, TickSettings.handler ⟨Zone.ofName?, ⟨defaultTopic, 0⟩, ⟨60000000000⟩⟩)]⟩
  decider := .default
  topics := [defaultTopic]
  handlerTimeout := ⟨30000000000⟩
  pollInterval := ⟨1000000000⟩

theorem watchesClock_minutely : minutely.WatchesClock where
  ticks := ⟨_, _, rfl, fun _ _ => .refl _⟩
  others kind handler found other task now := by
    cases kind with
    | triggerRun =>
      cases found
      trivial
    | scheduleTick => exact absurd rfl other
    | contractEvent | transactionRun => cases found

/-- The watcher that is queued in an empty table. -/
def firstSeed : QueueOperation :=
  .push ⟨.ofNat 1⟩ ⟨0, 0⟩ TaskKind.scheduleTick.name (ScheduleTick.encode ⟨⟩)
    { collisionSign := some ScheduleTick.collisionSign, watcher := true }

/-- The watcher has been claimed, but the dispatcher did not get to know of it, and then the watcher
was taken back. -/
def reclaimed : Workshop :=
  (((empty .table).after firstSeed).after (.claim [defaultTopic] ⟨1, 0⟩)).after
    (.reap ⟨900, 0⟩ ⟨600, 0⟩)

theorem watcher_never_ends_reclaimed :
    (⟨.ofNat 1⟩ : TaskId) ∉ (empty .table).used ∧
      ReflTransGen Moves ((empty .table).after firstSeed) reclaimed ∧
      reclaimed.KeepsWatcher ⟨.ofNat 1⟩ := by
  have future : ReflTransGen Moves ((empty .table).after firstSeed) reclaimed :=
    ((((ReflTransGen.single (.begins minutely watchesClock_minutely)).tail
      (.goes [] [] _ _ _ rfl (.learns .now ⟨1, 0⟩ _ nofun))).tail
      (.goes [] [] _ _ _ rfl (.lost (.claim [defaultTopic] ⟨1, 0⟩) ⟨.ofNat 0⟩ ⟨1, 0⟩
        (.backend "gone") _ nofun))).tail
      (.stops [] [] _ rfl)).tail
      (.used (.reap ⟨900, 0⟩ ⟨600, 0⟩) nofun rfl)
  exact ⟨List.not_mem_nil, future,
    watcher_never_ends .refl List.not_mem_nil rfl rfl rfl future⟩

end Workshop

end TaskAutomation
