import TaskAutomation.Config.Document
import TaskAutomation.Engine.Assembly
import TaskAutomation.Proofs.Engine.WorldQueue
import TaskAutomation.Proofs.Queue.History
import TaskAutomation.Proofs.Time.Ages

/-!
This file proves that the reaper does not take a run back that may still be going on. Settings that
were accepted give a run less time than passes until it counts as stale, and a cutoff behind which
something lies is further away than its age. So a task in process that was claimed no longer ago than
its handler may run is not stale, in memory or in a table that keeps whole milliseconds, and nothing
but a report on it changes it. What is removed is over, and for longer than it is kept.
-/

namespace TaskAutomation

open QueueOperation StoredTask

/-! ### The last change of a record -/

namespace StoredTask

variable {record : StoredTask} {last cutoff : Instant}

/-- The time of the last change of a record, of which a row keeps the milliseconds. -/
def UpdatedAt (record : StoredTask) (last : Instant) : Prop :=
  match record with
  | task held => held.updatedAt = last
  | row cells => cells.updatedAt = Row.ofInstant last

theorem updatedAt_claimed (record : StoredTask) (now : Instant) :
    (record.claimed now).UpdatedAt now := by cases record <;> rfl

theorem before_of_isStale (updated : record.UpdatedAt last) (stale : record.isStale cutoff = true) :
    last < cutoff ∨ last.millis < cutoff.millis := by
  cases record with
  | task held =>
    simp only [isStale, MemoryQueue.isStale, Bool.and_eq_true, decide_eq_true_eq] at stale
    obtain rfl : held.updatedAt = last := updated
    exact Or.inl stale.2
  | row cells =>
    simp only [isStale, TableQueue.isStale, Bool.and_eq_true] at stale
    have updated : cells.updatedAt = Row.ofInstant last := updated
    rw [updated] at stale
    exact Or.inr (of_decide_eq_true stale.2)

theorem before_of_isExpired (updated : record.UpdatedAt last)
    (expired : record.isExpired cutoff = true) : last < cutoff ∨ last.millis < cutoff.millis := by
  cases record with
  | task held =>
    simp only [isExpired, MemoryQueue.isExpired, Bool.and_eq_true, decide_eq_true_eq] at expired
    obtain rfl : held.updatedAt = last := updated
    exact Or.inl expired.2
  | row cells =>
    simp only [isExpired, TableQueue.isExpired, Bool.and_eq_true] at expired
    have updated : cells.updatedAt = Row.ofInstant last := updated
    rw [updated] at expired
    exact Or.inr (of_decide_eq_true expired.2)

/-- A look at a task gives what its record reads as. -/
theorem Effect.get_inv {records newRecords : List StoredTask} {reply : QueueReply} {task : Task}
    (effect : Effect records (.get task.id) reply newRecords) (distinct : Distinct records)
    (member : record ∈ records) (read : record.read = .ok task) :
    reply = .ok (.found (some task)) := by
  have named := (read_eq_ok read).1
  cases effect with
  | found _ held inside same =>
    rw [distinct.eq_of_id?_eq inside member (same.trans named.symm), read]
    rfl
  | notFound _ missing => exact absurd named (missing record member)
  | settled _ _ _ _ _ reports => cases reports
  | absent _ _ _ reports => cases reports
  | unreadable _ _ _ _ _ reports => cases reports
  | unheld _ _ _ _ _ reports => cases reports

end StoredTask

/-! ### Accepted settings -/

theorem Config.timeout_lt_stale {text : String} {config : Config} (accepted : read text = .ok config) :
    config.queue.handlerTimeoutSeconds < config.queue.staleAfterSeconds := by
  unfold read at accepted
  split at accepted
  · cases accepted
  · split at accepted
    · cases accepted
    · next unrefused =>
      cases accepted
      unfold refusal? at unrefused
      split_ifs at unrefused with _ _ _ _ short
      exact Nat.not_le.mp short

/-- An operation leaves the run of a task alone that began at a time: it is no report on the task,
and if it takes stale tasks back, then by the settings and while the handler may still run. -/
def QueueConfig.Spares (config : QueueConfig) (id : TaskId) (start : Instant) :
    QueueOperation → Prop
  | .complete report | .fail report _ | .reschedule report _ => report.id ≠ id
  | .reap now cutoff =>
    now.Representable ∧ start.WithinDelay config.handlerTimeout now ∧
      cutoff = now.ago config.staleAfter
  | _ => True

/-! ### A task in process -/

section

variable {config : QueueConfig} {id : TaskId} {start : Instant} {record changed : StoredTask}
  {operation : QueueOperation}

/-- The record of a task in process since a time. -/
structure StoredTask.RunsSince (record : StoredTask) (id : TaskId) (start : Instant) : Prop where
  named : record.id? = some id
  process : record.status? = some .process
  updated : record.UpdatedAt start

theorem StoredTask.RunsSince.not_isStale (runs : record.RunsSince id start)
    (known : start.Representable)
    (shorter : config.handlerTimeoutSeconds < config.staleAfterSeconds) {now : Instant}
    (representable : now.Representable) (within : start.WithinDelay config.handlerTimeout now) :
    ¬ record.isStale (now.ago config.staleAfter) = true := fun stale =>
  Instant.not_before_ago_of_withinDelay known representable shorter within
    (before_of_isStale runs.updated stale)

/-- A run that is left alone changes nothing of its record. -/
theorem StoredTask.RunsSince.eq_of_change (runs : record.RunsSince id start)
    (known : start.Representable)
    (shorter : config.handlerTimeoutSeconds < config.staleAfterSeconds)
    (spares : config.Spares id start operation) (change : Change operation record changed) :
    changed = record := by
  cases change with
  | kept => rfl
  | claimed topics now record claims due =>
    cases runs.process.symm.trans (status?_of_isDue due)
  | settled report apply record task reports named read held =>
    have same : report.id = id := Option.some.inj (named.symm.trans runs.named)
    cases operation <;> cases reports <;> exact absurd same spares
  | reaped now cutoff record reaps stale =>
    subst reaps
    obtain ⟨representable, within, rfl⟩ := spares
    exact absurd stale (runs.not_isStale known shorter representable within)

end

namespace Backend

variable {backend : Backend} {config : QueueConfig} {id : TaskId} {start : Instant}
  {record : StoredTask} {operation : QueueOperation} {rest future : List QueueOperation}

/-- A queue is sound for whatever pushes nothing. -/
theorem Sound.quiet (sound : backend.Sound []) (unpushed : operation.pushedId? = none) :
    backend.Sound [operation] := by
  have none : pushedIds [operation] = [] := by
    rw [pushedIds_cons, unpushed]
    rfl
  exact ⟨sound.inOrder, sound.distinct, none ▸ sound.fresh, none ▸ sound.unique⟩

/-- A claim that hands a task out begins a run of it. -/
theorem Sound.runsSince_of_claim {topics : List String}
    (sound : backend.Sound (.claim topics start :: rest)) {task : Task}
    (claimed : (backend.claim topics start).1 = .ok (some task)) :
    ∃ record ∈ (backend.step (.claim topics start)).2.records,
      record.RunsSince task.id start ∧ record.read = .ok task := by
  have effect := sound.effect
  have answer : (backend.step (.claim topics start)).1 = .ok (.claimed (some task)) :=
    congrArg (Except.map QueueAnswer.claimed) claimed
  rw [answer] at effect
  obtain ⟨former, inside, named, -, read, after⟩ := effect.claim_inv
  refine ⟨former.claimed start, ?_, ⟨?_, ?_, ?_⟩, read⟩
  · rw [after]
    exact sound.distinct.mem_replace_self inside named _
  · exact (id?_claimed former start).trans named
  · exact status?_claimed former start
  · exact updatedAt_claimed former start

theorem Sound.keeps_run_step (sound : backend.Sound (operation :: rest))
    (member : record ∈ backend.records) (runs : record.RunsSince id start)
    (known : start.Representable)
    (shorter : config.handlerTimeoutSeconds < config.staleAfterSeconds)
    (spares : config.Spares id start operation) :
    record ∈ (backend.step operation).2.records := by
  obtain ⟨changed, after, change⟩ | ⟨before, -, expired⟩ :=
    sound.effect.forward sound.distinct member
  · rw [runs.eq_of_change known shorter spares change] at after
    exact after
  · exact absurd (Or.inr runs.process) (not_isInFlight_of_isExpired expired)

/-- A record of a run that is left alone stays as it is. -/
theorem Sound.keeps_run (sound : backend.Sound future) (member : record ∈ backend.records)
    (runs : record.RunsSince id start) (known : start.Representable)
    (shorter : config.handlerTimeoutSeconds < config.staleAfterSeconds)
    (spares : ∀ operation ∈ future, config.Spares id start operation) :
    record ∈ (backend.run future).2.records := by
  induction future generalizing backend with
  | nil => exact member
  | cons operation rest inductionHypothesis =>
    have first := spares operation List.mem_cons_self
    exact inductionHypothesis sound.step (sound.keeps_run_step member runs known shorter first)
      fun other later => spares other (List.mem_cons_of_mem operation later)

/-- A record that reads gives its task to whoever looks for it. -/
theorem get_of_mem (inOrder : backend.InOrder) (distinct : Distinct backend.records) {task : Task}
    (member : record ∈ backend.records) (read : record.read = .ok task) :
    backend.get task.id = .ok (some task) := by
  have effect := (step_effect inOrder distinct (.get task.id) (fun _ => nofun)).1
  have answer : (backend.get task.id).map QueueAnswer.found = .ok (.found (some task)) :=
    effect.get_inv distinct member read
  cases looked : backend.get task.id with
  | error fault =>
    rw [looked] at answer
    cases answer
  | ok found =>
    rw [looked] at answer
    cases answer
    rfl

theorem records_purge (backend : Backend) (before : Instant) :
    (backend.purge before).2.records =
      backend.records.filter fun record => !record.isExpired before := by
  cases backend with
  | memory queue =>
    show (queue.tasks.filter _).map StoredTask.task = (queue.tasks.map StoredTask.task).filter _
    rw [List.filter_map]
    rfl
  | table kept =>
    show (kept.rows.filter _).map StoredTask.row = (kept.rows.map StoredTask.row).filter _
    rw [List.filter_map]
    rfl

end Backend

/-! ### Passes of the reaper -/

section

variable {State : Type} [Outside State] {config : QueueConfig} {world : World State}

/-- A pass of the reaper has ended and has left a task in process and its record as they were. -/
structure QueueConfig.ReapSpares (config : QueueConfig) (world : World State) (task : Task) :
    Prop where
  ends : (world.perform config.reaper.reapOnce.run).1.isSome
  process : task.status = .process
  stored : world.backend.get task.id = .ok (some task)
  kept : (world.perform config.reaper.reapOnce.run).2.backend.get task.id = .ok (some task)
  unchanged : ∃ record ∈ world.backend.records, record.id? = some task.id ∧
    record ∈ (world.perform config.reaper.reapOnce.run).2.backend.records

/-- A pass that removes what is over has ended and has left all that is in flight, and all that was
changed no longer ago than it is kept. -/
structure QueueConfig.PurgeSpares (config : QueueConfig) (world : World State) : Prop where
  ends : (world.perform config.reaper.purgeOnce.run).1.isSome
  inFlight : ∀ record ∈ world.backend.records, record.IsInFlight →
    record ∈ (world.perform config.reaper.purgeOnce.run).2.backend.records
  recent : ∀ record ∈ world.backend.records, ∀ last : Instant, last.Representable →
    record.UpdatedAt last → last.apart world.clock ≤ config.retention.nanos →
    record ∈ (world.perform config.reaper.purgeOnce.run).2.backend.records

/-- A request to the queue does what its operation does, or nothing. -/
theorem World.backend_tasks (request : TaskRequest) (world : World State) :
    (answer (.tasks request) world).2.backend = world.backend ∨
      ∃ id, (answer (.tasks request) world).2.backend =
        (world.backend.step (request.operation id world.clock)).2 := by
  have answers := answers_tasks request world
  generalize (answer (.tasks request) world).1 = reply,
    (answer (.tasks request) world).2.backend = queue,
    (answer (.tasks request) world).2.pushed = pushed at answers
  cases answers with
  | refused fault => exact Or.inl rfl
  | served id reply answer => exact Or.inr ⟨id, rfl⟩

variable {task : Task} {start : Instant} {record : StoredTask}

/-- A task that was claimed no longer ago than its handler may run is left alone. -/
theorem QueueConfig.reapSpares (shorter : config.handlerTimeoutSeconds < config.staleAfterSeconds)
    (sound : world.backend.Sound []) (member : record ∈ world.backend.records)
    (runs : record.RunsSince task.id start) (read : record.read = .ok task)
    (known : start.Representable) (representable : world.clock.Representable)
    (within : start.WithinDelay config.handlerTimeout world.clock) :
    config.ReapSpares world task := by
  have process : task.status = .process :=
    Option.some.inj ((read_eq_ok read).2.1.symm.trans runs.process)
  have stored := Backend.get_of_mem sound.inOrder sound.distinct member read
  obtain same | ⟨id, served⟩ :=
    World.backend_tasks (.reap (world.clock.ago config.staleAfter)) world
  · exact ⟨rfl, process, stored, same ▸ stored, record, member, runs.named, same ▸ member⟩
  · have unpushed : (QueueOperation.reap world.clock (world.clock.ago config.staleAfter)).pushedId? =
        none := rfl
    have ready := sound.quiet unpushed
    have kept := ready.keeps_run_step member runs known shorter ⟨representable, within, rfl⟩
    have still := Backend.get_of_mem ready.step.inOrder ready.step.distinct kept read
    exact ⟨rfl, process, stored, served ▸ still, record, member, runs.named, served ▸ kept⟩

theorem QueueConfig.purgeSpares (representable : world.clock.Representable) :
    config.PurgeSpares world := by
  have spares (record : StoredTask) (member : record ∈ world.backend.records)
      (unexpired : ¬ record.isExpired (world.clock.ago config.retention) = true) :
      record ∈ (world.perform config.reaper.purgeOnce.run).2.backend.records := by
    obtain same | ⟨id, served⟩ :=
      World.backend_tasks (.purge (world.clock.ago config.retention)) world
    · exact same ▸ member
    · have after : record ∈ (world.backend.purge (world.clock.ago config.retention)).2.records := by
        rw [Backend.records_purge]
        refine List.mem_filter.mpr ⟨member, ?_⟩
        simpa using unexpired
      exact served ▸ after
  refine ⟨rfl, fun record member inFlight => spares record member fun expired => ?_,
    fun record member last known updated recent => spares record member fun expired => ?_⟩
  · exact not_isInFlight_of_isExpired expired inFlight
  · have older := Instant.lt_apart_of_before_ago known representable
      (before_of_isExpired updated expired)
    exact absurd recent (Int.not_le.mpr older)

end

/-! ### What accepted settings promise -/

/-- A time an age ago is computed with a span and a point of time that there are, and its milliseconds
fit into 64 bits. -/
theorem Instant.ago_fits {now : Instant} (representable : now.Representable) (seconds : Nat) :
    ((Span.ofDelay? (.ofSeconds seconds)).getD Span.max).nanos ≤ Span.max.nanos ∧
      (now.ago (.ofSeconds seconds)).Representable ∧
      Word.holds64 (now.ago (.ofSeconds seconds)).millis = true := by
  have there := representable_ago representable seconds
  refine ⟨?_, there, ?_⟩
  · unfold Span.ofDelay?
    split
    · next short => exact short
    · exact Int.le_refl _
  · have least := (le_iff _ _).mp there.least
    have most := (le_iff _ _).mp there.most
    have limit := there.nanos_lt
    simp only [Word.holds64, Bool.and_eq_true, decide_eq_true_eq]
    simp only [Word.least64, Word.most64, millis]
    simp only [min, max, minSeconds, maxSeconds, nanosPerSecond] at least most limit
    omega

/-- With settings that were accepted, the reaper takes no run back whose handler may still run, be it
claimed at any time and whatever else goes on in the queue since; it removes nothing that is in flight
or that was changed within the time for which it is kept; and no step of its computations leaves the
values that there are. -/
theorem QueueConfig.spares_live_runs {State : Type} [Outside State] {text : String} {config : Config}
    (accepted : Config.read text = .ok config) :
    (∀ (storage : Storage) (past future : List QueueOperation) (topics : List String)
        (start : Instant) (task : Task) (world : World State),
      (pushedIds (past ++ future)).Nodup → start.Representable →
      (((Backend.empty storage).run past).2.claim topics start).1 = .ok (some task) →
      (∀ operation ∈ future, config.queue.Spares task.id start operation) →
      world.backend = ((Backend.empty storage).run (past ++ .claim topics start :: future)).2 →
      world.clock.Representable →
      start.WithinDelay config.queue.handlerTimeout world.clock →
        config.queue.ReapSpares world task) ∧
    (∀ world : World State, world.clock.Representable → config.queue.PurgeSpares world) ∧
    ∀ now : Instant, now.Representable →
      ∀ age ∈ [config.queue.staleAfter, config.queue.retention],
        ((Span.ofDelay? age).getD Span.max).nanos ≤ Span.max.nanos ∧
          (now.ago age).Representable ∧ Word.holds64 (now.ago age).millis = true := by
  refine ⟨?_, fun world representable => QueueConfig.purgeSpares representable,
    fun now representable => ?_⟩
  · intro storage past future topics start task world unique known claimed spares backend
      representable within
    have shorter := Config.timeout_lt_stale accepted
    have quiet : pushedIds (.claim topics start :: future) = pushedIds future :=
      pushedIds_cons _ _
    have whole : (Backend.empty storage).Sound (past ++ (.claim topics start :: future)) := by
      refine .empty storage ?_
      rw [pushedIds_append, quiet, ← pushedIds_append]
      exact unique
    have sound := whole.run
    obtain ⟨record, member, runs, read⟩ := sound.runsSince_of_claim claimed
    have still := sound.step.keeps_run member runs known shorter spares
    have led : world.backend =
        ((((Backend.empty storage).run past).2.step (.claim topics start)).2.run future).2 := by
      rw [backend, Backend.run_append, Backend.run_cons]
    rw [← led] at still
    have ready : world.backend.Sound [] := by
      rw [led]
      have nothing := sound.step
      rw [← List.append_nil future] at nothing
      exact nothing.run
    exact QueueConfig.reapSpares shorter ready still runs read known representable within
  · intro age listed
    obtain rfl | listed := List.mem_cons.mp listed
    · exact Instant.ago_fits representable _
    · obtain rfl := List.mem_singleton.mp listed
      exact Instant.ago_fits representable _

/-- Settings that leave a run one second until it counts as stale and keep nothing that is over. -/
def narrowDocument : String :=
  "[queue]\nhandler_timeout_secs = 299\nstale_after_secs = 300\nretention_secs = 0\n"

def narrowConfig : Config :=
  { Config.default with
    queue := { QueueConfig.default with
      handlerTimeoutSeconds := 299, staleAfterSeconds := 300, retentionSeconds := 0 } }

/-- The end of a leap second. -/
def leapEnd : Instant := ⟨1483228799, 1999999999⟩

/-- The last moment at which a handler may run that started at the end of the leap second. -/
def lastMoment : Instant := ⟨1483229098, 999999999⟩

/-- The history before the claim at the end of the leap second. -/
def beforehand : List QueueOperation := [.push ⟨.ofNat 1⟩ leapEnd "mail" (.list []) {}]

/-- What goes on while the handler runs. -/
def meanwhile : List QueueOperation :=
  [.push ⟨.ofNat 2⟩ leapEnd "mail" (.list []) {},
    .reap lastMoment (lastMoment.ago narrowConfig.queue.staleAfter),
    .purge (lastMoment.ago narrowConfig.queue.retention)]

/-- The world at the last moment. -/
def lastWorld : World Logging :=
  { World.start lastMoment
      ((Backend.empty .table).run (beforehand ++ .claim [defaultTopic] leapEnd :: meanwhile)).2
      (fun _ => 0) ⟨fun _ count => .ofNat (count + 1), fun _ => 0⟩ ⟨⟩ with
    pushed := [⟨.ofNat 1⟩, ⟨.ofNat 2⟩] }

/-- The task as its row reads once it is claimed. -/
def leapTask : Task :=
  (Task.new ⟨.ofNat 1⟩ "mail" (.list []) {} leapEnd.floorMillis).claimed leapEnd.floorMillis

theorem QueueConfig.spares_live_runs_leap :
    Config.read narrowDocument = .ok narrowConfig ∧
      (((Backend.empty .table).run beforehand).2.claim [defaultTopic] leapEnd).1 =
        .ok (some leapTask) ∧
      leapEnd.WithinDelay narrowConfig.queue.handlerTimeout lastMoment ∧
      narrowConfig.queue.ReapSpares lastWorld leapTask ∧
      narrowConfig.queue.PurgeSpares lastWorld := by
  have accepted : Config.read narrowDocument = .ok narrowConfig := by decide +kernel
  have claimed : (((Backend.empty .table).run beforehand).2.claim [defaultTopic] leapEnd).1 =
      .ok (some leapTask) := by with_unfolding_all rfl
  have sum : leapEnd.add? ⟨narrowConfig.queue.handlerTimeout.nanos⟩ = some lastMoment := by decide
  have within : leapEnd.WithinDelay narrowConfig.queue.handlerTimeout lastMoment := by
    intro limit reached
    rw [← Option.some.inj (sum.symm.trans reached)]
    decide
  have spares : ∀ operation ∈ meanwhile, narrowConfig.queue.Spares leapTask.id leapEnd operation :=
    List.forall_mem_cons.mpr ⟨trivial, List.forall_mem_cons.mpr
      ⟨⟨by decide, within, rfl⟩, List.forall_mem_singleton.mpr trivial⟩⟩
  have promised := @QueueConfig.spares_live_runs Logging _ _ _ accepted
  exact ⟨accepted, claimed, within,
    promised.1 .table beforehand meanwhile [defaultTopic] leapEnd leapTask lastWorld (by decide)
      (by decide) claimed spares rfl (by decide) within,
    promised.2.1 lastWorld (by decide)⟩

end TaskAutomation
