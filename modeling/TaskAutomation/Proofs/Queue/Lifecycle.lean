import TaskAutomation.Proofs.Queue.History

/-!
This file proves the life cycle of tasks over whole histories. A record only moves along the edges
of the life cycle, it is frozen once it is over, what it was pushed with stays, its lines of
diagnostics grow at the end, and an identifier whose record has been purged stays without one. The
number of records is the number of pushes less the number of rows that purges have reported.

All but the last of these are facts about the change of one record, carried along the history: two
records of one task that are apart by a history are joined by the changes between them.
-/

namespace TaskAutomation

/-! ### The edges of the life cycle -/

/-- How an operation may move the state of a task. -/
inductive TaskStatus.Moves : QueueOperation → TaskStatus → TaskStatus → Prop where
  | stays (operation : QueueOperation) (status : TaskStatus) : Moves operation status status
  | claimed (topics : List String) (now : Instant) : Moves (.claim topics now) .pending .process
  | completed (report : RunReport) : Moves (.complete report) .process .done
  | failed (report : RunReport) (why : String) : Moves (.fail report why) .process .error
  | rescheduled (report : RunReport) (startAt : Instant) :
    Moves (.reschedule report startAt) .process .pending
  | reaped (now cutoff : Instant) : Moves (.reap now cutoff) .process .pending

/-- Two rows have in common what never changes. -/
structure Row.SameOrigin (before after : Row) : Prop where
  id : after.id = before.id
  handler : after.handler = before.handler
  priority : after.priority = before.priority
  topic : after.topic = before.topic
  collisionSign : after.collisionSign = before.collisionSign
  watcher : after.watcher = before.watcher
  createdAt : after.createdAt = before.createdAt

theorem Row.SameOrigin.trans {first second third : Row} (former : SameOrigin first second)
    (latter : SameOrigin second third) : SameOrigin first third :=
  ⟨latter.id.trans former.id, latter.handler.trans former.handler,
    latter.priority.trans former.priority, latter.topic.trans former.topic,
    latter.collisionSign.trans former.collisionSign, latter.watcher.trans former.watcher,
    latter.createdAt.trans former.createdAt⟩

namespace StoredTask

/-- Two records have in common what never changes. -/
inductive SameOrigin : StoredTask → StoredTask → Prop where
  | task (before after : Task) (same : before.SameOrigin after) :
    SameOrigin (task before) (task after)
  | row (before after : Row) (same : before.SameOrigin after) : SameOrigin (row before) (row after)

theorem SameOrigin.refl (record : StoredTask) : SameOrigin record record := by
  cases record with
  | task held => exact .task held held (.refl held)
  | row cells => exact .row cells cells ⟨rfl, rfl, rfl, rfl, rfl, rfl, rfl⟩

theorem SameOrigin.trans {first second third : StoredTask} (former : SameOrigin first second)
    (latter : SameOrigin second third) : SameOrigin first third := by
  cases former with
  | task before between same =>
    cases latter with
    | task _ after other => exact .task before after (same.trans other)
  | row before between same =>
    cases latter with
    | row _ after other => exact .row before after (same.trans other)

/-- The lines of diagnostics of one record begin with those of another. -/
def Extends (before after : StoredTask) : Prop :=
  ∃ old more, before.info? = some old ∧ after.info? = some (old ++ more)

variable {records newRecords : List StoredTask} {operation : QueueOperation} {reply : QueueReply}
  {record changed : StoredTask}

/-! ### One change -/

theorem Change.sameOrigin (change : Change operation record changed) :
    SameOrigin record changed := by
  cases change with
  | kept => exact .refl record
  | claimed topics now record claims due =>
    cases record with
    | task held => exact .task held _ (held.sameOrigin_claimed now)
    | row cells => exact .row cells _ ⟨rfl, rfl, rfl, rfl, rfl, rfl, rfl⟩
  | settled report apply record task reports named read held =>
    cases record with
    | task own =>
      cases read
      exact .task task _ (QueueOperation.sameOrigin_settlement reports task)
    | row cells => exact .row cells _ ⟨rfl, rfl, rfl, rfl, rfl, rfl, rfl⟩
  | reaped now cutoff record reaps stale =>
    cases record with
    | task held => exact .task held _ (held.sameOrigin_reaped now)
    | row cells => exact .row cells _ ⟨rfl, rfl, rfl, rfl, rfl, rfl, rfl⟩

theorem info?_settled (record : StoredTask) (held : Task) :
    (record.settled held).info? = some held.info := by cases record <;> rfl

theorem Change.extends (change : Change operation record changed) {old : String}
    (lines : record.info? = some old) : ∃ more, changed.info? = some (old ++ more) := by
  cases change with
  | kept => exact ⟨"", by rw [lines, String.append_empty]⟩
  | claimed topics now record claims due =>
    refine ⟨"", ?_⟩
    rw [String.append_empty, ← lines]
    cases record <;> rfl
  | settled report apply record task reports named read held =>
    obtain ⟨more, grown⟩ := QueueOperation.info_settlement reports task
    obtain rfl := Option.some.inj (lines.symm.trans (read_eq_ok read).2.2.1)
    exact ⟨more, by rw [info?_settled, grown]⟩
  | reaped now cutoff record reaps stale =>
    cases record with
    | task held =>
      obtain ⟨more, grown⟩ := Task.exists_appendLine held.info Task.reapedLine
      obtain rfl := Option.some.inj lines
      exact ⟨more, congrArg some grown⟩
    | row cells =>
      simp only [info?] at lines
      split at lines
      · next text cell =>
        obtain rfl := Option.some.inj lines
        simp only [StoredTask.reaped, info?, TableQueue.reaped, cell, Cell.append]
        exact ⟨_, rfl⟩
      · cases lines

theorem Change.moves (change : Change operation record changed) {status : TaskStatus}
    (state : record.status? = some status) :
    ∃ newStatus, changed.status? = some newStatus ∧ status.Moves operation newStatus := by
  cases change with
  | kept => exact ⟨status, state, .stays operation status⟩
  | claimed topics now record claims due =>
    rw [status?_of_isDue due] at state
    cases state
    rw [claims]
    exact ⟨.process, status?_claimed record now, .claimed topics now⟩
  | settled report apply record task reports named read held =>
    rw [(read_eq_ok read).2.1, held] at state
    cases state
    refine ⟨_, status?_settled record _, ?_⟩
    cases operation <;> cases reports
    · exact .completed report
    · exact .failed report _
    · exact .rescheduled report _
  | reaped now cutoff record reaps stale =>
    rw [status?_of_isStale stale] at state
    cases state
    rw [reaps]
    exact ⟨.pending, status?_reaped record now, .reaped now cutoff⟩

/-- A record that is over is not changed. -/
theorem Change.eq_of_ended (change : Change operation record changed) (ended : ¬ record.IsInFlight) :
    changed = record := by
  by_contra different
  exact ended (change.isInFlight different)

/-! ### The number of records -/

/-- The number of tasks that an answer says were stored. -/
def storedCount : QueueReply → Nat
  | .ok (.pushed _) => 1
  | _ => 0

/-- The number of rows that the answer to an operation says were purged. -/
def purgedCount : QueueOperation → QueueReply → Nat
  | .purge _, .ok (.changed rows) => rows
  | _, _ => 0

/-- Only accepted pushes add records, and only purges take some away. -/
theorem Effect.length_eq (effect : Effect records operation reply newRecords) :
    newRecords.length + purgedCount operation reply = records.length + storedCount reply := by
  cases effect with
  | queued | collided => rw [List.length_append]; rfl
  | claimed topics now id record member named due =>
    rw [replace, List.length_map]
    cases (record.claimed now).read <;> rfl
  | settled operation report apply record task reports member named read held =>
    rw [replace, List.length_map]
    cases operation <;> cases reports <;> rfl
  | reaped now cutoff => rw [List.length_map]; rfl
  | purged before rows reported => exact reported
  | found id record member named => cases record.read <;> rfl
  | absent _ report apply reports => cases operation <;> cases reports <;> rfl
  | unreadable _ report apply record fault reports => cases operation <;> cases reports <;> rfl
  | unheld _ report apply record task reports => cases operation <;> cases reports <;> rfl
  | unclaimed | notFound | counted => rfl

/-- Records whose states are known are as many as there are in the five states together. -/
theorem length_eq_sum_countP (known : ∀ record ∈ records, ∃ status, record.status? = some status) :
    records.length =
      (TaskStatus.all.map fun status =>
        records.countP fun record => record.status? = some status).sum := by
  induction records with
  | nil => rfl
  | cons record rest inductionHypothesis =>
    obtain ⟨status, state⟩ := known record List.mem_cons_self
    rw [List.length_cons,
      inductionHypothesis fun other member => known other (List.mem_cons_of_mem record member)]
    simp only [TaskStatus.all, List.map_cons, List.map_nil, List.sum_cons, List.sum_nil,
      List.countP_cons, state]
    cases status <;> simp <;> omega

theorem Effect.counted_inv (effect : Effect records .counts reply newRecords) :
    ∃ counts, reply = .ok (.counted counts) ∧ ∀ status,
      counts.of status = records.countP fun record => record.status? = some status := by
  cases effect with
  | counted counts each => exact ⟨counts, rfl, each⟩
  | settled _ report apply record task reports => cases reports
  | absent _ report apply reports => cases reports
  | unreadable _ report apply record fault reports => cases reports
  | unheld _ report apply record task reports => cases reports

end StoredTask

namespace StoredTask

/-! ### Changes one after another -/

/-- A record becomes another one by changes that operations make. -/
inductive Becomes : StoredTask → StoredTask → Prop where
  | refl (record : StoredTask) : Becomes record record
  | step {operation : QueueOperation} {record changed last : StoredTask}
    (change : Change operation record changed) (rest : Becomes changed last) : Becomes record last

variable {record last : StoredTask}

theorem Becomes.sameOrigin (becomes : Becomes record last) : SameOrigin record last := by
  induction becomes with
  | refl record => exact .refl record
  | step change rest inductionHypothesis => exact change.sameOrigin.trans inductionHypothesis

theorem Becomes.extends (becomes : Becomes record last) {old : String}
    (lines : record.info? = some old) : ∃ more, last.info? = some (old ++ more) := by
  induction becomes generalizing old with
  | refl record => exact ⟨"", by rw [lines, String.append_empty]⟩
  | step change rest inductionHypothesis =>
    obtain ⟨first, grown⟩ := change.extends lines
    obtain ⟨more, final⟩ := inductionHypothesis grown
    exact ⟨first ++ more, by rw [final, String.append_assoc]⟩

theorem Becomes.eq_of_ended (becomes : Becomes record last) (ended : ¬ record.IsInFlight) :
    last = record := by
  induction becomes with
  | refl record => rfl
  | step change rest inductionHypothesis =>
    have same := change.eq_of_ended ended
    rw [same] at inductionHypothesis
    exact inductionHypothesis ended

end StoredTask

namespace Backend

open QueueOperation StoredTask

variable {backend : Backend} {operation : QueueOperation} {history rest : List QueueOperation}

/-! ### One step -/

/-- What one operation does to the record of each task. -/
structure StepLaws (operation : QueueOperation) (before after : List StoredTask) : Prop where
  /-- A state moves along an edge of the life cycle. -/
  moves : ∀ a ∈ before, ∀ b ∈ after, a.id? = b.id? → ∃ old new,
    a.status? = some old ∧ b.status? = some new ∧ old.Moves operation new
  /-- A task in flight is not removed. -/
  inFlight : ∀ a ∈ before, a.IsInFlight → ∃ b ∈ after, b.id? = a.id?
  /-- A task that is over stays as it is, unless it is purged. -/
  ended : ∀ a ∈ before, ¬ a.IsInFlight →
    a ∈ after ∨ (∃ time, operation = .purge time) ∧ ∀ b ∈ after, b.id? ≠ a.id?

theorem InOrder.known (inOrder : backend.InOrder) {record : StoredTask}
    (member : record ∈ backend.records) :
    (∃ id, record.id? = some id) ∧ (∃ status, record.status? = some status) ∧
      ∃ info, record.info? = some info := by
  cases backend with
  | memory queue =>
    obtain ⟨held, -, rfl⟩ := List.mem_map.mp member
    exact ⟨⟨held.id, rfl⟩, ⟨held.status, rfl⟩, ⟨held.info, rfl⟩⟩
  | table kept =>
    obtain ⟨row, inside, rfl⟩ := List.mem_map.mp member
    have own := inOrder row inside
    obtain ⟨info, cell⟩ := own.info
    refine ⟨own.exists_id?, own.exists_status?, info, ?_⟩
    simp only [info?, cell]

namespace Sound

/-- A record after an operation on a task that had a record before comes from that record. -/
theorem change_of_id?_eq (sound : backend.Sound (operation :: rest)) {a b : StoredTask}
    (before : a ∈ backend.records) (after : b ∈ (backend.step operation).2.records)
    (same : a.id? = b.id?) : Change operation a b := by
  obtain ⟨former, inside, change⟩ | ⟨id, pushed, named, -⟩ :=
    sound.effect.backward sound.distinct after
  · have equal := sound.distinct.eq_of_id?_eq before inside (same.trans change.id?_eq)
    rw [equal]
    exact change
  · refine absurd (same.trans named) (sound.fresh id ?_ a before)
    rw [pushedIds_cons, pushed]
    exact List.mem_append_left _ (List.mem_singleton_self id)

theorem stepLaws (sound : backend.Sound (operation :: rest)) :
    StepLaws operation backend.records (backend.step operation).2.records := by
  refine ⟨fun a before b after same => ?_, fun a before inFlight => ?_, fun a before ended => ?_⟩
  · obtain ⟨status, state⟩ := (sound.inOrder.known before).2.1
    obtain ⟨newStatus, newState, moves⟩ := (sound.change_of_id?_eq before after same).moves state
    exact ⟨status, newStatus, state, newState, moves⟩
  · obtain ⟨changed, after, change⟩ | ⟨time, -, expired⟩ :=
      sound.effect.forward sound.distinct before
    · exact ⟨changed, after, change.id?_eq⟩
    · exact absurd inFlight (not_isInFlight_of_isExpired expired)
  · by_cases after : a ∈ (backend.step operation).2.records
    · exact Or.inl after
    · refine Or.inr ⟨?_, fun b inside same => after ?_⟩
      · obtain ⟨changed, inside, change⟩ | ⟨time, purges, -⟩ :=
          sound.effect.forward sound.distinct before
        · rw [change.eq_of_ended ended] at inside
          exact absurd inside after
        · exact ⟨time, purges⟩
      · rw [← (sound.change_of_id?_eq before inside same.symm).eq_of_ended ended]
        exact inside

/-! ### Whole histories -/

/-- A task without a record that is not pushed any more never has one again. -/
theorem gone (sound : backend.Sound history) {id : TaskId} (unused : id ∉ pushedIds history)
    (missing : ∀ a ∈ backend.records, a.id? ≠ some id) :
    ∀ b ∈ (backend.run history).2.records, b.id? ≠ some id := by
  intro b member named
  obtain ⟨former, inside, same⟩ | pushed := sound.id_origin member named
  · exact missing former inside same
  · exact unused pushed

/-- Two records of one task that are apart by a history are joined by changes. -/
theorem becomes (sound : backend.Sound history) {a b : StoredTask} (before : a ∈ backend.records)
    (after : b ∈ (backend.run history).2.records) (same : a.id? = b.id?) : Becomes a b := by
  induction history generalizing backend a with
  | nil =>
    rw [sound.distinct.eq_of_id?_eq before after same]
    exact .refl b
  | cons operation rest inductionHypothesis =>
    rw [run_cons] at after
    obtain ⟨id, named⟩ := (sound.inOrder.known before).1
    obtain ⟨between, inside, known⟩ | pushed := sound.step.id_origin after (same.symm.trans named)
    · have change := sound.change_of_id?_eq before inside (named.trans known.symm)
      exact .step change (inductionHypothesis sound.step inside after
        (change.id?_eq.trans same))
    · refine absurd named (sound.fresh id ?_ a before)
      rw [pushedIds_cons]
      exact List.mem_append_right _ pushed

theorem ended_run (sound : backend.Sound history) {a : StoredTask} (before : a ∈ backend.records)
    (ended : ¬ a.IsInFlight) :
    a ∈ (backend.run history).2.records ∨
      (∃ time, .purge time ∈ history) ∧ ∀ b ∈ (backend.run history).2.records, b.id? ≠ a.id? := by
  induction history generalizing backend with
  | nil => exact Or.inl before
  | cons operation rest inductionHypothesis =>
    rw [run_cons]
    obtain after | ⟨⟨time, purges⟩, missing⟩ := sound.stepLaws.ended a before ended
    · obtain still | ⟨⟨time, later⟩, missing⟩ := inductionHypothesis sound.step after
      · exact Or.inl still
      · exact Or.inr ⟨⟨time, List.mem_cons_of_mem operation later⟩, missing⟩
    · obtain ⟨id, named⟩ := (sound.inOrder.known before).1
      rw [named] at missing ⊢
      refine Or.inr ⟨⟨time, purges ▸ List.mem_cons_self⟩, sound.step.gone ?_ missing⟩
      intro pushed
      refine sound.fresh id ?_ a before named
      rw [pushedIds_cons]
      exact List.mem_append_right _ pushed

/-- The records that there are and the rows that were purged are together as many as the records
that there were and the tasks that were stored. -/
theorem length_run (sound : backend.Sound history) :
    (backend.run history).2.records.length +
        (List.zipWith purgedCount history (backend.run history).1).sum =
      backend.records.length + ((backend.run history).1.map storedCount).sum := by
  induction history generalizing backend with
  | nil => rfl
  | cons operation rest inductionHypothesis =>
    have first := sound.effect.length_eq
    have later := inductionHypothesis sound.step
    simp only [run_cons, List.zipWith_cons_cons, List.sum_cons, List.map_cons]
    omega

end Sound

/-- A look at the counts of a queue in order gives the number of its records in each state. -/
theorem counts_total (inOrder : backend.InOrder) (distinct : Distinct backend.records) :
    ∃ counts, backend.counts = .ok counts ∧ counts.total = backend.records.length := by
  obtain ⟨counts, counted, each⟩ :=
    (step_effect inOrder distinct .counts (fun id pushed => by cases pushed)).1.counted_inv
  refine ⟨counts, ?_, ?_⟩
  · have answer : backend.counts.map QueueAnswer.counted = .ok (.counted counts) := counted
    cases looked : backend.counts with
    | error fault =>
      rw [looked] at answer
      cases answer
    | ok found =>
      rw [looked] at answer
      cases answer
      rfl
  · rw [length_eq_sum_countP fun record member => (inOrder.known member).2.1]
    simp only [TaskStatus.all, List.map_cons, List.map_nil, List.sum_cons, List.sum_nil, ← each,
      TaskCounts.total, TaskCounts.of]
    omega

/-- What the records of a queue have in common with those that it has some operations later, where
some identifiers had been used for tasks before. -/
structure HistoryLaws (used : List TaskId) (future : List QueueOperation)
    (before after : List StoredTask) : Prop where
  /-- What a task was pushed with never changes. -/
  origin : ∀ a ∈ before, ∀ b ∈ after, a.id? = b.id? → SameOrigin a b
  /-- The lines of diagnostics only grow at their end. -/
  lines : ∀ a ∈ before, ∀ b ∈ after, a.id? = b.id? → Extends a b
  /-- A task that is over stays as it is until it is purged. -/
  ended : ∀ a ∈ before, ¬ a.IsInFlight →
    a ∈ after ∨ (∃ time, .purge time ∈ future) ∧ ∀ b ∈ after, b.id? ≠ a.id?
  /-- A task that has been removed does not come back. -/
  gone : ∀ id ∈ used, (∀ a ∈ before, a.id? ≠ some id) → ∀ b ∈ after, b.id? ≠ some id

/-- The life cycle of tasks along every history that pushes no identifier twice: `past` leads to a
state, and `future` leads on from it. -/
theorem lifecycle (storage : Storage) (past future : List QueueOperation)
    (unique : (pushedIds (past ++ future)).Nodup) :
    (∀ operation rest, future = operation :: rest →
      StepLaws operation ((empty storage).run past).2.records
        (((empty storage).run past).2.step operation).2.records) ∧
    HistoryLaws (pushedIds past) future ((empty storage).run past).2.records
      ((empty storage).run (past ++ future)).2.records ∧
    ∃ counts, ((empty storage).run past).2.counts = .ok counts ∧
      counts.total + (List.zipWith purgedCount past ((empty storage).run past).1).sum =
        (((empty storage).run past).1.map storedCount).sum := by
  have start := Sound.empty storage unique
  have sound := start.run
  refine ⟨fun operation rest split => ?_, ?_, ?_⟩
  · rw [split] at sound
    exact sound.stepLaws
  · rw [run_append]
    refine ⟨fun a before b after same => (sound.becomes before after same).sameOrigin,
      fun a before b after same => ?_, fun a before ended => sound.ended_run before ended,
      fun id pushed missing => sound.gone (fun later => ?_) missing⟩
    · obtain ⟨old, lines⟩ := (sound.inOrder.known before).2.2
      obtain ⟨more, grown⟩ := (sound.becomes before after same).extends lines
      exact ⟨old, more, lines, grown⟩
    · rw [pushedIds_append] at unique
      exact (List.nodup_append.mp unique).2.2 id pushed id later rfl
  · obtain ⟨counts, counted, total⟩ := counts_total sound.inOrder sound.distinct
    refine ⟨counts, counted, ?_⟩
    rw [pushedIds_append] at unique
    have balance := (Sound.empty storage (List.nodup_append.mp unique).1).length_run
    rw [records_empty, List.length_nil] at balance
    rw [total]
    omega

theorem lifecycle_sample :
    (pushedIds (sampleHistory ++ sampleHistory.drop 2)).Nodup ∧
      HistoryLaws (pushedIds sampleHistory) (sampleHistory.drop 2)
        ((empty .table).run sampleHistory).2.records
        ((empty .table).run (sampleHistory ++ sampleHistory.drop 2)).2.records :=
  ⟨by decide, (lifecycle .table sampleHistory (sampleHistory.drop 2) (by decide)).2.1⟩

end Backend

end TaskAutomation
