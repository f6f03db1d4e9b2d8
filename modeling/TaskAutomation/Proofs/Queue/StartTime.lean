import TaskAutomation.Proofs.Queue.History

/-!
This file proves that no task runs before its time. The start that was asked for last, by the push
of a task or by a report that put it off, is what its record holds, in memory as it was given and in
a table cut to its millisecond. Claims and reaps leave it alone. A claim compares it with the time
of the claim in the same way, so a table may be early, by less than the millisecond that both times
lie in; a start that is a whole number of milliseconds it keeps to.
-/

namespace TaskAutomation

/-- The start of a task that an operation asks for and an answer grants. -/
def QueueOperation.startRequest? (id : TaskId) : QueueOperation → QueueReply → Option Instant
  | push own now _ _ options, .ok _ =>
    if own = id then some (options.startAt.getD now) else none
  | reschedule report startAt, .ok _ => if report.id = id then some startAt else none
  | _, _ => none

/-- The start of a task that was asked for last in a history. -/
def Backend.requestedStart? (backend : Backend) (id : TaskId) : List QueueOperation → Option Instant
  | [] => none
  | operation :: rest =>
    let (reply, changed) := backend.step operation
    (changed.requestedStart? id rest).or (operation.startRequest? id reply)

namespace StoredTask

open QueueOperation

/-- The record holds a start. -/
def StartsAt (record : StoredTask) (start : Instant) : Prop :=
  match record with
  | task held => held.startAt = start
  | row cells => cells.startAt = Row.ofInstant start

/-- The records hold the starts that are asked for. -/
def Started (starts : TaskId → Option Instant) (records : List StoredTask) : Prop :=
  ∀ record ∈ records, ∀ id, record.id? = some id →
    ∃ start, starts id = some start ∧ record.StartsAt start

variable {records newRecords : List StoredTask} {operation : QueueOperation} {reply : QueueReply}
  {record new : StoredTask} {id other : TaskId} {start : Instant}

/-! ### Changes of one record -/

theorem StartsAt.claimed (starts : record.StartsAt start) (now : Instant) :
    (record.claimed now).StartsAt start := by
  cases record <;> exact starts

theorem StartsAt.reaped (starts : record.StartsAt start) (now : Instant) :
    (record.reaped now).StartsAt start := by
  cases record <;> exact starts

theorem startsAt_of_isOf {held : Task} (same : record.IsOf held) :
    record.StartsAt held.startAt := by
  obtain rfl | rfl := same <;> rfl

theorem startsAt_settled (record : StoredTask) (held : Task) :
    (record.settled held).StartsAt held.startAt := by
  cases record <;> rfl

/-- The start that a record that reads has. -/
theorem StartsAt.millis_eq {held : Task} (starts : record.StartsAt start)
    (read : record.read = .ok held) : held.startAt.millis = start.millis := by
  cases record with
  | task own =>
    cases read
    exact congrArg Instant.millis starts
  | row cells =>
    have cell := (Row.reads_of_task_eq_ok read).startAt
    exact Cell.integer.inj (cell.symm.trans starts)

/-- A report that leaves the start of a task alone leaves the one that its record holds alone, even
if only the millisecond of it can be read. -/
theorem StartsAt.settled {task changed : Task} (starts : record.StartsAt start)
    (read : record.read = .ok task) (same : changed.startAt = task.startAt) :
    (record.settled changed).StartsAt start := by
  have millis := starts.millis_eq read
  cases record with
  | task own =>
    cases read
    exact same.trans starts
  | row cells =>
    show Row.ofInstant changed.startAt = Row.ofInstant start
    rw [same, Row.ofInstant, Row.ofInstant, millis]

/-- The start behind a report: the one that the report asks for, or the one before it. -/
theorem StartsAt.settlement {report : RunReport} {apply : Task → Task} {task : Task}
    (reports : operation.settlement? = some (report, apply)) (starts : record.StartsAt start)
    (read : record.read = .ok task) (answer : QueueAnswer) :
    (record.settled (apply (task.absorb report))).StartsAt
      ((operation.startRequest? report.id (.ok answer)).getD start) := by
  have kept := task.startAt_absorb report
  cases operation with
  | complete own =>
    cases reports
    exact starts.settled read kept
  | fail own why =>
    cases reports
    exact starts.settled read kept
  | reschedule own startAt =>
    cases reports
    show StartsAt _ ((if report.id = report.id then some startAt else none).getD start)
    rw [if_pos rfl]
    exact startsAt_settled record _
  | _ => cases reports

/-! ### All records -/

variable {starts : TaskId → Option Instant}

/-- The starts that are asked for behind an operation. -/
def startsAfter (starts : TaskId → Option Instant) (operation : QueueOperation)
    (reply : QueueReply) (id : TaskId) : Option Instant :=
  (operation.startRequest? id reply).or (starts id)

theorem Started.congr {others : TaskId → Option Instant} (started : Started starts records)
    (same : ∀ record ∈ records, ∀ id, record.id? = some id → others id = starts id) :
    Started others records := by
  intro record member id named
  rw [same record member id named]
  exact started record member id named

/-- Nothing is asked for, and the records keep their starts. -/
theorem Started.quiet (started : Started starts records)
    (none : ∀ id, operation.startRequest? id reply = none) :
    Started (startsAfter starts operation reply) records :=
  started.congr fun _ _ id _ => by rw [startsAfter, none, Option.none_or]

theorem Started.append (started : Started starts records) (named : new.id? = some id)
    (asked : starts id = some start) (starting : new.StartsAt start) :
    Started starts (records ++ [new]) := by
  intro record member own same
  obtain before | added := List.mem_append.mp member
  · exact started record before own same
  · rw [List.mem_singleton.mp added] at same ⊢
    rw [← Option.some.inj (named.symm.trans same)]
    exact ⟨start, asked, starting⟩

/-- A record is replaced, and the starts of all other tasks are asked for as before. -/
theorem Started.replace {others : TaskId → Option Instant} (started : Started starts records)
    (distinct : Distinct records) (member : record ∈ records) (named : record.id? = some id)
    (renamed : new.id? = some id) (same : ∀ other, other ≠ id → others other = starts other)
    (own : ∃ start, others id = some start ∧ new.StartsAt start) :
    Started others (replace records id new) := by
  intro held inside other owned
  obtain rfl | ⟨before, different⟩ := (distinct.mem_replace_iff member named held).mp inside
  · rw [← Option.some.inj (renamed.symm.trans owned)]
    exact own
  · rw [same other]
    · exact started held before other owned
    · rintro rfl
      exact different (distinct.eq_of_id?_eq before member (owned.trans named.symm))

theorem startRequest?_error (operation : QueueOperation) (id : TaskId) (fault : StoreFault) :
    operation.startRequest? id (.error fault) = none := by
  cases operation <;> rfl

/-- A push asks for the start of the new task and of no other. -/
theorem Started.pushed (started : Started starts records) {now : Instant} {handler : String}
    {params : Json} {options : PushOptions} {answer : QueueAnswer} {held : Task}
    (fresh : ∀ record ∈ records, record.id? ≠ some held.id) (stored : new.IsOf held)
    (starting : held.startAt = options.startAt.getD now) :
    Started (startsAfter starts (.push held.id now handler params options) (.ok answer))
      (records ++ [new]) := by
  have asked (id : TaskId) :
      startsAfter starts (.push held.id now handler params options) (.ok answer) id =
        (if held.id = id then some held.startAt else none).or (starts id) := by
    rw [starting]
    rfl
  have others : Started (startsAfter starts (.push held.id now handler params options) (.ok answer))
      records := by
    refine started.congr fun record member id named => ?_
    rw [asked, if_neg, Option.none_or]
    rintro rfl
    exact fresh record member named
  refine others.append (id?_of_isOf stored) ?_ (startsAt_of_isOf stored)
  rw [asked, if_pos rfl, Option.some_or]

theorem startsAfter_settlement_other {report : RunReport} {apply : Task → Task}
    (reports : operation.settlement? = some (report, apply)) (different : report.id ≠ other) :
    startsAfter starts operation reply other = starts other := by
  have none : operation.startRequest? other reply = none := by
    cases reply with
    | error fault => exact startRequest?_error operation other fault
    | ok answer =>
      cases operation with
      | reschedule own startAt =>
        cases reports
        exact if_neg different
      | complete | fail => rfl
      | _ => cases reports
  rw [startsAfter, none, Option.none_or]

/-- What is asked for is what the records hold behind every operation. -/
theorem Effect.started (effect : Effect records operation reply newRecords)
    (distinct : Distinct records)
    (fresh : ∀ id ∈ operation.pushedId?, ∀ record ∈ records, record.id? ≠ some id)
    (started : Started starts records) :
    Started (startsAfter starts operation reply) newRecords := by
  cases effect with
  | queued id now handler params options record free stored =>
    exact started.pushed (fresh id rfl) stored rfl
  | collided id now handler params options sign holder existing record signed member holds named
      stored =>
    exact started.pushed (fresh id rfl) stored rfl
  | claimed topics now id record member named due =>
    have quiet : Started (startsAfter starts (.claim topics now)
        ((record.claimed now).read.map fun task => .claimed (some task))) records :=
      started.quiet fun id => by cases (record.claimed now).read <;> rfl
    obtain ⟨start, asked, starting⟩ := quiet record member id named
    exact quiet.replace distinct member named ((id?_claimed record now).trans named)
      (fun _ _ => rfl) ⟨start, asked, starting.claimed now⟩
  | settled operation report apply record task reports member named read held =>
    obtain ⟨start, asked, starting⟩ := started record member report.id named
    have origin := QueueOperation.sameOrigin_settlement reports task
    refine started.replace distinct member named ((id?_settled read origin.id).trans named)
      (fun other different => startsAfter_settlement_other reports different.symm)
      ⟨_, ?_, starting.settlement reports read (.settled (apply (task.absorb report)))⟩
    rw [startsAfter, asked]
    cases operation.startRequest? report.id (.ok (.settled (apply (task.absorb report)))) <;> rfl
  | reaped now cutoff =>
    intro record member id named
    obtain ⟨former, inside, rfl⟩ := List.mem_map.mp member
    split at named
    · next stale =>
      obtain ⟨start, asked, starting⟩ := started former inside id ((id?_reaped former now) ▸ named)
      rw [if_pos stale]
      exact ⟨start, asked, starting.reaped now⟩
    · next fresh =>
      rw [if_neg fresh]
      exact started former inside id named
  | purged before rows reported =>
    exact fun record member => started.quiet (fun _ => rfl) record (List.mem_filter.mp member).1
  | found id record member named =>
    exact started.quiet fun _ => by cases record.read <;> rfl
  | absent operation | unreadable operation | unheld operation =>
    exact started.quiet fun id => startRequest?_error operation id _
  | unclaimed | notFound | counted => exact started.quiet fun _ => rfl

end StoredTask

/-! ### Claims -/

/-- A queue counts a start as come: in memory the two times are compared as they are, in a table
their milliseconds are. -/
def Storage.HasCome : Storage → Instant → Instant → Prop
  | memory, start, now => start ≤ now
  | table, start, now => start.millis ≤ now.millis

instance (storage : Storage) (start now : Instant) : Decidable (storage.HasCome start now) := by
  cases storage <;> unfold Storage.HasCome <;> infer_instance

/-- A start that is a whole number of milliseconds has come in either queue only when it has. -/
theorem Storage.HasCome.le {storage : Storage} {start now : Instant}
    (come : storage.HasCome start now) (whole : start.Whole)
    (ordinary : now.nanos < nanosPerSecond) : start ≤ now := by
  cases storage with
  | memory => exact come
  | table => exact whole.le_of_millis_le ordinary come

namespace Backend

open QueueOperation StoredTask

variable {backend : Backend} {past future : List QueueOperation} {topics : List String}
  {now start : Instant} {record : StoredTask}

/-- A record that is due has come to its start, and its topic is one of those asked for. -/
theorem hasCome_of_isDue (member : record ∈ backend.records) (due : record.isDue topics now = true)
    (starts : record.StartsAt start) {held : Task} (read : (record.claimed now).read = .ok held) :
    backend.storage.HasCome start now ∧ held.topic ∈ topics := by
  cases backend with
  | memory queue =>
    obtain ⟨own, -, rfl⟩ := List.mem_map.mp member
    cases read
    obtain rfl : own.startAt = start := starts
    simp only [isDue, Task.isDue, Bool.and_eq_true, decide_eq_true_eq,
      List.contains_iff_mem] at due
    exact ⟨due.1.2, due.2⟩
  | table rows =>
    obtain ⟨cells, -, rfl⟩ := List.mem_map.mp member
    have cell : cells.startAt = Row.ofInstant start := starts
    have subject : cells.topic = .text held.topic := (Row.reads_of_task_eq_ok read).topic
    simp only [isDue, TableQueue.isDue, Bool.and_eq_true, cell, subject, List.any_eq_true,
      decide_eq_true_eq, Cell.text.injEq, exists_eq_right', Row.atMost_ofInstant_iff] at due
    exact ⟨due.1.2, due.2⟩

theorem Sound.started {starts : TaskId → Option Instant} (sound : backend.Sound (past ++ future))
    (started : Started starts backend.records) :
    Started (fun id => (backend.requestedStart? id past).or (starts id))
      (backend.run past).2.records := by
  induction past generalizing backend starts with
  | nil => exact started.congr fun _ _ _ _ => Option.none_or
  | cons operation rest inductionHypothesis =>
    have next := sound.effect.started sound.distinct
      (fun id pushed => sound.fresh id (by
        rw [List.cons_append, pushedIds_cons]
        exact List.mem_append_left _ (Option.mem_toList.mpr pushed))) started
    refine (inductionHypothesis sound.step next).congr fun _ _ id _ => ?_
    exact Option.or_assoc

/-- A task that is handed out has come to the start that was asked for last, as far as the queue
tells times apart, and is of one of the topics. -/
theorem claimed_hasCome (storage : Storage) (past : List QueueOperation) (topics : List String)
    (now : Instant) (held : Task) (unique : (pushedIds past).Nodup)
    (claimed : (((empty storage).run past).2.step (.claim topics now)).1 =
      .ok (.claimed (some held))) :
    ∃ start, (empty storage).requestedStart? held.id past = some start ∧
      storage.HasCome start now ∧
      (start.Whole → now.nanos < nanosPerSecond → start ≤ now) ∧ held.topic ∈ topics := by
  have sound : (empty storage).Sound (past ++ [.claim topics now]) := .before storage unique rfl
  have effect := sound.run.effect
  rw [claimed] at effect
  obtain ⟨record, member, named, due, read, -⟩ := effect.claim_inv
  have nothing : Started (fun _ => none) (empty storage).records := fun record member =>
    absurd member (not_mem_records_empty storage record)
  obtain ⟨start, asked, starting⟩ := sound.started nothing record member held.id named
  simp only [Option.or_none] at asked
  obtain ⟨come, subject⟩ := hasCome_of_isDue member due starting read
  rw [storage_run, storage_empty] at come
  exact ⟨start, asked, come, come.le, subject⟩

/-- A history in which the run of a task puts it off. -/
def putOffHistory : List QueueOperation :=
  [.push ⟨.ofNat 1⟩ ⟨0, 0⟩ "mail" (.list []) {},
    .claim [defaultTopic] ⟨1, 0⟩,
    .reschedule (.bare ⟨.ofNat 1⟩ ⟨2, 0⟩) ⟨5, 0⟩]

/-- The task of that history as it is handed out for the second time. -/
def putOffTask : Task :=
  { Task.new ⟨.ofNat 1⟩ "mail" (.list []) {} ⟨0, 0⟩ with
    status := .process
    startAt := ⟨5, 0⟩
    attempt := 2
    executionMillis := some 0
    updatedAt := ⟨6, 0⟩ }

theorem claimed_hasCome_putOff :
    (((empty .memory).run putOffHistory).2.step (.claim [defaultTopic] ⟨6, 0⟩)).1 =
        .ok (.claimed (some putOffTask)) ∧
      ∃ start, (empty .memory).requestedStart? ⟨.ofNat 1⟩ putOffHistory = some start ∧
        start ≤ ⟨6, 0⟩ ∧ defaultTopic ∈ [defaultTopic] := by
  have claimed : (((empty .memory).run putOffHistory).2.step (.claim [defaultTopic] ⟨6, 0⟩)).1 =
      .ok (.claimed (some putOffTask)) := rfl
  obtain ⟨start, asked, come, -, subject⟩ := claimed_hasCome .memory putOffHistory [defaultTopic]
    ⟨6, 0⟩ putOffTask (by decide) claimed
  exact ⟨claimed, start, asked, come, subject⟩

/-- Within one millisecond a table hands a task out before its start. -/
theorem claimed_within_millisecond :
    (((empty .table).run
        [.push ⟨.ofNat 1⟩ ⟨0, 0⟩ "mail" (.list []) { startAt := some ⟨0, 900000⟩ }]).2.step
          (.claim [defaultTopic] ⟨0, 500000⟩)).1 =
        .ok (.claimed (some ((Task.new ⟨.ofNat 1⟩ "mail" (.list []) {} ⟨0, 0⟩).claimed ⟨0, 0⟩))) ∧
      (empty .table).requestedStart? ⟨.ofNat 1⟩
          [.push ⟨.ofNat 1⟩ ⟨0, 0⟩ "mail" (.list []) { startAt := some ⟨0, 900000⟩ }] =
        some ⟨0, 900000⟩ ∧
      (⟨0, 500000⟩ : Instant) < ⟨0, 900000⟩ :=
  ⟨by with_unfolding_all rfl, by rfl, by decide⟩

end Backend

end TaskAutomation
