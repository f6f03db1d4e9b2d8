import TaskAutomation.Proofs.Json.Depth
import TaskAutomation.Proofs.Queue.Readable

/-!
This file says what an operation that answers with a fault leaves behind. Pushes and reports look at
everything they need before they change anything, so a fault leaves the queue as it was. A claim in a
table goes the other way round: the row is claimed first and read afterwards, and if it does not read
the claim has been made all the same, on a task that nobody has got. In memory nothing has to be read
and a claim never fails. So a fault leaves the queue as it was exactly if it is not the fault of a
claim; and as long as only the queue writes to its table, what makes a claim fail is that params were
accepted which are nested deeper than they can be read.
-/

namespace TaskAutomation

variable {fault : StoreFault}

namespace MemoryQueue

theorem settle_eq_of_error {queue : MemoryQueue} {report : RunReport} {apply : Task → Task}
    (failed : (queue.settle report apply).1 = .error fault) :
    (queue.settle report apply).2 = queue := by
  cases looked : queue.find? report.id with
  | none => rw [settle_absent apply looked]
  | some held =>
    by_cases process : held.status = .process
    · rw [settle_process apply looked process] at failed
      cases failed
    · rw [settle_unheld apply looked process]

end MemoryQueue

namespace TableQueue

variable {table : TableQueue}

theorem push_eq_of_error {id : TaskId} {now : Instant} {handler : String} {params : Json}
    {options : PushOptions}
    (failed : (table.push id now handler params options).1 = .error fault) :
    (table.push id now handler params options).2 = table := by
  simp only [push] at failed ⊢
  cases inserted : table.insert (Row.ofTask (Task.new id handler params options now)) with
  | ok changed => simp [inserted] at failed
  | error why =>
    simp only [inserted] at failed ⊢
    cases signed : (Task.new id handler params options now).collisionSign with
    | none => rfl
    | some sign =>
      simp only [signed] at failed ⊢
      cases collided : table.pushCollision (Task.new id handler params options now) sign with
      | ok pushed => simp [collided] at failed
      | error why => rfl

theorem settle_eq_of_error {report : RunReport} {apply : Task → Task}
    (failed : (table.settle report apply).1 = .error fault) :
    (table.settle report apply).2 = table := by
  cases looked : table.find? report.id with
  | none => rw [settle_absent apply looked]
  | some row =>
    cases read : row.task with
    | error why => rw [settle_unreadable apply looked read]
    | ok task =>
      by_cases process : task.status = .process
      · rw [settle_process apply looked read process] at failed
        cases failed
      · rw [settle_unheld apply looked read process]

/-- A claim that failed, and what it has left: the row that was due is claimed although it does not
read behind the claim, and all other rows are as they were. -/
structure BrokenClaim (table : TableQueue) (topics : List String) (now : Instant) (row : Row)
    (fault : StoreFault) (changed : TableQueue) : Prop where
  due : nextDue? table.rows topics now = some row
  unread : (TableQueue.claimed row now).task = .error fault
  left : changed = ⟨table.rows.map fun other =>
    if decide (other.id = row.id) then TableQueue.claimed other now else other⟩

theorem claim_of_error {topics : List String} {now : Instant}
    (failed : (table.claim topics now).1 = .error fault) :
    ∃ row, table.BrokenClaim topics now row fault (table.claim topics now).2 := by
  cases next : nextDue? table.rows topics now with
  | none =>
    rw [claim_idle next] at failed
    cases failed
  | some row =>
    by_cases present : row.id = .null
    · simp only [claim, next, if_pos present] at failed
      cases failed
    · rw [claim_due next present] at failed ⊢
      refine ⟨row, next, ?_, rfl⟩
      cases read : (TableQueue.claimed row now).task with
      | ok task =>
        rw [read] at failed
        cases failed
      | error why =>
        rw [read] at failed
        cases failed
        rfl

/-- A claim on the row of a task. -/
theorem claim_ofTask {topics : List String} {now : Instant} {task : Task}
    (due : nextDue? table.rows topics now = some (Row.ofTask task)) :
    (table.claim topics now).1 = (TableQueue.claimed (Row.ofTask task) now).task.map some ∧
      TableQueue.claimed (Row.ofTask task) now ∈ (table.claim topics now).2.rows := by
  rw [claim_due due nofun]
  exact ⟨rfl, List.mem_map.mpr ⟨_, (mem_of_nextDue? due).1, if_pos (decide_eq_true rfl)⟩⟩

/-- The table is another one behind a claim that failed: a row was pending and is in process. -/
theorem BrokenClaim.ne {topics : List String} {now : Instant} {row : Row} {changed : TableQueue}
    (broken : table.BrokenClaim topics now row fault changed) : changed ≠ table := by
  obtain ⟨next, -, rfl⟩ := broken
  obtain ⟨member, due⟩ := mem_of_nextDue? next
  intro same
  have rows := congrArg TableQueue.rows same
  have unmoved := List.map_inj_left.mp (rows.trans (List.map_id table.rows).symm) row member
  rw [if_pos (decide_eq_true rfl), id_eq] at unmoved
  have pending : (StoredTask.row row).status? = some .pending := StoredTask.status?_of_isDue due
  have process := StoredTask.status?_claimed (.row row) now
  rw [StoredTask.claimed, unmoved, pending] at process
  cases process

end TableQueue

namespace Backend

variable {backend : Backend} {operation : QueueOperation}

theorem settle_eq_of_error {report : RunReport} {apply : Task → Task}
    (failed : (backend.settle report apply).1 = .error fault) :
    (backend.settle report apply).2 = backend := by
  cases backend with
  | memory queue => exact congrArg Backend.memory (MemoryQueue.settle_eq_of_error failed)
  | table rows => exact congrArg Backend.table (TableQueue.settle_eq_of_error failed)

theorem eq_error_of_map {α : Type} {result : Except StoreFault α} {answer : α → QueueAnswer}
    (failed : result.map answer = .error fault) : result = .error fault := by
  cases result with
  | ok value => cases failed
  | error why =>
    cases failed
    rfl

/-- An operation that fails leaves the queue as it was, unless it is a claim that breaks. -/
theorem step_of_error (failed : (backend.step operation).1 = .error fault) :
    operation.isClaim = false ∧ (backend.step operation).2 = backend ∨
      ∃ topics now table row changed, operation = .claim topics now ∧ backend = .table table ∧
        (backend.step operation).2 = .table changed ∧
        table.BrokenClaim topics now row fault changed := by
  cases operation with
  | push id now handler params options =>
    refine Or.inl ⟨rfl, ?_⟩
    cases backend with
    | memory queue => cases failed
    | table rows =>
      exact congrArg Backend.table (TableQueue.push_eq_of_error (eq_error_of_map failed))
  | claim topics now =>
    cases backend with
    | memory queue => cases failed
    | table rows =>
      obtain ⟨row, broken⟩ := TableQueue.claim_of_error (eq_error_of_map failed)
      exact Or.inr ⟨topics, now, rows, row, _, rfl, rfl, rfl, broken⟩
  | complete report | fail report why | reschedule report startAt =>
    rw [step_settlement backend rfl] at failed ⊢
    exact Or.inl ⟨rfl, settle_eq_of_error (eq_error_of_map failed)⟩
  | get id => exact Or.inl ⟨rfl, rfl⟩
  | counts => exact Or.inl ⟨rfl, rfl⟩
  | reap now cutoff => cases failed
  | purge before => cases failed

/-- What a failed operation leaves behind, in whatever state the queue is: the queue is as it was if
and only if the operation is not a claim, and a claim that fails breaks in a table. -/
theorem unchanged_iff_of_error (backend : Backend) (operation : QueueOperation) (fault : StoreFault)
    (failed : (backend.step operation).1 = .error fault) :
    ((backend.step operation).2 = backend ↔ operation.isClaim = false) ∧
      ∀ topics now, operation = .claim topics now →
        ∃ table row changed, backend = .table table ∧
          (backend.step operation).2 = .table changed ∧
          table.BrokenClaim topics now row fault changed := by
  obtain ⟨unclaimed, same⟩ | ⟨topics, now, table, row, changed, rfl, rfl, after, broken⟩ :=
    step_of_error failed
  · refine ⟨⟨fun _ => unclaimed, fun _ => same⟩, ?_⟩
    rintro topics now rfl
    cases unclaimed
  · refine ⟨⟨fun same => ?_, nofun⟩, ?_⟩
    · exact absurd (Backend.table.inj (after.symm.trans same)) broken.ne
    · rintro _ _ ⟨⟩
      exact ⟨table, row, changed, rfl, after, broken⟩

end Backend

/-! ### Params that are nested too deep -/

/-- Limits on everything but the nesting of params. -/
def Limits.written : Limits where
  params := Json.Valid
  time := Instant.Representable
  millis _ := True

instance : DecidablePred Limits.written.time := fun instant =>
  inferInstanceAs (Decidable instant.Representable)

variable {task : Task}

theorem Task.Within.written (within : task.Within .readable) : task.Within .written :=
  ⟨Json.Storable.valid within.params, within.priority, within.attempt, within.startAt,
    within.executionMillis, within.createdAt, within.updatedAt⟩

theorem Task.Within.readable_of_shallow (within : task.Within .written)
    (shallow : task.params.depth ≤ Json.maxDepth) : task.Within .readable :=
  ⟨⟨within.params, shallow⟩, within.priority, within.attempt, within.startAt,
    within.executionMillis, within.createdAt, within.updatedAt⟩

/-- The row of a task reads if and only if its params are nested no deeper than the reader goes. -/
theorem Row.exists_task_ofTask (within : task.Within .written) :
    (∃ back, (ofTask task).task = .ok back) ↔ task.params.depth ≤ Json.maxDepth := by
  refine ⟨fun ⟨back, read⟩ => ?_, fun shallow =>
    ⟨_, task_ofTask (within.readable_of_shallow shallow)⟩⟩
  obtain ⟨text, written, parsed⟩ := (reads_of_task_eq_ok read).params
  obtain rfl : task.params.compact = text := Cell.text.inj written
  exact (Json.exists_parse_compact within.params).mp ⟨_, parsed⟩

theorem Limits.faithful_written : Limits.written.Faithful := by
  intro task back within read
  have shallow := (Row.exists_task_ofTask within).mp ⟨back, read⟩
  obtain ⟨cut, inside⟩ := Limits.durable_readable.faithful task back
    (within.readable_of_shallow shallow) read
  exact ⟨cut, inside.written⟩

/-- A claim on the row of a task breaks if and only if its params are nested too deep. -/
theorem Row.claimed_task_eq_error_iff (within : task.Within .written) {now : Instant}
    (time : now.Representable) (fits : task.attempt + 1 < Word.size32) :
    (∃ fault, (TableQueue.claimed (ofTask task) now).task = .error fault) ↔
      Json.maxDepth < task.params.depth := by
  have reads := exists_task_ofTask (within.claimed time fits)
  rw [claimed_ofTask within.attempt, ← Nat.not_le]
  show _ ↔ ¬ (task.claimed now).params.depth ≤ Json.maxDepth
  rw [← reads]
  cases (ofTask (task.claimed now)).task <;> simp

namespace Backend

open QueueOperation StoredTask

/-- The attempts of the task that is due still fit when its claim has counted one more. -/
theorem AttemptsFit.of_due {past : List QueueOperation} {topics : List String} {now : Instant}
    (fit : (empty .table).AttemptsFit (past ++ [.claim topics now])) {table : TableQueue}
    (reached : ((empty .table).run past).2 = .table table) {task : Task}
    (small : task.attempt < Word.size32)
    (due : TableQueue.nextDue? table.rows topics now = some (Row.ofTask task)) :
    task.attempt + 1 < Word.size32 := by
  have last := mem_states_run (empty .table) (past ++ [.claim topics now]) []
  rw [List.append_nil, run_append, reached] at last
  have claimed := List.mem_map_of_mem (f := StoredTask.row) (TableQueue.claim_ofTask due).2
  have attempts : (StoredTask.row (Row.ofTask task)).attempt? = some (task.attempt : Int) := rfl
  exact Int.ofNat_lt.mp (fit _ last _ claimed _ (StoredTask.attempt?_claimed attempts small now))

/-- In a table that only the queue writes to, a claim fails if and only if the params of the task
that is due are nested deeper than the reader goes. -/
theorem claim_fails_iff {past : List QueueOperation} {topics : List String} {now : Instant}
    (unique : (pushedIds past).Nodup) (within : ∀ operation ∈ past, operation.Within .written)
    (time : now.Representable) (fit : (empty .table).AttemptsFit (past ++ [.claim topics now]))
    {table : TableQueue} (reached : ((empty .table).run past).2 = .table table) :
    (∃ fault, ((Backend.table table).step (.claim topics now)).1 = .error fault) ↔
      ∃ task : Task, task.Within .written ∧ Json.maxDepth < task.params.depth ∧
        TableQueue.nextDue? table.rows topics now = some (Row.ofTask task) := by
  have sound : (empty .table).Sound (past ++ [.claim topics now]) := .before .table unique rfl
  have inside := sound.within Limits.faithful_written
    (fun record member => absurd member (not_mem_records_empty .table record))
    (fun operation member => (List.mem_append.mp member).elim (within operation)
      fun last => List.mem_singleton.mp last ▸ time) fit
  constructor
  · rintro ⟨fault, failed⟩
    obtain ⟨row, due, unread, -⟩ := TableQueue.claim_of_error (eq_error_of_map failed)
    have before := mem_states_run (empty .table) past [.claim topics now]
    rw [reached] at before
    obtain ⟨task, own, same | same⟩ := inside _ before (.row row)
      (List.mem_map.mpr ⟨row, (TableQueue.mem_of_nextDue? due).1, rfl⟩)
    · cases same
    · obtain rfl := StoredTask.row.inj same
      have fits := fit.of_due reached own.attempt due
      exact ⟨task, own, (Row.claimed_task_eq_error_iff own time fits).mp ⟨fault, unread⟩, due⟩
  · rintro ⟨task, own, deep, due⟩
    have fits := fit.of_due reached own.attempt due
    obtain ⟨fault, unread⟩ := (Row.claimed_task_eq_error_iff own time fits).mpr deep
    refine ⟨fault, ?_⟩
    show (table.claim topics now).1.map QueueAnswer.claimed = _
    rw [(TableQueue.claim_ofTask due).1, unread]
    rfl

/-- A push of params that are nested one level deeper than the reader goes. -/
def deepHistory : List QueueOperation :=
  [.push ⟨.ofNat 1⟩ ⟨0, 0⟩ "mail" (Json.nested 128 .null) {}]

theorem claim_of_deepHistory : ∃ fault,
    (((empty .table).run deepHistory).2.step (.claim [defaultTopic] ⟨0, 0⟩)).1 =
      .error fault := by
  have null : Json.null.Valid := trivial
  have valid := Json.valid_nested null 128
  have unique : (pushedIds deepHistory).Nodup := by decide
  have within : ∀ operation ∈ deepHistory, operation.Within .written := by
    intro operation member
    rw [List.mem_singleton.mp member]
    exact ⟨valid, by decide, nofun, by decide⟩
  have fit : (empty .table).AttemptsFit (deepHistory ++ [.claim [defaultTopic] ⟨0, 0⟩]) :=
    attemptsFit_of_claims unique (by decide)
  refine (claim_fails_iff unique within (by decide) fit rfl).mpr
    ⟨Task.new ⟨.ofNat 1⟩ "mail" (Json.nested 128 .null) {} ⟨0, 0⟩, ?_, ?_, by rfl⟩
  · exact Task.within_new ⟨valid, by decide, nofun, by decide⟩
  · show Json.maxDepth < (Json.nested 128 .null).depth
    rw [Json.depth_nested]
    decide

theorem unchanged_iff_of_error_deep : ∃ fault,
    (((empty .table).run deepHistory).2.step (.claim [defaultTopic] ⟨0, 0⟩)).1 = .error fault ∧
      (((empty .table).run deepHistory).2.step (.claim [defaultTopic] ⟨0, 0⟩)).2 ≠
        ((empty .table).run deepHistory).2 := by
  obtain ⟨fault, failed⟩ := claim_of_deepHistory
  refine ⟨fault, failed, fun same => ?_⟩
  have unclaimed := (unchanged_iff_of_error _ _ fault failed).1.mp same
  cases unclaimed

/-- A failed claim takes a task out of the pending ones and puts it in process. -/
theorem failed_claim_moves : ∃ fault,
    (((empty .table).run deepHistory).2.step (.claim [defaultTopic] ⟨0, 0⟩)).1 = .error fault ∧
      ((empty .table).run deepHistory).2.counts = .ok { pending := 1 } ∧
      (((empty .table).run deepHistory).2.step (.claim [defaultTopic] ⟨0, 0⟩)).2.counts =
        .ok { process := 1 } := by
  obtain ⟨fault, failed⟩ := claim_of_deepHistory
  exact ⟨fault, failed, by rfl, by rfl⟩

end Backend

end TaskAutomation
