import TaskAutomation.Proofs.Queue.Effect
import TaskAutomation.Proofs.Results
import TaskAutomation.Proofs.Time.Millis

/-!
This file is about the rows that are in a table as long as only the queue itself writes to it. Such
a row names its task, its state is one of the five, and its lines of diagnostics are a text.
Whatever else its cells say, that is enough to know which task it is of and what may happen to it,
and every change the queue makes leaves it so.
-/

namespace TaskAutomation

namespace Row

/-! ### Reading one cell -/

theorem taskId_bare (id : TaskId) : taskId id.bare = .ok id := by
  rw [taskId, Id.read_bare]
  rfl

theorem text_eq_ok {column : Column} {cell : Cell} {value : String} :
    text column cell = .ok value ↔ cell = .text value := by
  cases cell <;> simp [text]

theorem integer_eq_ok {column : Column} {cell : Cell} {value : Int} :
    integer column cell = .ok value ↔ cell = .integer value := by
  cases cell <;> simp [integer]

theorem instant_eq_ok {millis : Int} {instant : Instant} (read : Row.instant millis = .ok instant) :
    instant.millis = millis := by
  unfold Row.instant at read
  split at read
  · next found =>
    cases read
    exact Instant.millis_of_ofMillis? found
  · cases read

theorem hasStatus_iff (row : Row) (status : TaskStatus) :
    TableQueue.hasStatus row status = true ↔ (StoredTask.row row).status? = some status := by
  simp only [TableQueue.hasStatus, decide_eq_true_eq, StoredTask.status?]
  cases row.status <;> simp [TaskStatus.ofName?_eq_some]

theorem isInFlight_iff (row : Row) :
    TableQueue.isInFlight row = true ↔ (StoredTask.row row).IsInFlight := by
  rw [TableQueue.isInFlight, Bool.or_eq_true, hasStatus_iff, hasStatus_iff]
  rfl

theorem sign?_eq_some_iff (row : Row) (sign : String) :
    (StoredTask.row row).sign? = some sign ↔ row.collisionSign = .text sign := by
  simp only [StoredTask.sign?]
  cases row.collisionSign <;> simp

theorem atMost_ofInstant_iff {first second : Instant} :
    (ofInstant first).atMost (ofInstant second) = true ↔ first.millis ≤ second.millis := by
  show (!decide (second.millis < first.millis)) = true ↔ _
  rw [← decide_not, decide_eq_true_eq, Int.not_lt]

theorem ofText?_eq_text {value : Option String} {text : String} :
    ofText? value = .text text ↔ value = some text := by
  cases value <;> simp [ofText?]

theorem ofText?_eq_null {value : Option String} : ofText? value = .null ↔ value = none := by
  cases value <;> simp [ofText?]

/-! ### The row of a task -/

@[simp] theorem id?_ofTask (task : Task) : (StoredTask.row (ofTask task)).id? = some task.id := by
  show (taskId task.id.bare).toOption = some task.id
  rw [taskId_bare]
  rfl

@[simp] theorem status?_ofTask (task : Task) :
    (StoredTask.row (ofTask task)).status? = some task.status :=
  TaskStatus.ofName?_name task.status

@[simp] theorem sign?_ofTask (task : Task) :
    (StoredTask.row (ofTask task)).sign? = task.collisionSign := by
  simp only [StoredTask.sign?, ofTask]
  cases task.collisionSign <;> rfl

/-! ### Rows that are kept -/

/-- A row as the queue itself writes it, as far as the life of its task depends on it. -/
structure Kept (row : Row) : Prop where
  id : ∃ id : TaskId, row.id = .text id.bare
  status : ∃ status : TaskStatus, row.status = .text status.name
  info : ∃ info : String, row.info = .text info

variable {row : Row}

theorem kept_ofTask (task : Task) : (ofTask task).Kept :=
  ⟨⟨task.id, rfl⟩, ⟨task.status, rfl⟩, ⟨task.info, rfl⟩⟩

theorem Kept.claimed (kept : row.Kept) (now : Instant) : (TableQueue.claimed row now).Kept :=
  ⟨kept.id, ⟨.process, rfl⟩, kept.info⟩

theorem Kept.settled (kept : row.Kept) (task : Task) : (TableQueue.settled row task).Kept :=
  ⟨kept.id, ⟨task.status, rfl⟩, ⟨task.info, rfl⟩⟩

theorem Kept.reaped (kept : row.Kept) (now : Instant) : (TableQueue.reaped row now).Kept := by
  obtain ⟨info, text⟩ := kept.info
  refine ⟨kept.id, ⟨.pending, rfl⟩, ?_⟩
  rw [TableQueue.reaped, text]
  exact ⟨_, rfl⟩

theorem Kept.id?_eq_some_iff (kept : row.Kept) (id : TaskId) :
    (StoredTask.row row).id? = some id ↔ row.id = .text id.bare := by
  obtain ⟨own, named⟩ := kept.id
  have read : (StoredTask.row row).id? = some own := by
    simp only [StoredTask.id?, named]
    rw [taskId_bare]
    rfl
  rw [read, named, Cell.text.injEq, Id.bare_injective.eq_iff, Option.some.injEq]

theorem Kept.exists_id? (kept : row.Kept) : ∃ id, (StoredTask.row row).id? = some id := by
  obtain ⟨id, named⟩ := kept.id
  exact ⟨id, (kept.id?_eq_some_iff id).mpr named⟩

theorem Kept.exists_status? (kept : row.Kept) :
    ∃ status, (StoredTask.row row).status? = some status := by
  obtain ⟨status, named⟩ := kept.status
  refine ⟨status, ?_⟩
  simp only [StoredTask.status?, named]
  exact TaskStatus.ofName?_name status

/-- Two rows are of one task exactly when their first cells agree. -/
theorem Kept.id?_eq_iff (kept : row.Kept) {other : Row} (keptOther : other.Kept) :
    (StoredTask.row row).id? = (StoredTask.row other).id? ↔ row.id = other.id := by
  obtain ⟨id, named⟩ := keptOther.exists_id?
  rw [named, kept.id?_eq_some_iff, (keptOther.id?_eq_some_iff id).mp named]

/-! ### What a row that reads says -/

theorem bounded_eq_ok {column : Column} {least most value : Int} {cell : Cell}
    (read : bounded column least most cell = .ok value) :
    cell = .integer value ∧ least ≤ value := by
  obtain ⟨found, kind, inside⟩ := bind_eq_ok.mp read
  split at inside
  · next bounds =>
    cases inside
    refine ⟨?_, bounds.1⟩
    cases cell <;> cases kind
    rfl
  · cases inside

theorem values_eq_ok {values : Values} (read : row.values = .ok values) :
    row.id = .text values.id ∧ row.params = .text values.params ∧
      row.status = .text values.status ∧ row.topic = .text values.topic ∧
      row.startAt = .integer values.startAt ∧ row.attempt = .integer (values.attempt : Int) ∧
      row.info = .text values.info := by
  unfold Row.values at read
  simp only [bind_eq_ok, text_eq_ok, integer_eq_ok] at read
  obtain ⟨id, named, handler, -, params, written, status, state, read⟩ := read
  obtain ⟨priority, -, topic, subject, sign, -, startAt, time, attempt, counted, read⟩ := read
  obtain ⟨millis, -, info, lines, error, -, watcher, -, createdAt, -, updatedAt, -, read⟩ := read
  obtain ⟨cell, least⟩ := bounded_eq_ok counted
  cases read
  refine ⟨named, written, state, subject, time, ?_, lines⟩
  rw [cell, Int.toNat_of_nonneg least]

/-- What the cells of a row say if it reads as a task: the row names the task, its params are read
from their text, and the state, the topic, the start, the attempts and the lines of diagnostics are
those in its cells. -/
structure Reads (row : Row) (task : Task) : Prop where
  id : (StoredTask.row row).id? = some task.id
  params : ∃ text, row.params = .text text ∧ Json.parse text = .ok task.params
  status : (StoredTask.row row).status? = some task.status
  topic : row.topic = .text task.topic
  startAt : row.startAt = ofInstant task.startAt
  attempt : (StoredTask.row row).attempt? = some (task.attempt : Int)
  info : (StoredTask.row row).info? = some task.info

theorem reads_of_task_eq_ok {task : Task} (read : row.task = .ok task) : row.Reads task := by
  unfold Row.task at read
  obtain ⟨values, cells, read⟩ := bind_eq_ok.mp read
  obtain ⟨named, written, state, subject, time, attempt, lines⟩ := values_eq_ok cells
  unfold Values.task at read
  obtain ⟨id, identified, read⟩ := bind_eq_ok.mp read
  obtain ⟨params, parsed, read⟩ := bind_eq_ok.mp read
  split at read
  · next status known =>
    simp only [bind_eq_ok] at read
    obtain ⟨_, same, startAt, starts, createdAt, -, updatedAt, -, read⟩ := read
    cases same
    cases read
    refine ⟨?_, ⟨values.params, written, mapError_eq_ok.mp parsed⟩, ?_, subject, ?_, ?_, ?_⟩
    · simp only [StoredTask.id?, named]
      rw [identified]
      rfl
    · simp only [StoredTask.status?, state, known]
    · rw [time, ofInstant, instant_eq_ok starts]
    · simp only [StoredTask.attempt?, attempt]
    · simp only [StoredTask.info?, lines]
  · cases read

end Row

end TaskAutomation
