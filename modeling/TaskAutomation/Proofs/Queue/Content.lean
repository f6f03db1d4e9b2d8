import TaskAutomation.Proofs.Queue.Lifecycle

/-!
This file is about what a record says of the work on its task: the name of the handler, the params,
and whether the task is a watcher. They are read off the cells, so they are known even of a row that
does not read as a task, and the task that a record reads as has them. No change of a record touches
the name of the handler or whether the task is a watcher, and only a report that brings new params
puts others in the place of the old ones.
-/

namespace TaskAutomation.StoredTask

/-- The name of the handler in a record. -/
def handler? : StoredTask → Option String
  | task held => some held.handler
  | row cells =>
    match cells.handler with
    | .text text => some text
    | _ => none

/-- The params in a record. -/
def params? : StoredTask → Option Json
  | task held => some held.params
  | row cells =>
    match cells.params with
    | .text text => (Json.parse text).toOption
    | _ => none

/-- Whether a record is that of a watcher. -/
def watcher? : StoredTask → Option Bool
  | task held => some held.watcher
  | row cells =>
    match cells.watcher with
    | .integer n => some (n ≠ 0)
    | _ => none

variable {record changed : StoredTask} {held : Task}

/-! ### Records of tasks -/

theorem handler?_of_isOf (stored : record.IsOf held) : record.handler? = some held.handler := by
  obtain rfl | rfl := stored <;> rfl

theorem watcher?_of_isOf (stored : record.IsOf held) : record.watcher? = some held.watcher := by
  obtain rfl | rfl := stored
  · rfl
  · simp only [watcher?, Row.ofTask]
    cases held.watcher <;> rfl

theorem params?_of_isOf (stored : record.IsOf held)
    (written : Json.parse held.params.compact = .ok held.params) :
    record.params? = some held.params := by
  obtain rfl | rfl := stored
  · rfl
  · simp only [params?, Row.ofTask, written]
    rfl

/-! ### Reading -/

theorem row_values_eq_ok {row : Row} {values : Row.Values} (read : row.values = .ok values) :
    row.handler = .text values.handler ∧
      ∃ n, row.watcher = .integer n ∧ values.watcher = decide (n ≠ 0) := by
  unfold Row.values at read
  simp only [bind_eq_ok, Row.text_eq_ok, Row.integer_eq_ok] at read
  obtain ⟨id, -, handler, name, params, -, status, -, read⟩ := read
  obtain ⟨priority, -, topic, -, sign, -, startAt, -, attempt, -, read⟩ := read
  obtain ⟨millis, -, info, -, error, -, watcher, watches, createdAt, -, updatedAt, -, read⟩ := read
  cases read
  exact ⟨name, watcher, watches, rfl⟩

theorem row_values_of_task_eq_ok {row : Row} {held : Task} (read : row.task = .ok held) :
    ∃ values, row.values = .ok values ∧ held.handler = values.handler ∧
      held.watcher = values.watcher := by
  unfold Row.task at read
  obtain ⟨values, cells, read⟩ := bind_eq_ok.mp read
  unfold Row.Values.task at read
  obtain ⟨id, -, read⟩ := bind_eq_ok.mp read
  obtain ⟨params, -, read⟩ := bind_eq_ok.mp read
  split at read
  · simp only [bind_eq_ok] at read
    obtain ⟨_, same, startAt, -, createdAt, -, updatedAt, -, read⟩ := read
    cases read
    exact ⟨values, cells, rfl, rfl⟩
  · cases read

/-- A record that reads as a task says of the work on it what the task says. -/
theorem read_content (read : record.read = .ok held) :
    record.handler? = some held.handler ∧ record.params? = some held.params ∧
      record.watcher? = some held.watcher := by
  cases record with
  | task own =>
    cases read
    exact ⟨rfl, rfl, rfl⟩
  | row cells =>
    obtain ⟨values, row, handler, watcher⟩ := row_values_of_task_eq_ok read
    obtain ⟨name, n, watches, same⟩ := row_values_eq_ok row
    obtain ⟨text, written, parsed⟩ := (Row.reads_of_task_eq_ok read).params
    refine ⟨?_, ?_, ?_⟩
    · simp only [handler?, name, handler]
    · simp only [params?, written, parsed]
      rfl
    · simp only [watcher?, watches, watcher, same]

/-! ### Changes -/

theorem SameOrigin.handler?_eq (same : SameOrigin record changed) :
    changed.handler? = record.handler? := by
  cases same with
  | task before after same => exact congrArg some same.handler
  | row before after same =>
    simp only [handler?]
    rw [same.handler]

theorem SameOrigin.watcher?_eq (same : SameOrigin record changed) :
    changed.watcher? = record.watcher? := by
  cases same with
  | task before after same => exact congrArg some same.watcher
  | row before after same =>
    simp only [watcher?]
    rw [same.watcher]

@[simp] theorem params?_claimed (record : StoredTask) (now : Instant) :
    (record.claimed now).params? = record.params? := by cases record <;> rfl

@[simp] theorem params?_reaped (record : StoredTask) (now : Instant) :
    (record.reaped now).params? = record.params? := by cases record <;> rfl

theorem params?_settled (record : StoredTask) (held : Task) :
    (record.settled held).params? = some held.params ∨
      (record.settled held).params? = (Json.parse held.params.compact).toOption := by
  cases record with
  | task own => exact Or.inl rfl
  | row cells => exact Or.inr rfl

theorem params_settlement {operation : QueueOperation} {report : RunReport} {apply : Task → Task}
    (settles : operation.settlement? = some (report, apply)) (task : Task) :
    (apply (task.absorb report)).params = report.params.getD task.params := by
  cases operation <;> cases settles <;> rw [Task.absorb_eq] <;> rfl

/-- A change leaves a record its params as long as no report brings others and the params are read
from their own text as they are. -/
theorem Change.params?_eq {operation : QueueOperation} {params : Json}
    (change : Change operation record changed)
    (silent : ∀ report apply, operation.settlement? = some (report, apply) →
      record.id? = some report.id → report.params = none)
    (written : Json.parse params.compact = .ok params) (known : record.params? = some params) :
    changed.params? = some params := by
  cases change with
  | kept => exact known
  | claimed topics now record claims due => rw [params?_claimed, known]
  | reaped now cutoff record reaps stale => rw [params?_reaped, known]
  | settled report apply record task reports named read held =>
    have same : task.params = params :=
      Option.some.inj ((read_content read).2.1.symm.trans known)
    have kept : (apply (task.absorb report)).params = params := by
      rw [params_settlement reports, silent report apply reports named]
      exact same
    obtain plain | encoded := record.params?_settled (apply (task.absorb report))
    · rw [plain, kept]
    · rw [encoded, kept, written]
      rfl

end TaskAutomation.StoredTask
