import TaskAutomation.Proofs.Id.Text
import TaskAutomation.Queue.Backend

/-!
This file looks at both queues in one way: a queue is a list of records, and a record is a task or
the row of one. What a record says of its identifier, its state, its sign, its attempts and its
lines of diagnostics is read off without reading the whole row, so it is known even of a row that
does not read. Being claimed, settled and taken back are defined on records, and each of them leaves
the identifier and the sign alone.
-/

namespace TaskAutomation

/-! ### Names of states -/

namespace TaskStatus

theorem ofName?_name (status : TaskStatus) : ofName? status.name = some status := by
  cases status <;> decide

theorem name_injective : Function.Injective name := by
  intro a b same
  have read := ofName?_name a
  rw [same, ofName?_name] at read
  exact (Option.some.inj read).symm

theorem ofName?_eq_some {text : String} {status : TaskStatus} :
    ofName? text = some status ↔ text = status.name := by
  refine ⟨fun read => ?_, fun same => by rw [same, ofName?_name]⟩
  have named := List.find?_some read
  exact (eq_of_beq named).symm

end TaskStatus

theorem TaskCounts.of_add (counts : TaskCounts) (status other : TaskStatus) (n : Nat) :
    (counts.add other n).of status = counts.of status + if other = status then n else 0 := by
  cases status <;> cases other <;> rfl

theorem TaskCounts.eq_of_of {a b : TaskCounts} (same : ∀ status, a.of status = b.of status) :
    a = b := by
  obtain ⟨pending, process, done, error, collision⟩ := a
  have pending : pending = b.pending := same .pending
  have process : process = b.process := same .process
  have done : done = b.done := same .done
  have error : error = b.error := same .error
  have collision : collision = b.collision := same .collision
  rw [pending, process, done, error, collision]

/-! ### Choosing -/

/-- Going through a list and keeping the better one of two each time ends at one of its elements. -/
theorem foldl_choice_mem {α : Type} {choose : α → α → α}
    (choice : ∀ a b, choose a b = a ∨ choose a b = b) (start : α) (rest : List α) :
    rest.foldl choose start ∈ start :: rest := by
  induction rest generalizing start with
  | nil => exact List.mem_singleton_self start
  | cons other rest inductionHypothesis =>
    rw [List.foldl_cons]
    obtain same | further := List.mem_cons.mp (inductionHypothesis (choose start other))
    · rw [same]
      obtain former | latter := choice start other
      · rw [former]
        exact List.mem_cons_self
      · rw [latter]
        exact List.mem_cons_of_mem start List.mem_cons_self
    · exact List.mem_cons_of_mem _ (List.mem_cons_of_mem _ further)

/-! ### Records -/

/-- What a queue keeps of a task: the task in memory, its row in a table. -/
inductive StoredTask where
  | task (task : Task)
  | row (row : Row)

namespace StoredTask

/-- The identifier of a record. -/
def id? : StoredTask → Option TaskId
  | task held => some held.id
  | row cells =>
    match cells.id with
    | .text text => (Row.taskId text).toOption
    | _ => none

/-- The state of a record. -/
def status? : StoredTask → Option TaskStatus
  | task held => some held.status
  | row cells =>
    match cells.status with
    | .text text => TaskStatus.ofName? text
    | _ => none

/-- The collision sign of a record. -/
def sign? : StoredTask → Option String
  | task held => held.collisionSign
  | row cells =>
    match cells.collisionSign with
    | .text text => some text
    | _ => none

/-- The lines of diagnostics of a record. -/
def info? : StoredTask → Option String
  | task held => some held.info
  | row cells =>
    match cells.info with
    | .text text => some text
    | _ => none

/-- The number of attempts in a record. -/
def attempt? : StoredTask → Option Int
  | task held => some held.attempt
  | row cells =>
    match cells.attempt with
    | .integer n => some n
    | _ => none

/-- The record is pending or in process. -/
def IsInFlight (record : StoredTask) : Prop :=
  record.status? = some .pending ∨ record.status? = some .process

instance (record : StoredTask) : Decidable record.IsInFlight := by
  unfold IsInFlight
  infer_instance

/-- The record is in flight and carries a sign. -/
def Holds (record : StoredTask) (sign : String) : Prop :=
  record.sign? = some sign ∧ record.IsInFlight

instance (record : StoredTask) (sign : String) : Decidable (record.Holds sign) := by
  unfold Holds
  infer_instance

/-- The task that a record stands for. -/
def read : StoredTask → Except StoreFault Task
  | task held => .ok held
  | row cells => cells.task

/-- The record is one of a given task. -/
def IsOf (record : StoredTask) (held : Task) : Prop :=
  record = task held ∨ record = row (Row.ofTask held)

/-- The record may be claimed on one of the topics. -/
def isDue (record : StoredTask) (topics : List String) (now : Instant) : Bool :=
  match record with
  | task held => held.isDue topics now
  | row cells => TableQueue.isDue cells topics now

/-! ### Changes of records -/

/-- The record with a claim made on it. -/
def claimed (record : StoredTask) (now : Instant) : StoredTask :=
  match record with
  | task held => task (held.claimed now)
  | row cells => row (TableQueue.claimed cells now)

/-- The record of a task after a report on it. -/
def settled (record : StoredTask) (held : Task) : StoredTask :=
  match record with
  | task _ => task held
  | row cells => row (TableQueue.settled cells held)

/-- The record is in process and has not been touched since a cutoff. -/
def isStale (record : StoredTask) (cutoff : Instant) : Bool :=
  match record with
  | task held => MemoryQueue.isStale held cutoff
  | row cells => TableQueue.isStale cells cutoff

/-- The record taken back from its worker. -/
def reaped (record : StoredTask) (now : Instant) : StoredTask :=
  match record with
  | task held => task (held.reaped now)
  | row cells => row (TableQueue.reaped cells now)

/-- The record is over and has not been touched since a time. -/
def isExpired (record : StoredTask) (before : Instant) : Bool :=
  match record with
  | task held => MemoryQueue.isExpired held before
  | row cells => TableQueue.isExpired cells before

/-! ### What changes leave alone -/

@[simp] theorem id?_claimed (record : StoredTask) (now : Instant) :
    (record.claimed now).id? = record.id? := by cases record <;> rfl

@[simp] theorem id?_reaped (record : StoredTask) (now : Instant) :
    (record.reaped now).id? = record.id? := by cases record <;> rfl

@[simp] theorem sign?_claimed (record : StoredTask) (now : Instant) :
    (record.claimed now).sign? = record.sign? := by cases record <;> rfl

@[simp] theorem sign?_reaped (record : StoredTask) (now : Instant) :
    (record.reaped now).sign? = record.sign? := by cases record <;> rfl

@[simp] theorem status?_claimed (record : StoredTask) (now : Instant) :
    (record.claimed now).status? = some .process := by
  cases record with
  | task held => rfl
  | row cells => exact TaskStatus.ofName?_name .process

@[simp] theorem status?_reaped (record : StoredTask) (now : Instant) :
    (record.reaped now).status? = some .pending := by
  cases record with
  | task held => rfl
  | row cells => exact TaskStatus.ofName?_name .pending

@[simp] theorem status?_settled (record : StoredTask) (held : Task) :
    (record.settled held).status? = some held.status := by
  cases record with
  | task before => rfl
  | row cells => exact TaskStatus.ofName?_name held.status

theorem isInFlight_task (held : Task) :
    (task held).IsInFlight ↔ held.status.isInFlight = true := by
  simp only [IsInFlight, status?, Option.some.injEq]
  cases held.status <;> decide

/-! ### Replacing a record -/

/-- Records with the one of an identifier replaced. -/
def replace (records : List StoredTask) (id : TaskId) (new : StoredTask) : List StoredTask :=
  records.map fun other => if other.id? = some id then new else other

theorem replace_tasks (tasks : List Task) (id : TaskId) (new : Task) :
    replace (tasks.map task) id (task new) =
      (tasks.map fun other => if other.id = id then new else other).map task := by
  rw [replace, List.map_map, List.map_map]
  refine List.map_congr_left fun other _ => ?_
  simp only [Function.comp, id?, Option.some.injEq]
  split <;> rfl

end StoredTask

/-- The records of a queue. -/
def Backend.records : Backend → List StoredTask
  | .memory queue => queue.tasks.map .task
  | .table kept => kept.rows.map .row

end TaskAutomation
