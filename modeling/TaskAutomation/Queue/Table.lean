import TaskAutomation.Queue.Row

/-!
This file defines the queue that is kept in a table. Each operation is a few guarded changes of
rows: a row is claimed only while it is pending, a report is taken only for a row in process, and no
two rows in flight have the same sign. Times are compared in whole milliseconds. The rows may have
been changed by somebody else, so reading one can fail; a claim has then already been made.
-/

namespace TaskAutomation

/-- A queue in a table. -/
structure TableQueue where
  rows : List Row
  deriving DecidableEq, Repr, Inhabited

namespace TableQueue

/-- A table without rows. -/
def empty : TableQueue := ⟨[]⟩

/-- The row is in a state. -/
def hasStatus (row : Row) (status : TaskStatus) : Bool := row.status = .text status.name

/-- The row is pending or in process. -/
def isInFlight (row : Row) : Bool := hasStatus row .pending || hasStatus row .process

/-- The row of an identifier. -/
def find? (table : TableQueue) (id : TaskId) : Option Row :=
  table.rows.find? fun row => row.id = .text id.bare

/-! ### Constraints -/

/-- The constraint that a row would break beside other rows, if there is one. -/
def conflict? (others : List Row) (row : Row) : Option String :=
  if row.id ≠ .null ∧ others.any fun other => other.id = row.id then
    some "UNIQUE constraint failed: tasks.id"
  else if row.collisionSign ≠ .null ∧ isInFlight row ∧
      others.any fun other => isInFlight other && other.collisionSign = row.collisionSign then
    some "UNIQUE constraint failed: tasks.collision_sign"
  else none

/-- Adds a row unless it breaks a constraint. -/
def insert (table : TableQueue) (row : Row) : Except String TableQueue :=
  match conflict? table.rows row with
  | some why => .error why
  | none => .ok ⟨table.rows ++ [row]⟩

/-! ### Operations -/

/-- The task in flight that holds a sign. -/
def holder? (table : TableQueue) (sign : String) : Except StoreFault (Option TaskId) :=
  match table.rows.find? fun row => row.collisionSign = .text sign && isInFlight row with
  | none => .ok none
  | some row => do
    let id ← Row.text .id row.id
    (Row.taskId id).map some

/-- Adds a new task that lost its sign to a task in flight. -/
def pushCollision (table : TableQueue) (task : Task) (sign : String) :
    Except StoreFault (Pushed × TableQueue) := do
  match ← table.holder? sign with
  | none => .error (.notFound ("holder of sign " ++ sign))
  | some existing =>
    let task := task.collide existing
    match table.insert (Row.ofTask task) with
    | .ok table => .ok (.collided task existing, table)
    | .error why => .error (.backend why)

/-- Adds a new task. If its row breaks a constraint, the task that holds its sign is looked for, and
the new one is kept as a collision. -/
def push (table : TableQueue) (id : TaskId) (now : Instant) (handler : String) (params : Json)
    (options : PushOptions) : Except StoreFault Pushed × TableQueue :=
  let task := Task.new id handler params options now
  match table.insert (Row.ofTask task) with
  | .ok changed => (.ok (.queued task), changed)
  | .error why =>
    match task.collisionSign with
    | none => (.error (.backend why), table)
    | some sign =>
      match table.pushCollision task sign with
      | .ok (pushed, changed) => (.ok pushed, changed)
      | .error fault => (.error fault, table)

/-- The row may be claimed on one of the topics. -/
def isDue (row : Row) (topics : List String) (now : Instant) : Bool :=
  hasStatus row .pending && row.startAt.atMost (Row.ofInstant now) &&
    topics.any fun topic => row.topic = .text topic

/-- The row is claimed before another one. -/
def precedes (a b : Row) : Bool :=
  b.priority.lt a.priority ||
    (!a.priority.lt b.priority &&
      (a.startAt.lt b.startAt || (!b.startAt.lt a.startAt && a.id.lt b.id)))

/-- The first row to be claimed of two. -/
def earlier (a b : Row) : Row := if precedes b a then b else a

/-- The row that is claimed next, if any is due. -/
def nextDue? (rows : List Row) (topics : List String) (now : Instant) : Option Row :=
  match rows.filter fun row => isDue row topics now with
  | [] => none
  | first :: rest => some (rest.foldl earlier first)

/-- A row with a claim made on it. -/
def claimed (row : Row) (now : Instant) : Row :=
  { row with
    status := .text TaskStatus.process.name
    attempt := row.attempt.increment
    updatedAt := Row.ofInstant now }

/-- Claims the next row that is due and reads it. The claim stays if the row cannot be read. -/
def claim (table : TableQueue) (topics : List String) (now : Instant) :
    Except StoreFault (Option Task) × TableQueue :=
  match nextDue? table.rows topics now with
  | none => (.ok none, table)
  | some row =>
    if row.id = .null then (.ok none, table)
    else
      ((claimed row now).task.map some,
        ⟨table.rows.map fun other => if other.id = row.id then claimed other now else other⟩)

/-- A row with the cells that a report changes. -/
def settled (row : Row) (task : Task) : Row :=
  let changed := Row.ofTask task
  { row with
    status := changed.status
    params := changed.params
    startAt := changed.startAt
    executionMillis := changed.executionMillis
    info := changed.info
    error := changed.error
    updatedAt := changed.updatedAt
    attempt := changed.attempt }

/-- Ends the run of a task in process. -/
def settle (table : TableQueue) (report : RunReport) (apply : Task → Task) :
    Except StoreFault Task × TableQueue :=
  match table.find? report.id with
  | none => (.error (.notFound report.id.display), table)
  | some row =>
    match row.task with
    | .error fault => (.error fault, table)
    | .ok task =>
      if task.status ≠ .process then (.error (.notInProcess report.id), table)
      else
        let task := apply (task.absorb report)
        (.ok task,
          ⟨table.rows.map fun other =>
            if other.id = row.id && hasStatus other .process then settled other task else other⟩)

/-- Reads the task of an identifier. -/
def get (table : TableQueue) (id : TaskId) : Except StoreFault (Option Task) :=
  match table.find? id with
  | none => .ok none
  | some row => row.task.map some

/-- The states in a table in ascending order, each with the number of its rows. -/
def statusGroups (rows : List Row) : List (String × Nat) :=
  let add (groups : List (String × Nat)) (row : Row) : List (String × Nat) :=
    match row.status with
    | .text name =>
      if groups.any fun group => group.1 == name then
        groups.map fun group => if group.1 == name then (name, group.2 + 1) else group
      else
        groups.takeWhile (fun group => group.1 < name) ++
          (name, 1) :: groups.dropWhile fun group => group.1 < name
    | _ => groups
  rows.foldl add []

/-- The number of tasks in each state. A state without a meaning is a fault. -/
def counts (table : TableQueue) : Except StoreFault TaskCounts :=
  (statusGroups table.rows).foldlM (fun counts group =>
    match TaskStatus.ofName? group.1 with
    | some status => .ok (counts.add status group.2)
    | none => .error (.undecodable (TaskStatus.unknownMessage group.1))) {}

/-- A row in process has not been touched since a cutoff. -/
def isStale (row : Row) (cutoff : Instant) : Bool :=
  hasStatus row .process && row.updatedAt.below (Row.ofInstant cutoff)

/-- A row that is taken back from its worker. -/
def reaped (row : Row) (now : Instant) : Row :=
  { row with
    status := .text TaskStatus.pending.name
    updatedAt := Row.ofInstant now
    info :=
      row.info.append ((if row.info = .text "" then "" else "\n") ++ Task.reapedLine) }

/-- Takes stale rows back from their workers. -/
def reap (table : TableQueue) (now cutoff : Instant) : Nat × TableQueue :=
  ((table.rows.filter fun row => isStale row cutoff).length,
    ⟨table.rows.map fun row => if isStale row cutoff then reaped row now else row⟩)

/-- A row is over and has not been touched since a time. -/
def isExpired (row : Row) (before : Instant) : Bool :=
  (hasStatus row .done || hasStatus row .error || hasStatus row .collision) &&
    row.updatedAt.below (Row.ofInstant before)

/-- Removes expired rows. -/
def purge (table : TableQueue) (before : Instant) : Nat × TableQueue :=
  let kept := table.rows.filter fun row => !isExpired row before
  (table.rows.length - kept.length, ⟨kept⟩)

/-! ### Changes by others -/

/-- Whoever else has access to the table may overwrite a cell of a row; the constraints hold for
them too. The answer is the number of rows that were changed. -/
def overwrite (table : TableQueue) (id : TaskId) (column : Column) (cell : Cell) :
    Except StoreFault (Nat × TableQueue) :=
  let cell := if column.holdsText then cell.asTextColumn else cell.asIntegerColumn
  match table.find? id with
  | none => .ok (0, table)
  | some row =>
    if cell = .null ∧ ¬ column.isOptional then
      .error (.backend ("NOT NULL constraint failed: tasks." ++ column.name))
    else
      let changed := row.set column cell
      match conflict? (table.rows.filter fun other => other ≠ row) changed with
      | some why => .error (.backend why)
      | none => .ok (1, ⟨table.rows.map fun other => if other = row then changed else other⟩)

end TableQueue

end TaskAutomation
