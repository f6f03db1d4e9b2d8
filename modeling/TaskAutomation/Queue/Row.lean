import TaskAutomation.Json.Reader
import TaskAutomation.Queue.Cell
import TaskAutomation.Task.Failure
import TaskAutomation.Task.Outcome

/-!
This file defines the rows in which tasks are stored. Times are kept in whole milliseconds and
params as JSON text. A row that was written from a task reads back as that task, up to the precision
of its times; a row that somebody else has changed may fail to read, and then the first column that
fails counts: first the kinds of all cells, then what they say.
-/

namespace TaskAutomation

/-- The columns of the table. -/
inductive Column where
  | id
  | handler
  | params
  | status
  | priority
  | topic
  | collisionSign
  | startAt
  | attempt
  | executionMillis
  | info
  | error
  | watcher
  | createdAt
  | updatedAt
  deriving DecidableEq, Repr

namespace Column

def all : List Column :=
  [id, handler, params, status, priority, topic, collisionSign, startAt, attempt, executionMillis,
    info, error, watcher, createdAt, updatedAt]

def name : Column → String
  | id => "id"
  | handler => "handler"
  | params => "params"
  | status => "status"
  | priority => "priority"
  | topic => "topic"
  | collisionSign => "collision_sign"
  | startAt => "start_at"
  | attempt => "attempt"
  | executionMillis => "execution_time_ms"
  | info => "info"
  | error => "error"
  | watcher => "watcher"
  | createdAt => "created_at"
  | updatedAt => "updated_at"

def ofName? (name : String) : Option Column := all.find? fun column => column.name == name

/-- The position of the column in a row. -/
def index (column : Column) : Nat := all.idxOf column

/-- The column is meant for texts. -/
def holdsText : Column → Bool
  | id | handler | params | status | topic | collisionSign | info | error => true
  | _ => false

/-- The column may be empty. -/
def isOptional : Column → Bool
  | id | collisionSign | executionMillis | error => true
  | _ => false

end Column

/-- A row: a cell for every column. -/
structure Row where
  id : Cell
  handler : Cell
  params : Cell
  status : Cell
  priority : Cell
  topic : Cell
  collisionSign : Cell
  startAt : Cell
  attempt : Cell
  executionMillis : Cell
  info : Cell
  error : Cell
  watcher : Cell
  createdAt : Cell
  updatedAt : Cell
  deriving DecidableEq, Repr, Inhabited

namespace Row

/-- The cell in a column. -/
def get (row : Row) : Column → Cell
  | .id => row.id
  | .handler => row.handler
  | .params => row.params
  | .status => row.status
  | .priority => row.priority
  | .topic => row.topic
  | .collisionSign => row.collisionSign
  | .startAt => row.startAt
  | .attempt => row.attempt
  | .executionMillis => row.executionMillis
  | .info => row.info
  | .error => row.error
  | .watcher => row.watcher
  | .createdAt => row.createdAt
  | .updatedAt => row.updatedAt

/-- The row with another cell in one column. -/
def set (row : Row) (column : Column) (cell : Cell) : Row :=
  match column with
  | .id => { row with id := cell }
  | .handler => { row with handler := cell }
  | .params => { row with params := cell }
  | .status => { row with status := cell }
  | .priority => { row with priority := cell }
  | .topic => { row with topic := cell }
  | .collisionSign => { row with collisionSign := cell }
  | .startAt => { row with startAt := cell }
  | .attempt => { row with attempt := cell }
  | .executionMillis => { row with executionMillis := cell }
  | .info => { row with info := cell }
  | .error => { row with error := cell }
  | .watcher => { row with watcher := cell }
  | .createdAt => { row with createdAt := cell }
  | .updatedAt => { row with updatedAt := cell }

/-! ### Writing -/

/-- A text or nothing. -/
def ofText? : Option String → Cell
  | some text => .text text
  | none => .null

/-- A time in milliseconds. -/
def ofInstant (instant : Instant) : Cell := .integer instant.millis

/-- A count of milliseconds in 64 bits, or nothing. -/
def ofMillis? : Option Nat → Cell
  | some millis => .integer (Word.signed64 millis)
  | none => .null

/-- The row of a task. -/
def ofTask (task : Task) : Row where
  id := .text task.id.bare
  handler := .text task.handler
  params := .text task.params.compact
  status := .text task.status.name
  priority := .integer task.priority
  topic := .text task.topic
  collisionSign := ofText? task.collisionSign
  startAt := ofInstant task.startAt
  attempt := .integer task.attempt
  executionMillis := ofMillis? task.executionMillis
  info := .text task.info
  error := ofText? task.error
  watcher := .integer (if task.watcher then 1 else 0)
  createdAt := ofInstant task.createdAt
  updatedAt := ofInstant task.updatedAt

/-! ### Reading -/

/-- The fault of a cell of the wrong kind. -/
def wrongKind (column : Column) (cell : Cell) : StoreFault :=
  .backend ("Invalid column type " ++ cell.kindName ++ " at index: " ++ toString column.index ++
    ", name: " ++ column.name)

/-- Reads a text. -/
def text (column : Column) : Cell → Except StoreFault String
  | .text value => .ok value
  | cell => .error (wrongKind column cell)

/-- Reads a whole number. -/
def integer (column : Column) : Cell → Except StoreFault Int
  | .integer value => .ok value
  | cell => .error (wrongKind column cell)

/-- Reads a whole number between two bounds. -/
def bounded (column : Column) (least most : Int) (cell : Cell) : Except StoreFault Int := do
  let value ← integer column cell
  if least ≤ value ∧ value ≤ most then .ok value
  else
    .error (.backend ("Integer " ++ toString value ++ " out of range at index " ++
      toString column.index))

/-- Reads a cell that may be empty. -/
def optional {α : Type} (read : Cell → Except StoreFault α) : Cell → Except StoreFault (Option α)
  | .null => .ok none
  | cell => (read cell).map some

/-- The cells of a row, each of them of the kind of its column. -/
structure Values where
  id : String
  handler : String
  params : String
  status : String
  priority : Int
  topic : String
  collisionSign : Option String
  startAt : Int
  attempt : Nat
  executionMillis : Option Int
  info : String
  error : Option String
  watcher : Bool
  createdAt : Int
  updatedAt : Int

/-- Reads the cells of a row from the first column to the last. -/
def values (row : Row) : Except StoreFault Values := do
  let id ← text .id row.id
  let handler ← text .handler row.handler
  let params ← text .params row.params
  let status ← text .status row.status
  let priority ← bounded .priority Word.least32 Word.most32 row.priority
  let topic ← text .topic row.topic
  let collisionSign ← optional (text .collisionSign) row.collisionSign
  let startAt ← integer .startAt row.startAt
  let attempt ← bounded .attempt 0 (Word.size32 - 1) row.attempt
  let executionMillis ← optional (integer .executionMillis) row.executionMillis
  let info ← text .info row.info
  let error ← optional (text .error) row.error
  let watcher ← integer .watcher row.watcher
  let createdAt ← integer .createdAt row.createdAt
  let updatedAt ← integer .updatedAt row.updatedAt
  .ok {
    id, handler, params, status, priority, topic, collisionSign, startAt
    attempt := attempt.toNat
    executionMillis, info, error
    watcher := watcher ≠ 0
    createdAt, updatedAt }

/-- Reads a time. -/
def instant (millis : Int) : Except StoreFault Instant :=
  match Instant.ofMillis? millis with
  | some instant => .ok instant
  | none => .error (.undecodable ("timestamp out of range: " ++ toString millis))

/-- Reads the identifier of a task. -/
def taskId (text : String) : Except StoreFault TaskId :=
  (Id.read text).mapError fun refusal => .undecodable refusal.message

/-- The task that the cells of a row stand for. -/
def Values.task (values : Values) : Except StoreFault Task := do
  let id ← taskId values.id
  let params ← (Json.parse values.params).mapError .undecodable
  let status ← match TaskStatus.ofName? values.status with
    | some status => .ok status
    | none => .error (.undecodable (TaskStatus.unknownMessage values.status))
  let startAt ← instant values.startAt
  let createdAt ← instant values.createdAt
  let updatedAt ← instant values.updatedAt
  .ok {
    id
    handler := values.handler
    params, status
    priority := values.priority
    topic := values.topic
    collisionSign := values.collisionSign
    startAt
    attempt := values.attempt
    executionMillis := values.executionMillis.map Int.toNat
    info := values.info
    error := values.error
    watcher := values.watcher
    createdAt, updatedAt }

/-- The task that a row stands for. -/
def task (row : Row) : Except StoreFault Task := do
  let values ← row.values
  values.task

end Row

end TaskAutomation
