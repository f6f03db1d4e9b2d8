import TaskAutomation.Queue.Table

/-!
This file writes a table as text and reads it again. The text is a JSON list with a record for every
row, in which every column stands under its name.
-/

namespace TaskAutomation

namespace Cell

/-- The cell as JSON. -/
def encode : Cell → Json
  | null => .null
  | integer value => .integer value
  | real value => .double value
  | text value => .string value

/-- The cell that was written as JSON. -/
def decode? : Json → Option Cell
  | .null => some null
  | .integer value => some (integer value)
  | .double value => some (real value)
  | .string value => some (text value)
  | _ => none

end Cell

namespace Row

/-- The row as JSON. -/
def encode (row : Row) : Json :=
  .record (Column.all.map fun column => (column.name, (row.get column).encode))

/-- The row that was written as JSON. -/
def decode? (json : Json) : Option Row :=
  Column.all.foldlM (fun row column => do
    let cell ← Cell.decode? (← json.field? column.name)
    some (row.set column cell)) default

end Row

namespace TableQueue

/-- The text of a table. -/
def text (table : TableQueue) : String := (Json.list (table.rows.map Row.encode)).compact

/-- The table in a text. An empty text is a table without rows. -/
def ofText? (text : String) : Option TableQueue :=
  if text.isEmpty then some empty
  else
    match Json.parse text with
    | .ok (.list rows) => (rows.mapM Row.decode?).map TableQueue.mk
    | _ => none

end TableQueue

end TaskAutomation
