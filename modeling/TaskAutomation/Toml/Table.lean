import TaskAutomation.Json.Basic

/-!
This file defines the tables of a TOML document while it is read. A table can come into being by its
own heading, by a key with points in it, or only because something inside it was named, and what may
still be added to it depends on that. Every name is given a value at most once.
-/

namespace TaskAutomation.Toml

/-- How a table came into being. -/
inductive Origin where
  /-- By a heading of its own. -/
  | headed
  /-- By a key with points in it. -/
  | pointed
  /-- By a heading of something inside it. -/
  | implied
  deriving DecidableEq, Repr

/-- What stands under a name. -/
inductive Node where
  | value (json : Json)
  | table (origin : Origin) (entries : List (String × Node))
  /-- A list of tables; only the last one may still change. -/
  | tables (closed : List (List (String × Node))) (last : List (String × Node))
  deriving Inhabited

/-- The names in a table. -/
abbrev Entries := List (String × Node)

namespace Entries

/-- What stands under a name. -/
def find? (entries : Entries) (name : String) : Option Node := entries.lookup name

/-- Puts something under a name, in the place of what stood there. -/
def put (entries : Entries) (name : String) (node : Node) : Entries :=
  if entries.any fun entry => entry.1 == name then
    entries.map fun entry => if entry.1 == name then (name, node) else entry
  else entries ++ [(name, node)]

/-- Changes the table at the end of a path of headings. Tables that are missing on the way come into
being by it. -/
def change (update : Entries → Option Entries) : List String → Entries → Option Entries
  | [], entries => update entries
  | name :: path, entries =>
    match entries.find? name with
    | none => do
      let inner ← change update path []
      entries.put name (.table .implied inner)
    | some (.value _) => none
    | some (.table origin inner) => do
      let inner ← change update path inner
      entries.put name (.table origin inner)
    | some (.tables closed last) => do
      let last ← change update path last
      entries.put name (.tables closed last)

/-- Opens a table by its heading. A table that so far was only implied is opened with what it holds;
any other one must be new. -/
def openTable (name : String) (entries : Entries) : Option Entries :=
  match entries.find? name with
  | none => entries.put name (.table .headed [])
  | some (.table .implied inner) => entries.put name (.table .headed inner)
  | some _ => none

/-- Opens another table of a list by its heading. -/
def openNext (name : String) (entries : Entries) : Option Entries :=
  match entries.find? name with
  | none => entries.put name (.tables [] [])
  | some (.tables closed last) => entries.put name (.tables (closed ++ [last]) [])
  | some _ => none

/-- Gives a value to a key. A key with points in it only reaches into tables that came into being by
such keys. -/
def assign (json : Json) : List String → Entries → Option Entries
  | [], _ => none
  | [name], entries =>
    match entries.find? name with
    | none => entries.put name (.value json)
    | some _ => none
  | name :: next :: path, entries =>
    match entries.find? name with
    | none => do
      let inner ← assign json (next :: path) []
      entries.put name (.table .pointed inner)
    | some (.table .pointed inner) => do
      let inner ← assign json (next :: path) inner
      entries.put name (.table .pointed inner)
    | some (.table .implied inner) =>
      if path.isEmpty then none
      else do
        let inner ← assign json (next :: path) inner
        entries.put name (.table .implied inner)
    | some (.tables closed last) =>
      if path.isEmpty then none
      else do
        let last ← assign json (next :: path) last
        entries.put name (.tables closed last)
    | some _ => none

/-- The table with all the given keys and their values. -/
def ofKeys (keys : List (List String × Json)) : Option Entries :=
  keys.foldlM (fun entries (path, json) => assign json path entries) []

end Entries

mutual

/-- The value that stands under a name. -/
def Node.toJson : Node → Json
  | .value json => json
  | .table _ entries => .record (toFields entries)
  | .tables closed last => .list (toRecords closed ++ [.record (toFields last)])

/-- The fields of a table. -/
def toFields : List (String × Node) → List (String × Json)
  | [] => []
  | (name, node) :: rest => (name, node.toJson) :: toFields rest

/-- The tables of a list. -/
def toRecords : List (List (String × Node)) → List Json
  | [] => []
  | entries :: rest => .record (toFields entries) :: toRecords rest

end

end TaskAutomation.Toml
