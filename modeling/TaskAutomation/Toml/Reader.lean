import TaskAutomation.Toml.Number
import TaskAutomation.Toml.Table

/-!
This file reads TOML documents as JSON values: the document and its tables become records. Lists and
tables within a value may be nested in each other 79 levels deep, and a key has at most 79 parts.
-/

namespace TaskAutomation.Toml

/-! ### Keys -/

/-- The levels of nested values and the parts of a key that are read. -/
def maxLevels : Nat := 79

/-- A character of a name without quotes. -/
def isBare (c : Char) : Bool :=
  ('a' ≤ c && c ≤ 'z') || ('A' ≤ c && c ≤ 'Z') || c.isDigit || c = '_' || c = '-'

/-- Reads a name. -/
def name : List Char → Scan (String × List Char)
  | '"' :: rest => lineText '"' rest
  | '\'' :: rest => lineText '\'' rest
  | text =>
    match text.takeWhile isBare with
    | [] => none
    | letters => some (String.ofList letters, text.dropWhile isBare)

/-- Reads the names of a key, between which there are points, and any blanks around them. -/
def keyParts : Nat → List Char → Scan (List String × List Char)
  | 0, _ => none
  | fuel + 1, text => do
    let (first, rest) ← name (skipBlanks text)
    match skipBlanks rest with
    | '.' :: rest =>
      let (more, rest) ← keyParts fuel rest
      some (first :: more, rest)
    | rest => some ([first], rest)

/-- Reads a key. -/
def key (text : List Char) : Scan (List String × List Char) := keyParts maxLevels text

/-! ### Values -/

mutual

/-- Reads a value with at most so many levels of lists and tables. -/
def value : (fuel levels : Nat) → List Char → Scan (Json × List Char)
  | 0, _, _ => none
  | _ + 1, _, [] => none
  | fuel + 1, levels, c :: rest =>
    if c = '"' ∨ c = '\'' then
      (quotedText c rest).map fun (content, rest) => (.string content, rest)
    else if c = '[' then
      if levels = 0 then none
      else (items fuel (levels - 1) true rest).map fun (items, rest) => (.list items, rest)
    else if c = '\x7b' then
      if levels = 0 then none
      else do
        let (keys, rest) ← pairs fuel (levels - 1) true rest
        let entries ← Entries.ofKeys keys
        some (.record (toFields entries), rest)
    else if c = 't' then
      match rest with
      | 'r' :: 'u' :: 'e' :: rest => some (.bool true, rest)
      | _ => none
    else if c = 'f' then
      match rest with
      | 'a' :: 'l' :: 's' :: 'e' :: rest => some (.bool false, rest)
      | _ => none
    else number (c :: rest)

/-- Reads the items of a list up to its end. -/
def items : (fuel levels : Nat) → (first : Bool) → List Char → Scan (List Json × List Char)
  | 0, _, _, _ => none
  | fuel + 1, levels, first, text => do
    match ← skipLines text.length text with
    | ']' :: rest => some ([], rest)
    | start =>
      if first then item fuel levels start
      else
        let rest ← mark? ',' start
        match ← skipLines rest.length rest with
        | ']' :: rest => some ([], rest)
        | start => item fuel levels start

/-- Reads an item of a list and those after it. -/
def item : (fuel levels : Nat) → List Char → Scan (List Json × List Char)
  | 0, _, _ => none
  | fuel + 1, levels, text => do
    let (item, rest) ← value fuel levels text
    let (more, rest) ← items fuel levels false rest
    some (item :: more, rest)

/-- Reads the keys and values of a table within a value up to its end. -/
def pairs : (fuel levels : Nat) → (first : Bool) → List Char →
    Scan (List (List String × Json) × List Char)
  | 0, _, _, _ => none
  | fuel + 1, levels, first, text => do
    match skipBlanks text with
    | '\x7d' :: rest => some ([], rest)
    | start =>
      let start ← if first then some start else mark? ',' start
      let (path, rest) ← key start
      let rest ← mark? '=' rest
      let (value, rest) ← value fuel levels (skipBlanks rest)
      let (more, rest) ← pairs fuel levels false rest
      some ((path, value) :: more, rest)

end

/-- Reads a value. Every step of the reader but every second one within a list moves on by at least
one character, so the number of steps below suffices. -/
def anyValue (text : List Char) : Scan (Json × List Char) :=
  value (3 * text.length + 3) maxLevels text

/-! ### Documents -/

/-- A document that is being read: the keys below a heading belong to the table of that heading. -/
structure Draft where
  root : Entries
  heading : List String

namespace Draft

/-- A document without anything in it. -/
def empty : Draft := ⟨[], []⟩

/-- Opens the table, or the next table of a list, that a heading names. -/
def headed (draft : Draft) (enter : String → Entries → Option Entries) (path : List String) :
    Option Draft := do
  let name ← path.getLast?
  let root ← Entries.change (enter name) path.dropLast draft.root
  some ⟨root, path⟩

/-- Gives a value to a key below the heading. -/
def assigned (draft : Draft) (path : List String) (json : Json) : Option Draft := do
  let root ← Entries.change (Entries.assign json path) draft.heading draft.root
  some { draft with root }

/-- Reads a line, or the lines of a value of several lines. -/
def line (draft : Draft) (text : List Char) : Scan (Draft × List Char) := do
  match skipBlanks text with
  | [] => some (draft, [])
  | '#' :: rest => some (draft, ← restOfLine? ('#' :: rest))
  | '\n' :: rest => some (draft, rest)
  | '\r' :: rest => some (draft, ← lineEnd? ('\r' :: rest))
  | '[' :: '[' :: rest =>
    let (path, rest) ← key rest
    let rest ← restOfLine? (← mark? ']' (← mark? ']' rest))
    some (← draft.headed Entries.openNext path, rest)
  | '[' :: rest =>
    let (path, rest) ← key rest
    let rest ← restOfLine? (← mark? ']' rest)
    some (← draft.headed Entries.openTable path, rest)
  | rest =>
    let (path, rest) ← key rest
    let rest ← mark? '=' rest
    let (value, rest) ← anyValue (skipBlanks rest)
    let rest ← restOfLine? rest
    some (← draft.assigned path value, rest)

/-- Reads lines up to the end of the text. -/
def lines : Nat → Draft → List Char → Option Draft
  | _, draft, [] => some draft
  | 0, _, _ :: _ => none
  | fuel + 1, draft, text => do
    let (draft, rest) ← draft.line text
    lines fuel draft rest

end Draft

/-- A text without the mark that may stand at its start. -/
def withoutMark : List Char → List Char
  | '\uFEFF' :: rest => rest
  | text => text

/-- The record that a document stands for, if the text is a document. -/
def parse? (text : String) : Option Json := do
  let characters := withoutMark text.toList
  let draft ← Draft.lines characters.length .empty characters
  some (.record (toFields draft.root))

end TaskAutomation.Toml
