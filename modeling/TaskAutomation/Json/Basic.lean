import TaskAutomation.Number.Double

/-!
This file defines JSON values. Whole numbers and numbers with a fraction or an exponent are kept
apart, because only the first kind can stand for a count. A record is a list of named values; its
normal form has the names in ascending order, each of them once.
-/

namespace TaskAutomation

/-- A JSON value. -/
inductive Json where
  | null
  | bool (value : Bool)
  | integer (value : Int)
  | double (value : Double)
  | string (value : String)
  | list (items : List Json)
  | record (fields : List (String × Json))
  deriving Inhabited, BEq, Repr

namespace Json

/-! ### Records -/

/-- Puts a named value in its place among others in ascending order of names; the value that stood
there under the same name gives way. -/
def insertField (name : String) (value : Json) : List (String × Json) → List (String × Json)
  | [] => [(name, value)]
  | (other, held) :: rest =>
    if name < other then (name, value) :: (other, held) :: rest
    else if name = other then (name, value) :: rest
    else (other, held) :: insertField name value rest

/-- Named values in ascending order of names. Of two values with one name the later one stays. -/
def sortFields (fields : List (String × Json)) : List (String × Json) :=
  fields.foldl (fun sorted field => insertField field.1 field.2 sorted) []

/-- A record with its names in order. -/
def ofFields (fields : List (String × Json)) : Json := record (sortFields fields)

/-- The value under a name. -/
def field? (name : String) : Json → Option Json
  | record fields => fields.lookup name
  | _ => none

/-- Replaces or adds a value in a record; anything else is left alone. -/
def setField (name : String) (value : Json) : Json → Json
  | record fields => record (insertField name value fields)
  | other => other

mutual

/-- The value with all its records in normal form. -/
def normal : Json → Json
  | list items => list (normalItems items)
  | record fields => ofFields (normalFields fields)
  | other => other

/-- The items of a list in normal form. -/
def normalItems : List Json → List Json
  | [] => []
  | item :: rest => item.normal :: normalItems rest

/-- The values of a record in normal form, in their given order. -/
def normalFields : List (String × Json) → List (String × Json)
  | [] => []
  | (name, value) :: rest => (name, value.normal) :: normalFields rest

end

/-! ### Nesting -/

mutual

/-- How many lists and records are nested in each other at most. -/
def depth : Json → Nat
  | list items => depthOfItems items + 1
  | record fields => depthOfFields fields + 1
  | _ => 0

/-- The largest depth in a list. -/
def depthOfItems : List Json → Nat
  | [] => 0
  | item :: rest => max item.depth (depthOfItems rest)

/-- The largest depth in a record. -/
def depthOfFields : List (String × Json) → Nat
  | [] => 0
  | (_, value) :: rest => max value.depth (depthOfFields rest)

end

/-- Puts a value into a number of lists, one inside the other. -/
def nested : Nat → Json → Json
  | 0, value => value
  | levels + 1, value => list [nested levels value]

/-! ### Encoding -/

/-- A value that may be absent; absence is `null`. -/
def ofOption {α : Type} (encode : α → Json) : Option α → Json
  | some a => encode a
  | none => null

/-- A natural number. -/
def nat (n : Nat) : Json := integer n

end Json

end TaskAutomation
