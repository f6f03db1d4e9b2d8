import TaskAutomation.Json.Basic
import TaskAutomation.Number.Shortest
import TaskAutomation.Number.Word
import TaskAutomation.Text.Quoted

/-!
This file turns JSON values into values of other types. A decoder either gives the value or says
why the JSON does not stand for one. Records may also be given as lists of their fields in order.
Of several faults in a record the one in the first field with a fault counts, in the order of the
record's names, and a missing field only counts when all fields at hand are sound.
-/

namespace TaskAutomation

/-- Why a JSON value does not stand for a value of some type. -/
inductive DecodeError where
  | missingField (name : String)
  | duplicateField (name : String)
  | unknownVariant (name : String) (known : List String)
  | invalidType (found : Json) (expected : String)
  | invalidValue (found : Json) (expected : String)
  | invalidLength (length : Nat) (expected : String)
  | refused (why : String)
  deriving Inhabited, BEq, Repr

/-- What a decoder gives. -/
abbrev Decoded := Except DecodeError

namespace Json

/-! ### Messages -/

/-- A text between grave accents. -/
def accented (text : String) : String := "`" ++ text ++ "`"

/-- A JSON value as a message names it: numbers and texts with what they are, all else by kind. -/
def description : Json → String
  | null => "null"
  | bool value => "boolean " ++ accented (toString value)
  | integer value => "integer " ++ accented (toString value)
  | double value => "floating point " ++ accented value.text
  | string value => "string " ++ Text.quoted value
  | list _ => "sequence"
  | record _ => "map"

/-- The choice between names. -/
def oneOf : List String → String
  | [] => "there are no variants"
  | [a] => "expected " ++ accented a
  | [a, b] => "expected " ++ accented a ++ " or " ++ accented b
  | names => "expected one of " ++ ", ".intercalate (names.map accented)

end Json

def DecodeError.message : DecodeError → String
  | missingField name => "missing field " ++ Json.accented name
  | duplicateField name => "duplicate field " ++ Json.accented name
  | unknownVariant name known =>
    "unknown variant " ++ Json.accented name ++ ", " ++ Json.oneOf known
  | invalidType found expected => "invalid type: " ++ found.description ++ ", expected " ++ expected
  | invalidValue found expected =>
    "invalid value: " ++ found.description ++ ", expected " ++ expected
  | invalidLength length expected =>
    "invalid length " ++ toString length ++ ", expected " ++ expected
  | refused why => why

namespace Json

/-! ### Plain values -/

def toText : Json → Decoded String
  | string value => .ok value
  | other => .error (.invalidType other "a string")

def toBool : Json → Decoded Bool
  | bool value => .ok value
  | other => .error (.invalidType other "a boolean")

/-- A whole number between two bounds. -/
def toBounded (name : String) (least most : Int) : Json → Decoded Int
  | integer value =>
    if least ≤ value ∧ value ≤ most then .ok value
    else .error (.invalidValue (integer value) name)
  | other => .error (.invalidType other name)

/-- A whole number that is not negative, up to a bound. -/
def toNatUpTo (name : String) (most : Nat) (json : Json) : Decoded Nat :=
  (toBounded name 0 most json).map Int.toNat

def toInt32 : Json → Decoded Int := toBounded "i32" Word.least32 Word.most32
def toUnsigned32 : Json → Decoded Nat := toNatUpTo "u32" (Word.size32 - 1)
def toUnsigned64 : Json → Decoded Nat := toNatUpTo "u64" (Word.size64 - 1)
def toSize : Json → Decoded Nat := toNatUpTo "usize" (Word.size64 - 1)

/-- A floating-point number; whole numbers are rounded. -/
def toDouble : Json → Decoded Double
  | integer value => .ok (Double.ofInt value)
  | double value => .ok value
  | other => .error (.invalidType other "f64")

/-- A value that may be absent. -/
def toOption {α : Type} (decode : Json → Decoded α) : Json → Decoded (Option α)
  | null => .ok none
  | other => (decode other).map some

/-- The items of a list, decoded from the first to the last. -/
def toList {α : Type} (decode : Json → Decoded α) : Json → Decoded (List α)
  | list items => items.mapM decode
  | other => .error (.invalidType other "a sequence")

/-! ### Choices -/

/-- Finds the choice of a name. -/
def choiceOf {α : Type} (known : List (String × α)) (name : String) : Decoded α :=
  match known.lookup name with
  | some choice => .ok choice
  | none => .error (.unknownVariant name (known.map Prod.fst))

/-- One of several named choices: its name, or a record whose only field has that name and holds
nothing. `nothing` says which values count as nothing. -/
def toChoiceWith {α : Type} (nothing : Json → Bool) (known : List (String × α)) :
    Json → Decoded α
  | string name => choiceOf known name
  | record [(name, content)] => do
    let choice ← choiceOf known name
    if nothing content then .ok choice else .error (.invalidType content "unit")
  | record fields => .error (.invalidValue (record fields) "map with a single key")
  | other => .error (.invalidType other "string or map")

/-- The value is `null`. -/
def isNull : Json → Bool
  | null => true
  | _ => false

/-- One of several named choices. -/
def toChoice {α : Type} (known : List (String × α)) : Json → Decoded α := toChoiceWith isNull known

/-! ### Records -/

/-- The fields that are still to be read: by name, or in order together with how many have been
read and what a complete list is called. -/
inductive FieldSource where
  | named (fields : List (String × Json))
  | ordered (read : Nat) (complete : String) (items : List Json)

/-- A way to read a record: the fields it knows, each with its check, and how the value is put
together from them. -/
structure RecordReader (α : Type) where
  checks : List (String × (Json → Decoded Unit))
  build : FieldSource → Decoded (α × FieldSource)

namespace RecordReader

variable {α β : Type}

instance : Functor RecordReader where
  map f reader := {
    checks := reader.checks
    build := fun source => do
      let (a, source) ← reader.build source
      .ok (f a, source) }

instance : Pure RecordReader where
  pure a := ⟨[], fun source => .ok (a, source)⟩

instance : Seq RecordReader where
  seq first second := {
    checks := first.checks ++ (second ()).checks
    build := fun source => do
      let (f, source) ← first.build source
      let (a, source) ← (second ()).build source
      .ok (f a, source) }

/-- A field; `byName` stands in when a record lacks it and `inOrder` when a list ends before it. -/
def field (name : String) (decode : Json → Decoded α) (byName inOrder : Option α) :
    RecordReader α where
  checks := [(name, fun json => (decode json).map fun _ => ())]
  build
    | .named fields =>
      match fields.lookup name with
      | some json => do
        let a ← decode json
        .ok (a, .named fields)
      | none =>
        match byName with
        | some a => .ok (a, .named fields)
        | none => .error (.missingField name)
    | .ordered read complete (item :: items) => do
      let a ← decode item
      .ok (a, .ordered (read + 1) complete items)
    | .ordered read complete [] =>
      match inOrder with
      | some a => .ok (a, .ordered (read + 1) complete [])
      | none => .error (.invalidLength read complete)

/-- A field that has to be there. -/
def required (name : String) (decode : Json → Decoded α) : RecordReader α :=
  field name decode none none

/-- A field that may be left out of a record, but not of a list. -/
def optional (name : String) (decode : Json → Decoded α) : RecordReader (Option α) :=
  field name (toOption decode) (some none) none

/-- A field that may be left out. -/
def defaulted (name : String) (decode : Json → Decoded α) (default : α) : RecordReader α :=
  field name decode (some default) (some default)

/-- Checks the fields of a record in their order. Unknown names are passed over. -/
def checkFields (checks : List (String × (Json → Decoded Unit))) :
    List String → List (String × Json) → Decoded Unit
  | _, [] => .ok ()
  | seen, (name, json) :: rest =>
    match checks.lookup name with
    | none => checkFields checks seen rest
    | some check =>
      if seen.contains name then .error (.duplicateField name)
      else do
        check json
        checkFields checks (name :: seen) rest

/-- What a list of all fields is called. -/
def completeName (name : String) (size : Nat) : String :=
  "struct " ++ name ++ " with " ++ toString size ++ if size = 1 then " element" else " elements"

/-- Reads a record from its fields. -/
def ofNamed (reader : RecordReader α) (fields : List (String × Json)) : Decoded α := do
  checkFields reader.checks [] fields
  let (a, _) ← reader.build (.named fields)
  .ok a

/-- Reads a record from a list of its fields. -/
def ofOrdered (name : String) (reader : RecordReader α) (items : List Json) : Decoded α := do
  let (a, rest) ← reader.build (.ordered 0 (completeName name reader.checks.length) items)
  match rest with
  | .ordered _ _ (_ :: _) => .error (.invalidLength items.length "fewer elements in array")
  | _ => .ok a

/-- Reads a record of a given name. -/
def read (name : String) (reader : RecordReader α) : Json → Decoded α
  | record fields => reader.ofNamed fields
  | list items => reader.ofOrdered name items
  | other => .error (.invalidType other ("struct " ++ name))

/-- Reads a record of a given name. Unless the reading is exact, further items of a list are passed
over. -/
def readAs (exact : Bool) (name : String) (reader : RecordReader α) : Json → Decoded α
  | list items =>
    reader.ofOrdered name (if exact then items else items.take reader.checks.length)
  | other => read name reader other

end RecordReader

end Json

end TaskAutomation
