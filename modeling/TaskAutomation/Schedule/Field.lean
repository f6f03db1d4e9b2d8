import TaskAutomation.Number.Word
import TaskAutomation.Text.Blank
import TaskAutomation.Text.Split

/-!
This file defines the expressions that choose numbers in one field of a schedule. An expression is a
list of items between commas; an item is `*`, a number or a range, followed by any number of
moduli, each behind a slash. A number passes an expression if it passes one item, and it passes an
item if it lies in the item's range and every modulus divides it. White space may stand around every
part.
-/

namespace TaskAutomation

/-- The range of an item. -/
inductive FieldRange where
  | any
  | exactly (value : Nat)
  | between (first last : Nat)
  deriving DecidableEq, Repr, Inhabited

/-- A range with moduli, in the order of the text. -/
structure FieldItem where
  range : FieldRange
  moduli : List Nat
  deriving DecidableEq, Repr, Inhabited

/-- One or more items. -/
structure FieldExpression where
  first : FieldItem
  more : List FieldItem
  deriving DecidableEq, Repr, Inhabited

/-- Why a text is no field expression. -/
inductive FieldFault where
  | empty
  | invalidNumber (text : String)
  | invalidRange (text : String)
  | zeroModulus (text : String)
  deriving DecidableEq, Repr

def FieldFault.message : FieldFault → String
  | empty => "empty expression"
  | invalidNumber text => "invalid number '" ++ text ++ "'"
  | invalidRange text => "invalid range '" ++ text ++ "'"
  | zeroModulus text => "modulus must be positive in '" ++ text ++ "'"

/-! ### Meaning -/

namespace FieldRange

/-- The number lies in the range. -/
def contains : FieldRange → Nat → Bool
  | any, _ => true
  | exactly k, value => value = k
  | between first last, value => first ≤ value && value ≤ last

/-- The numbers that the range names. -/
def literals : FieldRange → List Nat
  | any => []
  | exactly k => [k]
  | between first last => [first, last]

/-- The text of the range. -/
def text : FieldRange → String
  | any => "*"
  | exactly k => toString k
  | between first last => toString first ++ "-" ++ toString last

end FieldRange

namespace FieldItem

/-- The number lies in the range of the item and every modulus divides it. -/
def test (item : FieldItem) (value : Nat) : Bool :=
  item.range.contains value && item.moduli.all fun modulus => value % modulus = 0

/-- The text of the item. -/
def text (item : FieldItem) : String :=
  item.moduli.foldl (fun text modulus => text ++ "/" ++ toString modulus) item.range.text

end FieldItem

namespace FieldExpression

/-- All items. -/
def items (expression : FieldExpression) : List FieldItem := expression.first :: expression.more

/-- The number passes one of the items. -/
def test (expression : FieldExpression) (value : Nat) : Bool :=
  expression.items.any fun item => item.test value

/-- Every number that a range names lies between two bounds. Moduli are not bounded. -/
def within (expression : FieldExpression) (least most : Nat) : Bool :=
  expression.items.all fun item =>
    item.range.literals.all fun value => least ≤ value && value ≤ most

/-- The text of the expression. -/
def text (expression : FieldExpression) : String :=
  ",".intercalate (expression.items.map FieldItem.text)

end FieldExpression

/-! ### Reading -/

namespace FieldExpression

/-- Reads a number, which has 32 bits. -/
def number (text : List Char) : Except FieldFault Nat :=
  let text := Text.trim text
  if text.isEmpty then .error .empty
  else
    match Text.natural? text with
    | some value =>
      if value < Word.size32 then .ok value else .error (.invalidNumber (String.ofList text))
    | none => .error (.invalidNumber (String.ofList text))

/-- Reads a range. -/
def range (text : List Char) : Except FieldFault FieldRange :=
  let text := Text.trim text
  if text.isEmpty then .error .empty
  else if text = ['*'] then .ok .any
  else
    match Text.splitFirst? '-' text with
    | some (first, last) => do
      let first ← number first
      let last ← number last
      if last < first then .error (.invalidRange (String.ofList text))
      else .ok (.between first last)
    | none => (number text).map .exactly

/-- Reads an item from its pieces between slashes, the last piece first. The last modulus is looked
at before all that stands in front of it. -/
def item : List (List Char) → Except FieldFault FieldItem
  | [] => .error .empty
  | [piece] => (range piece).map fun range => ⟨range, []⟩
  | piece :: before => do
    let modulus ← number piece
    if modulus = 0 then
      .error (.zeroModulus
        (String.ofList (Text.trim (Text.joinWith '/' (piece :: before).reverse))))
    else
      let item ← item before
      .ok { item with moduli := item.moduli ++ [modulus] }

/-- Reads an item. -/
def readItem (text : List Char) : Except FieldFault FieldItem :=
  item (Text.splitAt '/' text).reverse

/-- Reads an expression. -/
def read (text : String) : Except FieldFault FieldExpression := do
  match ← (Text.splitAt ',' text.toList).mapM readItem with
  | first :: more => .ok ⟨first, more⟩
  | [] => .error .empty

end FieldExpression

end TaskAutomation
