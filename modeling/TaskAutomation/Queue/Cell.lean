import TaskAutomation.Number.Shortest
import TaskAutomation.Number.Word
import TaskAutomation.Text.Split

/-!
This file defines the cells of a stored table. A column prefers one kind of value and turns what is
written to it into that kind where nothing is lost; everything else is kept as it is. Cells of
different kinds are ordered by their kind.
-/

namespace TaskAutomation

/-- A stored value. -/
inductive Cell where
  | null
  | integer (value : Int)
  | real (value : Double)
  | text (value : String)
  deriving DecidableEq, Repr, Inhabited

namespace Cell

/-- The name of the kind of a cell. -/
def kindName : Cell → String
  | null => "Null"
  | integer _ => "Integer"
  | real _ => "Real"
  | text _ => "Text"

/-- Less in the order of cells: nothing, then numbers, then texts. -/
def lt : Cell → Cell → Bool
  | null, null => false
  | null, _ => true
  | _, null => false
  | integer a, integer b => a < b
  | integer a, real b => (Double.ofInt a).lt b
  | real a, integer b => a.lt (Double.ofInt b)
  | real a, real b => a.lt b
  | text a, text b => a < b
  | text _, _ => false
  | _, text _ => true

/-- Not more in the order of cells, for two cells that hold something. -/
def atMost (a b : Cell) : Bool := a ≠ null && b ≠ null && !b.lt a

/-- Less in the order of cells, for two cells that hold something. -/
def below (a b : Cell) : Bool := a ≠ null && b ≠ null && a.lt b

/-- The blanks around number text. -/
def isNumberBlank (c : Char) : Bool := c = ' ' || ('\t' ≤ c && c ≤ '\r')

/-- Text without the blanks around it. -/
def trimNumber (text : List Char) : List Char :=
  ((text.dropWhile isNumberBlank).reverse.dropWhile isNumberBlank).reverse

/-- The number that a text stands for, if it is one: whole if it can be. -/
def numberOfText? (text : String) : Option Cell :=
  let characters := trimNumber text.toList
  match Text.integer? characters with
  | some value =>
    if Word.holds64 value then some (integer value) else some (real (Double.ofInt value))
  | none =>
    if characters.all fun c => c.isDigit || c = '.' || c = 'e' || c = 'E' || c = '+' || c = '-' then
      (Double.ofText? (String.ofList characters)).map fun d =>
        match d.scaled? 1 with
        | some value =>
          if Double.ofInt value = d ∧ Word.holds64 value then integer value else real d
        | none => real d
    else none

/-- A value as a column for texts keeps it. -/
def asTextColumn : Cell → Cell
  | integer value => text (toString value)
  | real value => text value.text
  | other => other

/-- A value as a column for whole numbers keeps it. -/
def asIntegerColumn : Cell → Cell
  | text value => (numberOfText? value).getD (text value)
  | other => other

/-- The number at the start of a text, as arithmetic takes it. -/
def leadingInteger (text : String) : Int :=
  let characters := text.toList.dropWhile isNumberBlank
  let (negative, digits) :=
    match characters with
    | '-' :: rest => (true, rest)
    | '+' :: rest => (false, rest)
    | rest => (false, rest)
  let size : Int := Double.digitsValue (digits.takeWhile Char.isDigit)
  if negative then -size else size

/-- One more. A whole number that would leave 64 bits becomes a floating-point number. -/
def increment : Cell → Cell
  | null => null
  | integer value =>
    if Word.holds64 (value + 1) then integer (value + 1) else real (Double.ofInt (value + 1))
  | real value => real (value.add (Double.ofNat 1))
  | text value => integer (leadingInteger value + 1)

/-- The text before another one; nothing stays nothing. -/
def append : Cell → String → Cell
  | text value, more => text (value ++ more)
  | null, _ => null
  | other, more =>
    match asTextColumn other with
    | text value => text (value ++ more)
    | _ => null

end Cell

end TaskAutomation
