/-!
This file cuts texts at given characters and reads plain numbers. Cutting always gives at least one
piece, and joining the pieces again gives the text.
-/

namespace TaskAutomation.Text

/-- The pieces of a text between the places where a character stands. -/
def splitAt (mark : Char) : List Char → List (List Char)
  | [] => [[]]
  | c :: rest =>
    if c = mark then [] :: splitAt mark rest
    else
      match splitAt mark rest with
      | piece :: pieces => (c :: piece) :: pieces
      | [] => [[c]]

/-- Cuts a text at the first place where a character stands. -/
def splitFirst? (mark : Char) : List Char → Option (List Char × List Char)
  | [] => none
  | c :: rest =>
    if c = mark then some ([], rest)
    else (splitFirst? mark rest).map fun (before, behind) => (c :: before, behind)

/-- Pieces with a character between each two. -/
def joinWith (mark : Char) : List (List Char) → List Char
  | [] => []
  | [piece] => piece
  | piece :: rest => piece ++ mark :: joinWith mark rest

/-- The value of decimal digits behind those that make up `value`, if all characters are digits. -/
def digitsFrom? (value : Nat) : List Char → Option Nat
  | [] => some value
  | c :: rest =>
    if c.isDigit then digitsFrom? (10 * value + (c.toNat - '0'.toNat)) rest else none

/-- The value of one or more decimal digits. -/
def digits? : List Char → Option Nat
  | [] => none
  | digits => digitsFrom? 0 digits

/-- The value of decimal digits with an optional plus sign in front. -/
def natural? : List Char → Option Nat
  | '+' :: digits => digits? digits
  | digits => digits? digits

/-- The value of decimal digits with an optional sign in front. -/
def integer? : List Char → Option Int
  | '-' :: digits => (digits? digits).map fun n => -(n : Int)
  | digits => (natural? digits).map fun n => (n : Int)

theorem splitAt_ne_nil (mark : Char) (text : List Char) : splitAt mark text ≠ [] := by
  cases text with
  | nil => simp [splitAt]
  | cons c rest =>
    simp only [splitAt]
    split
    · simp
    · split <;> simp

end TaskAutomation.Text
