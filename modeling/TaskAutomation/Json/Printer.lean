import TaskAutomation.Json.Basic
import TaskAutomation.Number.Shortest

/-!
This file writes JSON values without any blanks. In a text only the quote, the backslash and the
control characters are escaped; a number that is not finite is written `null`.
-/

namespace TaskAutomation.Json

/-- A digit of base sixteen. -/
def hexDigit (n : Nat) : Char := Nat.digitChar n

/-- One character of a text. -/
def escapeChar (c : Char) : List Char :=
  if c = '"' then ['\\', '"']
  else if c = '\\' then ['\\', '\\']
  else if c = '\n' then ['\\', 'n']
  else if c = '\r' then ['\\', 'r']
  else if c = '\t' then ['\\', 't']
  else if c = '\x08' then ['\\', 'b']
  else if c = '\x0c' then ['\\', 'f']
  else if c.toNat < 0x20 then
    ['\\', 'u', '0', '0', hexDigit (c.toNat / 16), hexDigit (c.toNat % 16)]
  else [c]

/-- A text between its quotes. -/
def printText (text : String) : List Char :=
  '"' :: text.toList.flatMap escapeChar ++ ['"']

/-- A whole number in decimal digits. -/
def printInteger (n : Int) : List Char :=
  (if n < 0 then ['-'] else []) ++ Nat.toDigits 10 n.natAbs

mutual

/-- The characters of a value. -/
def print : Json → List Char
  | null => ['n', 'u', 'l', 'l']
  | bool true => ['t', 'r', 'u', 'e']
  | bool false => ['f', 'a', 'l', 's', 'e']
  | integer n => printInteger n
  | double d => d.text.toList
  | string s => printText s
  | list [] => ['[', ']']
  | list (item :: rest) => '[' :: (item.print ++ printItems rest)
  | record [] => ['\x7b', '\x7d']
  | record ((name, value) :: rest) =>
    '\x7b' :: (printText name ++ ':' :: (value.print ++ printFields rest))

/-- The further items of a list and its end. -/
def printItems : List Json → List Char
  | [] => [']']
  | item :: rest => ',' :: (item.print ++ printItems rest)

/-- The further fields of a record and its end. -/
def printFields : List (String × Json) → List Char
  | [] => ['\x7d']
  | (name, value) :: rest =>
    ',' :: (printText name ++ ':' :: (value.print ++ printFields rest))

end

/-- The text of a value. -/
def compact (json : Json) : String := String.ofList json.print

end TaskAutomation.Json
