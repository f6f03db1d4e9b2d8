import TaskAutomation.Text.Visible

/-!
This file writes a text between double quotes, so that every character can be seen: quotes and
backslashes are escaped, line ends have short escapes, and characters without a printed form and
marks that would attach to the one before them are written as their code point.
-/

namespace TaskAutomation.Text

/-- A number in base sixteen with small letters. -/
def hexadecimal (n : Nat) : String := String.ofList (Nat.toDigits 16 n)

/-- One character between quotes. -/
def quoteChar (c : Char) : String :=
  if c = '"' then "\\\""
  else if c = '\\' then "\\\\"
  else if c = '\n' then "\\n"
  else if c = '\r' then "\\r"
  else if c = '\t' then "\\t"
  else if c = Char.ofNat 0 then "\\0"
  else if isMark c || !isVisible c then "\\u\x7b" ++ hexadecimal c.toNat ++ "\x7d"
  else String.singleton c

/-- The text between quotes. -/
def quoted (text : String) : String :=
  "\"" ++ String.join (text.toList.map quoteChar) ++ "\""

end TaskAutomation.Text
