import TaskAutomation.Text.CaseTable
import TaskAutomation.Text.Visible

/-!
This file turns text into small letters, for every script. One capital has a small form of two
characters, and the Greek capital sigma has a second small form at the end of a word.
-/

namespace TaskAutomation.Text

/-- The small letter of a capital, by the table of runs. -/
def smallPoint (point : Nat) : Nat :=
  match capitalRuns.find? fun run =>
      run.1 ≤ point && point ≤ run.2.1 && (point - run.1) % run.2.2.1 = 0 with
  | some run => run.2.2.2 + (point - run.1)
  | none => point

/-- The small form of one character outside of any word. -/
def lowerChar (c : Char) : List Char :=
  if c.toNat < 0x80 then [c.toLower]
  else if c = 'İ' then ['i', '\u0307']
  else [Char.ofNat (smallPoint c.toNat)]

/-- The first character that is not passed over has a case. -/
def meetsCased : List Char → Bool
  | [] => false
  | c :: rest =>
    if inRanges caseIgnorableRanges c.toNat then meetsCased rest
    else inRanges casedRanges c.toNat

/-- Works from the front; `before` holds the characters already passed, last one first. A sigma is
final when a cased character comes before it and none after. -/
def lowerFrom (before : List Char) : List Char → List Char
  | [] => []
  | c :: rest =>
    (if c = 'Σ' then [if meetsCased before && !meetsCased rest then 'ς' else 'σ']
      else lowerChar c) ++ lowerFrom (c :: before) rest

/-- The text in small letters. -/
def lowerCase (text : String) : String := String.ofList (lowerFrom [] text.toList)

/-- Letters of the Latin alphabet are compared without regard to case, all else as it stands. -/
def equalIgnoringAsciiCase (a b : String) : Bool :=
  a.toList.map Char.toLower == b.toList.map Char.toLower

end TaskAutomation.Text
