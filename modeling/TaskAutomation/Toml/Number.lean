import TaskAutomation.Number.Word
import TaskAutomation.Time.Calendar
import TaskAutomation.Toml.Text

/-!
This file reads the numbers, dates and times of TOML. Whole numbers have 64 bits, digits may be
grouped by single underscores, and a date or a time keeps no value, since no setting is one.
-/

namespace TaskAutomation.Toml

/-! ### Digits -/

/-- Reads digits behind those already read. Between two digits there may be an underscore. -/
def moreDigits (isDigit : Char → Bool) : Nat → List Char → Scan (List Char × List Char)
  | 0, text => some ([], text)
  | fuel + 1, text =>
    match text with
    | '_' :: rest =>
      match rest with
      | c :: _ => if isDigit c then moreDigits isDigit fuel rest else none
      | [] => none
    | c :: rest =>
      if isDigit c then (moreDigits isDigit fuel rest).map fun (digits, rest) => (c :: digits, rest)
      else some ([], c :: rest)
    | [] => some ([], [])

/-- Reads one or more digits. -/
def digits (isDigit : Char → Bool) : List Char → Scan (List Char × List Char)
  | [] => none
  | c :: rest =>
    if isDigit c then
      (moreDigits isDigit rest.length rest).map fun (digits, rest) => (c :: digits, rest)
    else none

/-- Reads the digits of a whole number, which does not start with a zero unless it is zero. -/
def wholeDigits : List Char → Scan (List Char × List Char)
  | '0' :: rest => some (['0'], rest)
  | text => digits Char.isDigit text

/-- Reads a sign; none counts as plus. -/
def sign : List Char → Bool × List Char
  | '-' :: rest => (true, rest)
  | '+' :: rest => (false, rest)
  | rest => (false, rest)

/-! ### Numbers -/

/-- The value of digits in a base. -/
def valueIn (base : Nat) (digits : List Char) : Nat :=
  digits.foldl (fun value c => base * value + (Json.hexValue? c).getD 0) 0

/-- A whole number that fits into 64 bits. -/
def whole (value : Int) (rest : List Char) : Scan (Json × List Char) :=
  if Word.holds64 value then some (.integer value, rest) else none

/-- Reads a whole number in a base other than ten. -/
def inBase (base : Nat) (text : List Char) : Scan (Json × List Char) := do
  let isDigit (c : Char) : Bool := (Json.hexValue? c).any fun value => value < base
  let (digits, rest) ← digits isDigit text
  whole (valueIn base digits) rest

/-- Reads an exponent behind its letter. -/
def exponent (text : List Char) : Scan (Int × List Char) := do
  let (negative, text) := sign text
  let (digits, rest) ← digits Char.isDigit text
  let size : Int := valueIn 10 digits
  some (if negative then -size else size, rest)

/-- The exponent from which on a number with digits other than zero has no finite value, or the
value zero, whatever its digits are. -/
def exponentBound (size : Nat) : Int := 400 + size

/-- The floating-point number of digits and an exponent of ten. One that is too large is refused,
but only if it is positive. -/
def float (negative : Bool) (digits : List Char) (exponent : Int) (rest : List Char) :
    Scan (Json × List Char) :=
  let bound := exponentBound digits.length
  let exponent := max (-bound) (min bound exponent)
  match Double.ofDecimal negative (valueIn 10 digits) exponent with
  | .infinite false => none
  | d => some (.double d, rest)

/-- Reads an exponent and ends the number. -/
def withExponent (negative : Bool) (digits : List Char) (places : Nat) (text : List Char) :
    Scan (Json × List Char) := do
  let (exponent, rest) ← exponent text
  float negative digits (exponent - places) rest

/-- Reads a number in base ten. -/
def decimal (text : List Char) : Scan (Json × List Char) := do
  let (negative, text) := sign text
  match text with
  | 'i' :: 'n' :: 'f' :: rest => some (.double (.infinite negative), rest)
  | 'n' :: 'a' :: 'n' :: rest => some (.double .nan, rest)
  | text =>
    let (digitsBefore, rest) ← wholeDigits text
    match rest with
    | '.' :: rest =>
      let (places, rest) ← digits Char.isDigit rest
      let all := digitsBefore ++ places
      match rest with
      | 'e' :: rest | 'E' :: rest => withExponent negative all places.length rest
      | rest => float negative all (-(places.length : Int)) rest
    | 'e' :: rest | 'E' :: rest => withExponent negative digitsBefore 0 rest
    | rest =>
      let size : Int := valueIn 10 digitsBefore
      whole (if negative then -size else size) rest

/-! ### Dates and times -/

/-- Reads exactly so many digits as a number between two bounds. -/
def part (size least most : Nat) (text : List Char) : Scan (Nat × List Char) :=
  let digits := text.take size
  let value := valueIn 10 digits
  if digits.length = size ∧ digits.all Char.isDigit ∧ least ≤ value ∧ value ≤ most then
    some (value, text.drop size)
  else none

/-- Reads one character. -/
def mark? (wanted : Char) : List Char → Option (List Char)
  | c :: rest => if c = wanted then some rest else none
  | [] => none

/-- Reads a date. -/
def date? (text : List Char) : Option (List Char) := do
  let (year, rest) ← part 4 0 9999 text
  let (month, rest) ← part 2 1 12 (← mark? '-' rest)
  let (_, rest) ← part 2 1 (Date.daysInMonth year month) (← mark? '-' rest)
  some rest

/-- Reads hours and minutes. -/
def hourAndMinute? (text : List Char) : Option (List Char) := do
  let (_, rest) ← part 2 0 23 text
  let (_, rest) ← part 2 0 59 (← mark? ':' rest)
  some rest

/-- Reads a time of day. -/
def time? (text : List Char) : Option (List Char) := do
  let rest ← hourAndMinute? text
  let (_, rest) ← part 2 0 60 (← mark? ':' rest)
  match rest with
  | '.' :: c :: rest =>
    if c.isDigit then some (rest.dropWhile Char.isDigit) else some ('.' :: c :: rest)
  | rest => some rest

/-- Reads a distance from universal time. -/
def offset? : List Char → Option (List Char)
  | 'Z' :: rest | 'z' :: rest => some rest
  | '+' :: rest | '-' :: rest => hourAndMinute? rest
  | _ => none

/-- Reads a date, a time of day, or both. -/
def moment? (text : List Char) : Option (List Char) :=
  match date? text with
  | none => time? text
  | some rest =>
    match rest with
    | 'T' :: after | 't' :: after | ' ' :: after =>
      match time? after with
      | some after => some ((offset? after).getD after)
      | none => some rest
    | rest => some rest

/-- Reads a number, a date or a time. -/
def number (text : List Char) : Scan (Json × List Char) :=
  match moment? text with
  | some rest => some (.record [], rest)
  | none =>
    match text with
    | '0' :: 'x' :: rest => inBase 16 rest
    | '0' :: 'o' :: rest => inBase 8 rest
    | '0' :: 'b' :: rest => inBase 2 rest
    | text => decimal text

end TaskAutomation.Toml
