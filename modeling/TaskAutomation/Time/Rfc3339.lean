import TaskAutomation.Number.Word
import TaskAutomation.Text.Blank
import TaskAutomation.Time.Instant

/-!
This file writes points of time as RFC 3339 text in universal time and reads such text. The reader
is lenient: spaces may stand before numbers and separators, the letters T and Z may be small, a
space may stand for T, and the zone may be any offset with or without a colon.
-/

namespace TaskAutomation.Rfc3339

/-! ### Writing -/

/-- A number with at least two digits. -/
def twoDigits (n : Nat) : String := if n < 10 then "0" ++ toString n else toString n

/-- A number with leading zeros up to a width. -/
def padded (width n : Nat) : String :=
  let digits := Nat.toDigits 10 n
  String.ofList (List.replicate (width - digits.length) '0' ++ digits)

/-- Years beyond four digits and years before the first carry their sign. -/
def yearText (year : Int) : String :=
  if 0 ≤ year ∧ year ≤ 9999 then padded 4 year.toNat
  else (if year < 0 then "-" else "+") ++ padded 4 year.natAbs

/-- The fraction of a second in 0, 3, 6 or 9 digits, the fewest that lose nothing. -/
def fractionText (nanos : Nat) : String :=
  if nanos = 0 then ""
  else if nanos % 1000000 = 0 then "." ++ padded 3 (nanos / 1000000)
  else if nanos % 1000 = 0 then "." ++ padded 6 (nanos / 1000)
  else "." ++ padded 9 nanos

/-- The text of a point of time in universal time. A leap second is second 60. -/
def write (instant : Instant) : String :=
  let days := instant.seconds / Instant.secondsPerDay
  let date := Date.ofDays days
  let second := (instant.seconds % Instant.secondsPerDay).toNat
  let leap := if instant.isLeap then 1 else 0
  yearText date.year ++ "-" ++ twoDigits date.month ++ "-" ++ twoDigits date.day ++ "T" ++
    twoDigits (second / 3600) ++ ":" ++ twoDigits (second / 60 % 60) ++ ":" ++
    twoDigits (second % 60 + leap) ++ fractionText (instant.nanos % nanosPerSecond) ++ "Z"

/-! ### Reading -/

/-- Why a text is not a point of time. -/
inductive Refusal where
  | outOfRange
  | impossible
  | invalid
  | tooShort
  | tooLong
  deriving DecidableEq, Repr

def Refusal.message : Refusal → String
  | outOfRange => "input is out of range"
  | impossible => "no possible date and time matching input"
  | invalid => "input contains invalid characters"
  | tooShort => "premature end of input"
  | tooLong => "trailing input"

/-- Digits are read into 64 bits. -/
def maxNumber : Nat := 9223372036854775807

/-- Reads up to `width` further digits. -/
def moreDigits : Nat → Nat → List Char → Except Refusal (Nat × List Char)
  | 0, value, text => .ok (value, text)
  | _ + 1, value, [] => .ok (value, [])
  | width + 1, value, c :: rest =>
    if c.isDigit then
      let value := 10 * value + (c.toNat - '0'.toNat)
      if maxNumber < value then .error .outOfRange else moreDigits width value rest
    else .ok (value, c :: rest)

/-- Reads a number of at least one and at most `width` digits. -/
def number (width : Nat) : List Char → Except Refusal (Nat × List Char)
  | [] => .error .tooShort
  | c :: rest => if c.isDigit then moreDigits width 0 (c :: rest) else .error .invalid

/-- Reads a number within bounds, after white space. -/
def field (width least most : Nat) (text : List Char) : Except Refusal (Nat × List Char) := do
  let (value, rest) ← number width (Text.trimStart text)
  if least ≤ value ∧ value ≤ most then .ok (value, rest) else .error .outOfRange

/-- Reads one given character, after white space. -/
def separator (wanted : Char) (text : List Char) : Except Refusal (List Char) :=
  match Text.trimStart text with
  | [] => .error .tooShort
  | c :: rest => if c = wanted then .ok rest else .error .invalid

/-- Reads a year: four digits at most, or any number of digits after a sign. -/
def year (text : List Char) : Except Refusal (Int × List Char) := do
  let (value, rest) ← match Text.trimStart text with
    | '-' :: rest => do
      let (value, rest) ← number (rest.length + 1) rest
      .ok (-(value : Int), rest)
    | '+' :: rest => do
      let (value, rest) ← number (rest.length + 1) rest
      .ok ((value : Int), rest)
    | text => do
      let (value, rest) ← number 4 text
      .ok ((value : Int), rest)
  if Word.holds32 value then .ok (value, rest) else .error .outOfRange

/-- Reads the fraction of a second; digits past the ninth are passed over. -/
def fraction : List Char → Except Refusal (Nat × List Char)
  | '.' :: text => do
    let (value, rest) ← number 9 text
    let digits := text.length - rest.length
    .ok (value * Nat.pow 10 (9 - digits), rest.dropWhile Char.isDigit)
  | text => .ok (0, text)

/-- Reads the offset from universal time in seconds. -/
def offset (text : List Char) : Except Refusal (Int × List Char) :=
  match text with
  | [] => .error .tooShort
  | sign :: rest =>
    if sign = 'Z' ∨ sign = 'z' then .ok (0, rest)
    else if (text.take 3).map Char.toUpper = ['U', 'T', 'C'] then .ok (0, text.drop 3)
    else if sign ≠ '+' ∧ sign ≠ '-' ∧ sign ≠ '\u2212' then .error .invalid
    else
      match rest with
      | h₁ :: h₂ :: rest =>
        if ¬ h₁.isDigit ∨ ¬ h₂.isDigit then .error .invalid
        else
          let hours := 10 * (h₁.toNat - '0'.toNat) + (h₂.toNat - '0'.toNat)
          match rest.dropWhile fun c => c = ':' || Text.isBlank c with
          | m₁ :: m₂ :: rest =>
            if ¬ m₁.isDigit ∨ ¬ m₂.isDigit then .error .invalid
            else if '5' < m₁ then .error .outOfRange
            else
              let minutes := 10 * (m₁.toNat - '0'.toNat) + (m₂.toNat - '0'.toNat)
              let seconds : Int := (hours * 3600 + minutes * 60 : Nat)
              .ok (if sign = '+' then seconds else -seconds, rest)
          | [c] => if c.utf8Size < 2 then .error .tooShort else .error .invalid
          | [] => .error .tooShort
      | [c] => if c.utf8Size < 2 then .error .tooShort else .error .invalid
      | [] => .error .tooShort

/-- Reads a point of time. -/
def read (text : String) : Except Refusal Instant := do
  let (year, rest) ← year text.toList
  let rest ← separator '-' rest
  let (month, rest) ← field 2 1 12 rest
  let rest ← separator '-' rest
  let (day, rest) ← field 2 1 31 rest
  let rest ← match rest with
    | [] => .error .tooShort
    | c :: rest => if c = 'T' ∨ c = 't' ∨ c = ' ' then .ok rest else .error Refusal.invalid
  let (hour, rest) ← field 2 0 23 rest
  let rest ← separator ':' rest
  let (minute, rest) ← field 2 0 59 rest
  let rest ← separator ':' rest
  let (second, rest) ← field 2 0 60 rest
  let (nanos, rest) ← fraction rest
  let (offset, rest) ← offset (Text.trimStart rest)
  if ¬ (Text.trimStart rest).isEmpty then .error .tooLong
  else
    let date : Date := ⟨year, month, day⟩
    if ¬ date.isValid ∨ year < -262143 ∨ 262142 < year ∨ 86400 ≤ offset.natAbs then
      .error .outOfRange
    else
      let (second, leap) := if second = 60 then (59, nanosPerSecond) else (second, 0)
      let seconds := date.toDays * Instant.secondsPerDay +
        (hour * 3600 + minute * 60 + second : Nat) - offset
      if Instant.inRange seconds then .ok ⟨seconds, nanos + leap⟩ else .error .impossible

end TaskAutomation.Rfc3339
