import TaskAutomation.Json.Basic
import TaskAutomation.Number.Shortest
import TaskAutomation.Number.Word

/-!
This file reads JSON text. The reader stops at the first character that does not fit and says where
it stands: a fault keeps the number of bytes from there to the end of the text. Lists and records
may be nested 127 levels deep. Digits of a number past the size of 64 bits are dropped and only
count for its exponent.
-/

namespace TaskAutomation.Json

/-! ### Faults -/

/-- Why a text is not JSON. -/
inductive SyntaxFault where
  | endInList
  | endInRecord
  | endInText
  | endInValue
  | noColon
  | noListSeparator
  | noRecordSeparator
  | noWord
  | noValue
  | invalidEscape
  | invalidNumber
  | numberOutOfRange
  | loneSurrogate
  | controlCharacter
  | keyNotText
  | trailingComma
  | trailingCharacters
  | unfinishedSurrogate
  | tooDeep
  deriving DecidableEq, Repr

def SyntaxFault.message : SyntaxFault → String
  | endInList => "EOF while parsing a list"
  | endInRecord => "EOF while parsing an object"
  | endInText => "EOF while parsing a string"
  | endInValue => "EOF while parsing a value"
  | noColon => "expected `:`"
  | noListSeparator => "expected `,` or `]`"
  | noRecordSeparator => "expected `,` or `\x7d`"
  | noWord => "expected ident"
  | noValue => "expected value"
  | invalidEscape => "invalid escape"
  | invalidNumber => "invalid number"
  | numberOutOfRange => "number out of range"
  | loneSurrogate => "lone leading surrogate in hex escape"
  | controlCharacter => "control character (\\u0000-\\u001F) found while parsing a string"
  | keyNotText => "key must be a string"
  | trailingComma => "trailing comma"
  | trailingCharacters => "trailing characters"
  | unfinishedSurrogate => "unexpected end of hex escape"
  | tooDeep => "recursion limit exceeded"

/-- The number of bytes that characters take up. -/
def byteLength : List Char → Nat
  | [] => 0
  | c :: rest => c.utf8Size + byteLength rest

/-- A cause and its place, as the number of bytes between the place and the end of the text. -/
structure Fault (cause : Type) where
  cause : cause
  left : Nat
  deriving DecidableEq, Repr

namespace Fault

variable {cause : Type}

/-- A fault in front of the rest of a text. -/
def before (why : cause) (rest : List Char) : Fault cause := ⟨why, byteLength rest⟩

/-- A fault behind the first byte of the rest of a text. -/
def behindNext (why : cause) (rest : List Char) : Fault cause := ⟨why, byteLength rest - 1⟩

end Fault

/-- The line and the column of a place, given by its distance in bytes from the start of the text:
a line ends behind its line feed. -/
def lineAndColumn (text : List Char) (place : Nat) : Nat × Nat :=
  let go := text.foldl (fun (line, start, offset) c =>
    if c = '\n' ∧ offset < place then (line + 1, offset + 1, offset + c.utf8Size)
    else (line, start, offset + c.utf8Size)) (1, 0, 0)
  (go.1, place - go.2.1)

/-- The message of a fault, with its line and column. -/
def Fault.locate {cause : Type} (message : cause → String) (text : String) (fault : Fault cause) :
    String :=
  let (line, column) := lineAndColumn text.toList (text.utf8ByteSize - fault.left)
  message fault.cause ++ " at line " ++ toString line ++ " column " ++ toString column

/-- What reading a part of a text gives, most often a value and the rest of the text. -/
abbrev Scan := Except (Fault SyntaxFault)

/-! ### Words and blanks -/

/-- The blanks of JSON. -/
def isSpace (c : Char) : Bool := c = ' ' || c = '\n' || c = '\t' || c = '\r'

/-- The rest of a text from its first character that is no blank. -/
def skipSpace (text : List Char) : List Char := text.dropWhile isSpace

/-- Reads the rest of a known word. -/
def word : List Char → List Char → Scan (List Char)
  | [], text => .ok text
  | _ :: _, [] => .error (.before .endInValue [])
  | w :: wanted, c :: rest =>
    if c = w then word wanted rest else .error (.behindNext .noWord (c :: rest))

/-! ### Text -/

/-- The value of a digit of base sixteen. -/
def hexValue? (c : Char) : Option Nat :=
  if '0' ≤ c ∧ c ≤ '9' then some (c.toNat - '0'.toNat)
  else if 'a' ≤ c ∧ c ≤ 'f' then some (c.toNat - 'a'.toNat + 10)
  else if 'A' ≤ c ∧ c ≤ 'F' then some (c.toNat - 'A'.toNat + 10)
  else none

/-- The number that four digits of base sixteen stand for. -/
def hexUnit? (a b c d : Char) : Option Nat := do
  some ((((← hexValue? a) * 16 + (← hexValue? b)) * 16 + (← hexValue? c)) * 16 + (← hexValue? d))

/-- Reads four digits of base sixteen. -/
def hexUnit (text : List Char) : Scan (Nat × List Char) :=
  let refused : Scan (Nat × List Char) :=
    if byteLength text < 4 then .error ⟨.endInText, 0⟩
    else .error ⟨.invalidEscape, byteLength text - 4⟩
  match text with
  | a :: b :: c :: d :: rest =>
    match hexUnit? a b c d with
    | some unit => .ok (unit, rest)
    | none => refused
  | _ => refused

/-- Reads one given character that has to follow the first half of a surrogate pair. -/
def pairMark (wanted : Char) : List Char → Scan (List Char)
  | [] => .error (.before .endInText [])
  | c :: rest =>
    if c = wanted then .ok rest else .error (.behindNext .unfinishedSurrogate (c :: rest))

/-- Reads the code of a character after the letter u: a unit of sixteen bits, or a surrogate pair
written as two of them. -/
def codedChar (text : List Char) : Scan (Char × List Char) := do
  let (unit, rest) ← hexUnit text
  if 0xDC00 ≤ unit ∧ unit ≤ 0xDFFF then .error (.before .loneSurrogate rest)
  else if unit < 0xD800 ∨ 0xDFFF < unit then .ok (Char.ofNat unit, rest)
  else
    let rest ← pairMark '\\' rest
    let rest ← pairMark 'u' rest
    let (second, rest) ← hexUnit rest
    if second < 0xDC00 ∨ 0xDFFF < second then .error (.before .loneSurrogate rest)
    else .ok (Char.ofNat ((unit - 0xD800) * 0x400 + (second - 0xDC00) + 0x10000), rest)

/-- The character that a letter after a backslash stands for. -/
def escaped? (c : Char) : Option Char :=
  if c = '"' then some '"'
  else if c = '\\' then some '\\'
  else if c = '/' then some '/'
  else if c = 'b' then some '\x08'
  else if c = 'f' then some '\x0c'
  else if c = 'n' then some '\n'
  else if c = 'r' then some '\r'
  else if c = 't' then some '\t'
  else none

/-- Reads the characters of a text up to its closing quote. -/
def characters : Nat → List Char → Scan (List Char × List Char)
  | 0, text => .error (.before .endInText text)
  | _ + 1, [] => .error (.before .endInText [])
  | fuel + 1, c :: rest =>
    if c = '"' then .ok ([], rest)
    else if c = '\\' then
      match rest with
      | [] => .error (.before .endInText [])
      | e :: after => do
        let (decoded, after) ←
          if e = 'u' then codedChar after
          else
            match escaped? e with
            | some decoded => .ok (decoded, after)
            | none => .error (.behindNext .invalidEscape (e :: after))
        let (more, after) ← characters fuel after
        .ok (decoded :: more, after)
    else if c.toNat < 0x20 then .error (.behindNext .controlCharacter (c :: rest))
    else do
      let (more, after) ← characters fuel rest
      .ok (c :: more, after)

/-- Reads a text behind its opening quote. -/
def textBody (text : List Char) : Scan (String × List Char) := do
  let (content, rest) ← characters (text.length + 1) text
  .ok (String.ofList content, rest)

/-! ### Numbers -/

/-- Appends digits to a significand as long as it fits into 64 bits. -/
def addDigits (significand : Nat) : List Char → Nat × List Char
  | [] => (significand, [])
  | c :: rest =>
    let next := significand * 10 + (c.toNat - '0'.toNat)
    if c.isDigit ∧ next < Word.size64 then addDigits next rest else (significand, c :: rest)

/-- The first character is a digit. -/
def startsWithDigit : List Char → Bool
  | c :: _ => c.isDigit
  | [] => false

/-- A power of ten, rounded. -/
def powerOfTen (exponent : Nat) : Double := Double.ofDecimal false 1 exponent

/-- Scales a number by a power of ten, in steps of at most 10^308 downwards. The result is absent if
it is too large. After two steps every significand of 64 bits has become zero. -/
def scaleByTen : Nat → Double → Int → Option Double
  | 0, _, _ => some Double.zero
  | steps + 1, d, exponent =>
    if exponent.natAbs ≤ 308 then
      if 0 ≤ exponent then
        let scaled := d.mul (powerOfTen exponent.natAbs)
        if scaled.isFinite then some scaled else none
      else some (d.div (powerOfTen exponent.natAbs))
    else if d.isZero then some d
    else if 0 ≤ exponent then none
    else scaleByTen steps (d.div (powerOfTen 308)) (exponent + 308)

/-- The number of a significand and an exponent of ten. -/
def ofParts (negative : Bool) (significand : Nat) (exponent : Int) (rest : List Char) :
    Scan (Json × List Char) :=
  match scaleByTen 4 (Double.ofNat significand) exponent with
  | some d => .ok (double (if negative then d.neg else d), rest)
  | none => .error (.before .numberOutOfRange rest)

/-- The largest exponent that is read. -/
def maxWritten : Nat := 2147483647

/-- Reads the digits of an exponent; one that grows too large makes the number zero or takes it out
of range. -/
def exponentDigits (negative : Bool) (significand : Nat) (exponent : Int) (upwards : Bool)
    (written : Nat) : List Char → Scan (Json × List Char)
  | c :: rest =>
    let next := written * 10 + (c.toNat - '0'.toNat)
    if ¬ c.isDigit then finish (c :: rest)
    else if next ≤ maxWritten then
      exponentDigits negative significand exponent upwards next rest
    else if significand ≠ 0 ∧ upwards then .error (.before .numberOutOfRange rest)
    else .ok (double (.finite negative 0 Double.minExponent), rest.dropWhile Char.isDigit)
  | [] => finish []
where
  /-- The number with its exponent read completely. -/
  finish (rest : List Char) : Scan (Json × List Char) :=
    ofParts negative significand (if upwards then exponent + written else exponent - written) rest

/-- Reads an exponent behind its letter, or ends the number if there is none. -/
def withExponent (negative : Bool) (significand : Nat) (exponent : Int) (text : List Char) :
    Scan (Json × List Char) :=
  match text with
  | 'e' :: rest | 'E' :: rest =>
    let (upwards, rest) :=
      match rest with
      | '+' :: rest => (true, rest)
      | '-' :: rest => (false, rest)
      | rest => (true, rest)
    match rest with
    | [] => .error (.before .endInValue [])
    | c :: after =>
      if c.isDigit then
        exponentDigits negative significand exponent upwards (c.toNat - '0'.toNat) after
      else .error (.behindNext .invalidNumber (c :: after))
  | text => ofParts negative significand exponent text

/-- Reads the digits behind a point; at least one is needed. -/
def withFraction (negative : Bool) (significand : Nat) (exponent : Int) (text : List Char) :
    Scan (Json × List Char) :=
  let (longer, rest) := addDigits significand text
  let places := text.length - rest.length
  if places = 0 ∧ ¬ startsWithDigit rest then
    .error (if rest.isEmpty then .before .endInValue rest else .behindNext .invalidNumber rest)
  else withExponent negative longer (exponent - places) (rest.dropWhile Char.isDigit)

/-- Reads a number behind its sign. A whole number of 64 bits is kept as it is, and anything else,
minus zero among it, is a floating-point number. -/
def number (negative : Bool) (text : List Char) : Scan (Json × List Char) :=
  match text with
  | [] => .error (.before .endInValue [])
  | c :: rest =>
    if ¬ c.isDigit then .error (.behindNext .invalidNumber (c :: rest))
    else if c = '0' ∧ startsWithDigit rest then .error (.behindNext .invalidNumber rest)
    else
      let (significand, rest) := addDigits 0 (c :: rest)
      let dropped := rest.takeWhile Char.isDigit
      let rest := rest.dropWhile Char.isDigit
      let exponent : Int := dropped.length
      match rest with
      | '.' :: after => withFraction negative significand exponent after
      | 'e' :: _ | 'E' :: _ => withExponent negative significand exponent rest
      | rest =>
        if ¬ dropped.isEmpty then ofParts negative significand exponent rest
        else if ¬ negative then .ok (integer significand, rest)
        else if significand = 0 ∨ Word.size64 / 2 < significand then
          .ok (double (Double.ofNat significand).neg, rest)
        else .ok (integer (-significand), rest)

/-! ### Values -/

/-- The levels of lists and records that may be nested in each other. -/
def maxDepth : Nat := 127

mutual

/-- Reads a value after any blanks. The fields of a record keep the order of the text. -/
def value : (fuel levels : Nat) → List Char → Scan (Json × List Char)
  | 0, _, text => .error (.before .endInValue text)
  | fuel + 1, levels, text =>
    match skipSpace text with
    | [] => .error (.before .endInValue [])
    | c :: rest =>
      if c = '"' then do
        let (content, rest) ← textBody rest
        .ok (string content, rest)
      else if c = '[' then
        if levels = 0 then .error (.behindNext .tooDeep (c :: rest))
        else
          match skipSpace rest with
          | ']' :: rest => .ok (list [], rest)
          | [] => .error (.before .endInList [])
          | rest => do
            let (first, rest) ← value fuel (levels - 1) rest
            let (more, rest) ← moreItems fuel (levels - 1) rest
            .ok (list (first :: more), rest)
      else if c = '\x7b' then
        if levels = 0 then .error (.behindNext .tooDeep (c :: rest))
        else
          match skipSpace rest with
          | '\x7d' :: rest => .ok (record [], rest)
          | [] => .error (.before .endInRecord [])
          | '"' :: rest => do
            let (first, rest) ← field fuel (levels - 1) rest
            let (more, rest) ← moreFields fuel (levels - 1) rest
            .ok (record (first :: more), rest)
          | rest => .error (.behindNext .keyNotText rest)
      else if c = '-' then number true rest
      else if c.isDigit then number false (c :: rest)
      else if c = 'n' then do
        let rest ← word ['u', 'l', 'l'] rest
        .ok (null, rest)
      else if c = 't' then do
        let rest ← word ['r', 'u', 'e'] rest
        .ok (bool true, rest)
      else if c = 'f' then do
        let rest ← word ['a', 'l', 's', 'e'] rest
        .ok (bool false, rest)
      else .error (.behindNext .noValue (c :: rest))

/-- Reads the further items of a list and its end. -/
def moreItems : (fuel levels : Nat) → List Char → Scan (List Json × List Char)
  | 0, _, text => .error (.before .endInList text)
  | fuel + 1, levels, text =>
    match skipSpace text with
    | [] => .error (.before .endInList [])
    | ']' :: rest => .ok ([], rest)
    | ',' :: rest =>
      match skipSpace rest with
      | [] => .error (.before .endInValue [])
      | ']' :: rest => .error (.behindNext .trailingComma (']' :: rest))
      | rest => do
        let (item, rest) ← value fuel levels rest
        let (more, rest) ← moreItems fuel levels rest
        .ok (item :: more, rest)
    | rest => .error (.behindNext .noListSeparator rest)

/-- Reads a field behind the opening quote of its name. -/
def field : (fuel levels : Nat) → List Char → Scan ((String × Json) × List Char)
  | 0, _, text => .error (.before .endInRecord text)
  | fuel + 1, levels, text => do
    let (name, rest) ← textBody text
    match skipSpace rest with
    | [] => .error (.before .endInRecord [])
    | ':' :: rest => do
      let (value, rest) ← value fuel levels rest
      .ok ((name, value), rest)
    | rest => .error (.behindNext .noColon rest)

/-- Reads the further fields of a record and its end. -/
def moreFields : (fuel levels : Nat) → List Char → Scan (List (String × Json) × List Char)
  | 0, _, text => .error (.before .endInRecord text)
  | fuel + 1, levels, text =>
    match skipSpace text with
    | [] => .error (.before .endInRecord [])
    | '\x7d' :: rest => .ok ([], rest)
    | ',' :: rest =>
      match skipSpace rest with
      | [] => .error (.before .endInValue [])
      | '\x7d' :: rest => .error (.behindNext .trailingComma ('\x7d' :: rest))
      | '"' :: rest => do
        let (first, rest) ← field fuel levels rest
        let (more, rest) ← moreFields fuel levels rest
        .ok (first :: more, rest)
      | rest => .error (.behindNext .keyNotText rest)
    | rest => .error (.behindNext .noRecordSeparator rest)

end

/-- Reads a whole text; behind the value only blanks may follow. Every step of the reader moves on
by at least one character, so the number of steps below suffices. -/
def readAll (text : String) : Scan Json := do
  let characters := text.toList
  let (json, rest) ← value (2 * characters.length + 2) maxDepth characters
  match skipSpace rest with
  | [] => .ok json.normal
  | rest => .error (.behindNext .trailingCharacters rest)

/-- The value of a text, or the message that says why there is none. -/
def parse (text : String) : Except String Json :=
  (readAll text).mapError (Fault.locate SyntaxFault.message text)

end TaskAutomation.Json
