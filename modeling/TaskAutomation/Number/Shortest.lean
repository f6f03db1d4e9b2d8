import TaskAutomation.Number.Double

/-!
This file writes a finite number with the fewest decimal digits that read back as the same
number, and reads decimal text to the nearest number. The digits come from a search over decimal
grids: a number owns the interval of reals that round to it, and the first grid with a point in
that interval gives the digits, the nearer of two points winning.
-/

namespace TaskAutomation

/-- The decimal number `digits * 10 ^ exponent`. -/
structure Decimal where
  digits : Nat
  exponent : Int
  deriving DecidableEq, Repr

namespace Decimal

/-- Moves the zeros at the end of the digits into the exponent. -/
def stripZeros : Nat → Decimal → Decimal
  | 0, d => d
  | fuel + 1, d =>
    if d.digits ≠ 0 ∧ d.digits % 10 = 0 then stripZeros fuel ⟨d.digits / 10, d.exponent + 1⟩
    else d

end Decimal

namespace Double

/-! ### The fewest digits -/

/-- The interval of a number in quarters of its last place: below, at and above the number.
Below a power of two the numbers lie twice as dense. -/
def quarters (significand : Nat) (exponent : Int) : Nat × Nat × Nat :=
  let lower :=
    if significand = Nat.pow 2 (precision - 1) ∧ minExponent < exponent then 4 * significand - 1
    else 4 * significand - 2
  (lower, 4 * significand, 4 * significand + 2)

/-- The `point` with `10 ^ point ≤ numerator / denominator < 10 ^ (point + 1)`, for a positive
ratio: the guess from the binary length is off by at most one. -/
def decimalMagnitude (numerator denominator : Nat) : Int :=
  let guess := magnitude numerator denominator * 30103 / 100000
  let reaches (point : Int) :=
    if 0 ≤ point then denominator * Nat.pow 10 point.toNat ≤ numerator
    else denominator ≤ numerator * Nat.pow 10 (-point).toNat
  if reaches (guess + 1) then guess + 1 else if reaches guess then guess else guess - 1

/-- The nearest point of the grid `10 ^ point` that lies in the interval, if there is one. The ends
of the interval belong to it when the significand is even. -/
def gridPoint? (significand : Nat) (exponent point : Int) : Option Decimal :=
  let (lower, middle, upper) := quarters significand exponent
  let binary := exponent - 2
  let scaleUp := Nat.pow 2 binary.toNat * Nat.pow 10 (-point).toNat
  let scaleDown := Nat.pow 2 (-binary).toNat * Nat.pow 10 point.toNat
  let value := middle * scaleUp
  let inside (n : Nat) :=
    let place := n * scaleDown
    if significand % 2 = 0 then lower * scaleUp ≤ place ∧ place ≤ upper * scaleUp
    else lower * scaleUp < place ∧ place < upper * scaleUp
  let below := value / scaleDown
  let above := below + 1
  if inside below then
    if inside above ∧ above * scaleDown - value < value - below * scaleDown then
      some ⟨above, point⟩
    else some ⟨below, point⟩
  else if inside above then some ⟨above, point⟩
  else none

/-- Tries grids with more and more digits, from `point` downwards. -/
def searchGrids (significand : Nat) (exponent : Int) : Nat → Int → Decimal
  | 0, point => (gridPoint? significand exponent point).getD ⟨0, 0⟩
  | fuel + 1, point =>
    match gridPoint? significand exponent point with
    | some d => d
    | none => searchGrids significand exponent fuel (point - 1)

/-- The shortest decimal that reads back as `significand * 2 ^ exponent`, for a positive
significand. Seventeen digits always suffice. -/
def shortest (significand : Nat) (exponent : Int) : Decimal :=
  let top :=
    if 0 ≤ exponent then decimalMagnitude (significand * Nat.pow 2 exponent.toNat) 1
    else decimalMagnitude significand (Nat.pow 2 (-exponent).toNat)
  Decimal.stripZeros 400 (searchGrids significand exponent 17 top)

/-! ### Number text -/

/-- Where positional notation ends: a number from `10 ^ least` up to below `10 ^ most` is written
without an exponent. -/
structure DigitLayout where
  least : Int
  most : Int

/-- Numbers in records: positional from 0.00001 up to below 10^16, and an exponent always carries
its sign. -/
def recordLayout : DigitLayout := ⟨-5, 16⟩

/-- The text of a positive decimal: digits with a point, always one digit on each side of it in
positional notation. -/
def DigitLayout.write (form : DigitLayout) (d : Decimal) : String :=
  let digits := (Nat.toDigits 10 d.digits)
  let point : Int := digits.length + d.exponent
  if form.least < point ∧ point ≤ form.most then
    if 0 ≤ d.exponent then
      String.ofList (digits ++ List.replicate d.exponent.toNat '0') ++ ".0"
    else if 0 < point then
      String.ofList (digits.take point.toNat) ++ "." ++ String.ofList (digits.drop point.toNat)
    else
      "0." ++ String.ofList (List.replicate (-point).toNat '0' ++ digits)
  else
    let power := point - 1
    let exponent := (if power < 0 then "e-" else "e+") ++ toString power.natAbs
    match digits with
    | [] => "0.0"
    | [one] => String.singleton one ++ exponent
    | first :: rest => String.singleton first ++ "." ++ String.ofList rest ++ exponent

/-- The text of a number in records. Numbers that are not finite have no such text and are written
`null`. -/
def text : Double → String
  | finite negative significand exponent =>
    (if negative then "-" else "") ++
      if significand = 0 then "0.0" else recordLayout.write (shortest significand exponent)
  | _ => "null"

/-! ### Reading decimals -/

/-- The number nearest to `± digits * 10 ^ exponent`. Exponents far outside the range of the finite
numbers are settled without computing the power. -/
def ofDecimal (negative : Bool) (digits : Nat) (exponent : Int) : Double :=
  let length : Int := (Nat.toDigits 10 digits).length
  if digits = 0 ∨ length + exponent < -400 then finite negative 0 minExponent
  else if 400 < length + exponent then infinite negative
  else if 0 ≤ exponent then ofRatio negative (digits * Nat.pow 10 exponent.toNat) 1
  else ofRatio negative digits (Nat.pow 10 (-exponent).toNat)

/-- The value of a run of decimal digits. -/
def digitsValue (digits : List Char) : Nat :=
  digits.foldl (fun value c => 10 * value + (c.toNat - '0'.toNat)) 0

/-- Reads a decimal exponent: an optional sign and at least one digit. -/
def readExponent? : List Char → Option Int
  | '-' :: digits => if digits ≠ [] ∧ digits.all Char.isDigit then
      some (-(digitsValue digits : Int)) else none
  | '+' :: digits => if digits ≠ [] ∧ digits.all Char.isDigit then
      some (digitsValue digits : Int) else none
  | digits => if digits ≠ [] ∧ digits.all Char.isDigit then
      some (digitsValue digits : Int) else none

/-- Reads digits with an optional point and an optional exponent; a digit on one side of the point
is enough. -/
def ofUnsigned? (negative : Bool) (text : List Char) : Option Double :=
  let whole := text.takeWhile Char.isDigit
  let rest := text.dropWhile Char.isDigit
  let (fraction, rest) :=
    match rest with
    | '.' :: rest => (rest.takeWhile Char.isDigit, rest.dropWhile Char.isDigit)
    | rest => ([], rest)
  if whole.isEmpty && fraction.isEmpty then none
  else
    let exponent? :=
      match rest with
      | [] => some 0
      | c :: rest => if c = 'e' ∨ c = 'E' then readExponent? rest else none
    exponent?.map fun exponent =>
      ofDecimal negative (digitsValue (whole ++ fraction)) (exponent - fraction.length)

/-- Reads number text: an optional sign, then a decimal number, `inf`, `infinity` or `nan` in any
case of letters. -/
def ofText? (text : String) : Option Double :=
  let (negative, rest) :=
    match text.toList with
    | '-' :: rest => (true, rest)
    | '+' :: rest => (false, rest)
    | rest => (false, rest)
  let word := String.ofList (rest.map Char.toLower)
  if word = "inf" ∨ word = "infinity" then some (infinite negative)
  else if word = "nan" then some nan
  else ofUnsigned? negative rest

end Double

end TaskAutomation
