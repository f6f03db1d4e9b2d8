/-!
This file defines the binary floating-point numbers of the engine: 53 bits of precision,
exponents from -1074 to 971, both signs of zero, two infinities and one not-a-number. A finite
number keeps its sign, its significand and its exponent, so its exact value can be read off,
and every operation is the exact result rounded once to the nearest number, a tie to the even
significand.
-/

namespace TaskAutomation

/-- A double-precision number: `finite negative significand exponent` stands for
`± significand * 2 ^ exponent`. -/
inductive Double where
  | nan
  | infinite (negative : Bool)
  | finite (negative : Bool) (significand : Nat) (exponent : Int)
  deriving DecidableEq, Repr, Inhabited

namespace Double

/-! ### Rounding -/

/-- The number of bits of a full significand. -/
def precision : Nat := 53

/-- The exponent of the numbers next to zero. -/
def minExponent : Int := -1074

/-- The largest exponent of a finite number. -/
def maxExponent : Int := 971

/-- The quotient to the nearest integer, a tie to the even one. -/
def divideToEven (numerator denominator : Nat) : Nat :=
  let quotient := numerator / denominator
  let remainder := numerator % denominator
  if 2 * remainder < denominator then quotient
  else if denominator < 2 * remainder then quotient + 1
  else if quotient % 2 = 0 then quotient else quotient + 1

/-- The `exponent` with `2 ^ exponent ≤ numerator / denominator < 2 ^ (exponent + 1)`. -/
def magnitude (numerator denominator : Nat) : Int :=
  let guess : Int := (numerator.log2 : Int) - (denominator.log2 : Int)
  let reaches :=
    if 0 ≤ guess then denominator * Nat.pow 2 guess.toNat ≤ numerator
    else denominator ≤ numerator * Nat.pow 2 (-guess).toNat
  if reaches then guess else guess - 1

/-- The number nearest to `± numerator / denominator`. The significand is full unless the value
is too small for that; a value past the largest finite number becomes an infinity. -/
def ofRatio (negative : Bool) (numerator denominator : Nat) : Double :=
  if numerator = 0 then finite negative 0 minExponent
  else
    let exponent := max minExponent (magnitude numerator denominator - (precision - 1 : Nat))
    let significand :=
      if 0 ≤ exponent then divideToEven numerator (denominator * Nat.pow 2 exponent.toNat)
      else divideToEven (numerator * Nat.pow 2 (-exponent).toNat) denominator
    let (significand, exponent) :=
      if significand = Nat.pow 2 precision then (Nat.pow 2 (precision - 1), exponent + 1)
      else (significand, exponent)
    if maxExponent < exponent then infinite negative
    else finite negative significand exponent

/-- The number nearest to `± numerator * 2 ^ exponent`. -/
def ofScaled (negative : Bool) (numerator : Nat) (exponent : Int) : Double :=
  if 0 ≤ exponent then ofRatio negative (numerator * Nat.pow 2 exponent.toNat) 1
  else ofRatio negative numerator (Nat.pow 2 (-exponent).toNat)

def zero : Double := finite false 0 minExponent

/-- The number nearest to a natural number. -/
def ofNat (n : Nat) : Double := ofRatio false n 1

/-- The number nearest to an integer. -/
def ofInt (n : Int) : Double := ofRatio (n < 0) n.natAbs 1

instance (n : Nat) : OfNat Double n := ⟨ofNat n⟩

/-! ### Tests -/

def isFinite : Double → Bool
  | finite .. => true
  | _ => false

def isZero : Double → Bool
  | finite _ significand _ => significand = 0
  | _ => false

def negative : Double → Bool
  | nan => false
  | infinite negative => negative
  | finite negative _ _ => negative

def neg : Double → Double
  | nan => nan
  | infinite negative => infinite !negative
  | finite negative significand exponent => finite (!negative) significand exponent

def abs : Double → Double
  | nan => nan
  | infinite _ => infinite false
  | finite _ significand exponent => finite false significand exponent

/-- The signed value in units of `2 ^ (-1074)`: every finite number is a whole number of them. -/
def units : Double → Int
  | finite negative significand exponent =>
    let size : Int := (significand * Nat.pow 2 (exponent - minExponent).toNat : Nat)
    if negative then -size else size
  | _ => 0

/-- Strictly less; never true of a not-a-number. -/
def lt : Double → Double → Bool
  | nan, _ => false
  | _, nan => false
  | infinite a, infinite b => a && !b
  | infinite a, finite .. => a
  | finite .., infinite b => !b
  | a@(finite ..), b@(finite ..) => a.units < b.units

/-- Less or equal; never true of a not-a-number. -/
def le : Double → Double → Bool
  | nan, _ => false
  | _, nan => false
  | infinite a, infinite b => a || !b
  | infinite a, finite .. => a
  | finite .., infinite b => !b
  | a@(finite ..), b@(finite ..) => a.units ≤ b.units

/-! ### Arithmetic -/

/-- A sum of two zeros is negative only if both are. -/
def add : Double → Double → Double
  | nan, _ => nan
  | _, nan => nan
  | infinite a, infinite b => if a = b then infinite a else nan
  | infinite a, finite .. => infinite a
  | finite .., infinite b => infinite b
  | a@(finite s _ _), b@(finite t _ _) =>
    let sum := a.units + b.units
    if sum = 0 then finite (s && t) 0 minExponent
    else ofScaled (sum < 0) sum.natAbs minExponent

def sub (a b : Double) : Double := a.add b.neg

def mul : Double → Double → Double
  | nan, _ => nan
  | _, nan => nan
  | infinite a, infinite b => infinite (a != b)
  | infinite a, b@(finite t _ _) => if b.isZero then nan else infinite (a != t)
  | a@(finite s _ _), infinite b => if a.isZero then nan else infinite (s != b)
  | finite s m e, finite t n f => ofScaled (s != t) (m * n) (e + f)

def div : Double → Double → Double
  | nan, _ => nan
  | _, nan => nan
  | infinite _, infinite _ => nan
  | infinite a, finite t _ _ => infinite (a != t)
  | finite s _ _, infinite b => finite (s != b) 0 minExponent
  | finite s m e, finite t n f =>
    if n = 0 then (if m = 0 then nan else infinite (s != t))
    else
      let shift := e - f
      if 0 ≤ shift then ofRatio (s != t) (m * Nat.pow 2 shift.toNat) n
      else ofRatio (s != t) m (n * Nat.pow 2 (-shift).toNat)

/-- The larger of two numbers; a not-a-number gives way to the other. -/
def maximum (a b : Double) : Double :=
  if a = nan then b else if b = nan then a else if a.lt b then b else a

/-- A power by repeated squaring: a factor is multiplied in at each set bit of the exponent, lowest
first, and the base is squared in between. Each product is rounded. -/
def powLoop : Nat → Double → Nat → Double → Double
  | 0, _, _, product => product
  | fuel + 1, base, exponent, product =>
    let product := if exponent % 2 = 1 then product.mul base else product
    if exponent / 2 = 0 then product
    else powLoop fuel (base.mul base) (exponent / 2) product

/-- The power with a natural exponent. -/
def pow (base : Double) (exponent : Nat) : Double :=
  powLoop (exponent.log2 + 1) base exponent (ofNat 1)

/-- The value in whole units of `1 / scale`, to the nearest one and a tie to the even one;
`none` for an infinity or a not-a-number. -/
def scaled? (a : Double) (scale : Nat) : Option Int :=
  match a with
  | finite negative significand exponent =>
    let size :=
      if 0 ≤ exponent then significand * Nat.pow 2 exponent.toNat * scale
      else divideToEven (significand * scale) (Nat.pow 2 (-exponent).toNat)
    some (if negative then -(size : Int) else size)
  | _ => none

/-- The distance from 1 to the next larger number. -/
def epsilon : Double := ofRatio false 1 (Nat.pow 2 52)

end Double

end TaskAutomation
