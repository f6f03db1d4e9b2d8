/-!
This file defines identifiers of 128 bits: a time of 48 bits in milliseconds and 80 random bits, so
that identifiers sort by the time they were made. Their text has 26 characters of base 32, the
first of which carries three bits only.
-/

namespace TaskAutomation

/-- How many identifiers there are: two to the power of 128. -/
def Ulid.size : Nat := 340282366920938463463374607431768211456

/-- An identifier of 128 bits. -/
structure Ulid where
  value : Nat
  value_lt : value < Ulid.size
  deriving DecidableEq, Repr

namespace Ulid

instance : Inhabited Ulid := ⟨⟨0, by decide⟩⟩

/-- How many times there are: two to the power of 48. -/
def timeSize : Nat := 281474976710656

/-- How many random parts there are: two to the power of 80. -/
def drawSize : Nat := 1208925819614629174706176

/-- The identifier with the lowest 128 bits of a number. -/
def ofNat (n : Nat) : Ulid := ⟨n % size, Nat.mod_lt _ (by decide)⟩

/-- The identifier of a time, cut to 48 bits, and random bits, cut to 80. -/
def ofParts (millis draw : Nat) : Ulid :=
  ofNat (millis % timeSize * drawSize + draw % drawSize)

/-- The time part. -/
def millis (id : Ulid) : Nat := id.value / drawSize

/-- The random part. -/
def draw (id : Ulid) : Nat := id.value % drawSize

/-- The next identifier of the same time, if there is one. -/
def next? (id : Ulid) : Option Ulid :=
  if id.draw + 1 = drawSize then none else some (ofNat (id.value + 1))

def lt (a b : Ulid) : Bool := a.value < b.value

def le (a b : Ulid) : Bool := a.value ≤ b.value

/-! ### Text -/

/-- The digits of base 32: the letters I, L, O and U are left out. -/
def alphabet : List Char := "0123456789ABCDEFGHJKMNPQRSTVWXYZ".toList

/-- The number of characters in the text of an identifier. -/
def textLength : Nat := 26

/-- The last `length` digits of a number, highest first. -/
def digits : Nat → Nat → List Char
  | 0, _ => []
  | length + 1, n => digits length (n / 32) ++ [alphabet.getD (n % 32) '0']

/-- The text of an identifier. -/
def text (id : Ulid) : String := String.ofList (digits textLength id.value)

/-- Why a text is not an identifier. -/
inductive Refusal where
  | length
  | character
  deriving DecidableEq, Repr

def Refusal.message : Refusal → String
  | length => "invalid length"
  | character => "invalid character"

/-- The value of a digit, a letter of either case. -/
def digitValue? (c : Char) : Option Nat := alphabet.idxOf? c.toUpper

/-- Reads digits, highest first, after those that make up `value`. -/
def valueOf? : Nat → List Char → Option Nat
  | value, [] => some value
  | value, c :: rest =>
    match digitValue? c with
    | some digit => valueOf? (32 * value + digit) rest
    | none => none

/-- Reads the text of an identifier. Bits beyond 128 are dropped. -/
def read (text : String) : Except Refusal Ulid :=
  if text.utf8ByteSize ≠ textLength then .error .length
  else
    match valueOf? 0 text.toList with
    | some value => .ok (ofNat value)
    | none => .error .character

end Ulid

end TaskAutomation
