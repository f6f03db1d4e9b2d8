import TaskAutomation.Json.Decode
import TaskAutomation.Number.Double

/-!
This file defines comparisons of two numbers. Equality allows for a difference of one unit in the
last place of 1, so that rounding does not decide.
-/

namespace TaskAutomation

/-- A comparison of two numbers. -/
inductive Comparison where
  | greater
  | greaterOrEqual
  | less
  | lessOrEqual
  | equal
  | notEqual
  deriving DecidableEq, Repr, Inhabited

namespace Comparison

def all : List Comparison := [greater, greaterOrEqual, less, lessOrEqual, equal, notEqual]

def sign : Comparison → String
  | greater => ">"
  | greaterOrEqual => ">="
  | less => "<"
  | lessOrEqual => "<="
  | equal => "=="
  | notEqual => "!="

/-- The comparison holds. None holds of a not-a-number. -/
def holds (comparison : Comparison) (a b : Double) : Bool :=
  match comparison with
  | greater => b.lt a
  | greaterOrEqual => b.le a
  | less => a.lt b
  | lessOrEqual => a.le b
  | equal => (a.sub b).abs.le Double.epsilon
  | notEqual => Double.epsilon.lt (a.sub b).abs

def named : List (String × Comparison) := all.map fun comparison => (comparison.sign, comparison)

def encode (comparison : Comparison) : Json := .string comparison.sign

def decode : Json → Decoded Comparison := Json.toChoice named

end Comparison

end TaskAutomation
