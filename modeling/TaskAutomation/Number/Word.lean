/-!
This file names the bounds of whole numbers with 32 and with 64 bits. A number without a sign stays
below the size of its word; one with a sign lies between two bounds, of which the lower one is half
the size away from zero.
-/

namespace TaskAutomation.Word

/-- How many numbers have 32 bits: two to the power of 32. -/
def size32 : Nat := 4294967296

/-- How many numbers have 64 bits: two to the power of 64. -/
def size64 : Nat := 18446744073709551616

/-- The least number with 32 bits and a sign. -/
def least32 : Int := -2147483648

/-- The largest number with 32 bits and a sign. -/
def most32 : Int := 2147483647

/-- The least number with 64 bits and a sign. -/
def least64 : Int := -9223372036854775808

/-- The largest number with 64 bits and a sign. -/
def most64 : Int := 9223372036854775807

/-- The number has 32 bits and a sign. -/
def holds32 (value : Int) : Bool := least32 ≤ value && value ≤ most32

/-- The number has 64 bits and a sign. -/
def holds64 (value : Int) : Bool := least64 ≤ value && value ≤ most64

/-- A number with 64 bits whose highest bit is read as the sign. -/
def signed64 (value : Nat) : Int := (value : Int).bmod size64

end TaskAutomation.Word
