/-!
This file says which characters are white space and removes them from the ends of a text. The class
is the Unicode property of that name, so it holds more than the plain ASCII blanks.
-/

namespace TaskAutomation.Text

/-- White space in the Unicode sense. -/
def isBlank (c : Char) : Bool :=
  let point := c.toNat
  (9 ≤ point && point ≤ 13) || point = 0x20 || point = 0x85 || point = 0xA0 || point = 0x1680 ||
    (0x2000 ≤ point && point ≤ 0x200A) || point = 0x2028 || point = 0x2029 || point = 0x202F ||
    point = 0x205F || point = 0x3000

/-- The characters without the white space in front. -/
def trimStart (text : List Char) : List Char := text.dropWhile isBlank

/-- The characters without the white space behind. -/
def trimEnd (text : List Char) : List Char := (text.reverse.dropWhile isBlank).reverse

/-- The characters without white space at either end. -/
def trim (text : List Char) : List Char := trimEnd (trimStart text)

/-- The text holds nothing but white space. -/
def isBlankText (text : String) : Bool := text.toList.all isBlank

end TaskAutomation.Text
