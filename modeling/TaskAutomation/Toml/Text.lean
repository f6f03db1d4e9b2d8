import TaskAutomation.Json.Reader

/-!
This file reads the smallest parts of TOML text: blanks, line ends, comments and the four kinds of
quoted text.
-/

namespace TaskAutomation.Toml

/-- What reading a part gives: most often a value and the rest of the text, or nothing if the text
does not fit. -/
abbrev Scan := Option

/-! ### Blanks and comments -/

def isBlank (c : Char) : Bool := c = ' ' || c = '\t'

/-- The rest behind any blanks. -/
def skipBlanks (text : List Char) : List Char := text.dropWhile isBlank

/-- The rest behind a line end. -/
def lineEnd? : List Char → Option (List Char)
  | '\n' :: rest => some rest
  | '\r' :: '\n' :: rest => some rest
  | _ => none

/-- A character of a comment or of a quoted text: no control character but the tab. -/
def isPlain (c : Char) : Bool := c = '\t' || (0x20 ≤ c.toNat && c.toNat ≠ 0x7F)

/-- The rest behind blanks and a comment. -/
def skipComment (text : List Char) : List Char :=
  match skipBlanks text with
  | '#' :: rest => rest.dropWhile isPlain
  | rest => rest

/-- Reads the end of a line, which may also be the end of the text, behind blanks and a comment. -/
def restOfLine? (text : List Char) : Option (List Char) :=
  match skipComment text with
  | [] => some []
  | rest => lineEnd? rest

/-- The rest behind blanks, comments and line ends. -/
def skipLines : Nat → List Char → Option (List Char)
  | 0, text => some text
  | fuel + 1, text =>
    match skipBlanks text with
    | '#' :: rest => (lineEnd? (rest.dropWhile isPlain)).bind (skipLines fuel)
    | '\n' :: rest => skipLines fuel rest
    | '\r' :: rest => (lineEnd? ('\r' :: rest)).bind (skipLines fuel)
    | rest => some rest

/-! ### Quoted text -/

/-- The character of a code point in digits of base sixteen. -/
def codePoint? (digits : List Char) : Option Char := do
  let values ← digits.mapM Json.hexValue?
  let point := values.foldl (fun point value => 16 * point + value) 0
  if h : point.isValidChar then some (Char.ofNatAux point h) else none

/-- Reads a code point of so many digits. -/
def coded (size : Nat) (text : List Char) : Scan (Char × List Char) :=
  if text.length < size then none
  else (codePoint? (text.take size)).map fun c => (c, text.drop size)

/-- Reads what follows a backslash. -/
def escaped : List Char → Scan (Char × List Char)
  | [] => none
  | c :: rest =>
    if c = 'b' then some ('\x08', rest)
    else if c = 't' then some ('\t', rest)
    else if c = 'n' then some ('\n', rest)
    else if c = 'f' then some ('\x0c', rest)
    else if c = 'r' then some ('\r', rest)
    else if c = '"' then some ('"', rest)
    else if c = '\\' then some ('\\', rest)
    else if c = 'u' then coded 4 rest
    else if c = 'U' then coded 8 rest
    else none

/-- Reads a text on one line up to its closing mark. Only between double quotes does a backslash
have a meaning. -/
def onOneLine (mark : Char) : Nat → List Char → Scan (List Char × List Char)
  | 0, _ => none
  | _ + 1, [] => none
  | fuel + 1, c :: rest =>
    if c = mark then some ([], rest)
    else if c = '\\' ∧ mark = '"' then do
      let (decoded, rest) ← escaped rest
      let (more, rest) ← onOneLine mark fuel rest
      some (decoded :: more, rest)
    else if isPlain c then do
      let (more, rest) ← onOneLine mark fuel rest
      some (c :: more, rest)
    else none

/-- The rest behind a backslash at the end of a line: the line end is dropped with all blanks and
line ends after it. -/
def continuation? (text : List Char) : Option (List Char) :=
  (lineEnd? (skipBlanks text)).map fun rest => go rest.length rest
where
  /-- Drops blanks and line ends. -/
  go : Nat → List Char → List Char
    | 0, rest => rest
    | fuel + 1, rest =>
      match lineEnd? (skipBlanks rest) with
      | some rest => go fuel rest
      | none => skipBlanks rest

/-- Reads a text of several lines up to its three closing marks; one or two marks may stand within
it, also right before the closing ones. -/
def onLines (mark : Char) : Nat → List Char → Scan (List Char × List Char)
  | 0, _ => none
  | _ + 1, [] => none
  | fuel + 1, c :: rest =>
    if c = mark then
      let marks := (c :: rest).takeWhile (· = mark)
      let rest := (c :: rest).dropWhile (· = mark)
      if 5 < marks.length then none
      else if 3 ≤ marks.length then some (marks.drop 3, rest)
      else do
        let (more, rest) ← onLines mark fuel rest
        some (marks ++ more, rest)
    else if c = '\\' ∧ mark = '"' then
      match continuation? rest with
      | some rest => onLines mark fuel rest
      | none => do
        let (decoded, rest) ← escaped rest
        let (more, rest) ← onLines mark fuel rest
        some (decoded :: more, rest)
    else if isPlain c then do
      let (more, rest) ← onLines mark fuel rest
      some (c :: more, rest)
    else do
      let rest ← lineEnd? (c :: rest)
      let (more, rest) ← onLines mark fuel rest
      some ('\n' :: more, rest)

/-- Reads a text on one line. -/
def lineText (mark : Char) (text : List Char) : Scan (String × List Char) :=
  (onOneLine mark (text.length + 1) text).map fun (content, rest) => (String.ofList content, rest)

/-- Reads a quoted text behind its first mark. A line end right after three marks is dropped. -/
def quotedText (mark : Char) (text : List Char) : Scan (String × List Char) :=
  match text with
  | a :: b :: rest =>
    if a = mark ∧ b = mark then
      let rest := (lineEnd? rest).getD rest
      (onLines mark (rest.length + 1) rest).map fun (content, rest) => (String.ofList content, rest)
    else lineText mark text
  | text => lineText mark text

end TaskAutomation.Toml
