import TaskAutomation.Json.Printer
import TaskAutomation.Json.Reader
import Mathlib.Tactic.SplitIfs

/-!
This file proves that text reads back as it was. Each character is written as one step of the
reader, be it by itself, behind a backslash or by its code, and a bare quote only ends the text. So
the reader needs one step for each character and one for the closing quote.
-/

namespace TaskAutomation.Json

/-- A character that has a letter of its own is read in one step. -/
theorem characters_escaped {c escape : Char} (plain : escape ≠ 'u')
    (known : escaped? escape = some c) (fuel : Nat) (rest : List Char) :
    characters (fuel + 1) ('\\' :: escape :: rest) =
      (characters fuel rest).map fun read => (c :: read.1, read.2) := by
  rw [characters, if_neg (by decide), if_pos rfl]
  simp only [if_neg plain, known]
  show (characters fuel rest).bind (fun read => .ok (c :: read.1, read.2)) = _
  cases characters fuel rest <;> rfl

/-- A character that is written by its code is read in one step. -/
theorem characters_coded {c : Char} {code rest : List Char}
    (known : codedChar code = .ok (c, rest)) (fuel : Nat) :
    characters (fuel + 1) ('\\' :: 'u' :: code) =
      (characters fuel rest).map fun read => (c :: read.1, read.2) := by
  rw [characters, if_neg (by decide), if_pos rfl]
  simp only [if_true, known]
  show (characters fuel rest).bind (fun read => .ok (c :: read.1, read.2)) = _
  cases characters fuel rest <;> rfl

/-- The code of a control character is read as the character. -/
theorem codedChar_hexDigit {c : Char} (control : c.toNat < 0x20) (rest : List Char) :
    codedChar ('0' :: '0' :: hexDigit (c.toNat / 16) :: hexDigit (c.toNat % 16) :: rest) =
      .ok (c, rest) := by
  have unit : ∀ n < 0x20, hexUnit? '0' '0' (hexDigit (n / 16)) (hexDigit (n % 16)) = some n := by
    decide
  rw [codedChar, hexUnit, unit _ control]
  show (if 0xDC00 ≤ c.toNat ∧ c.toNat ≤ 0xDFFF then _
    else if c.toNat < 0xD800 ∨ 0xDFFF < c.toNat then _ else _) = _
  rw [if_neg (by omega), if_pos (by omega), Char.ofNat_toNat]

/-- The reader takes what was written for a character in one step. -/
theorem characters_escapeChar (c : Char) (fuel : Nat) (rest : List Char) :
    characters (fuel + 1) (escapeChar c ++ rest) =
      (characters fuel rest).map fun read => (c :: read.1, read.2) := by
  unfold escapeChar
  split_ifs with quote slash feed carriage tab back page control
  · rw [quote]
    exact characters_escaped (by decide) rfl fuel rest
  · rw [slash]
    exact characters_escaped (by decide) rfl fuel rest
  · rw [feed]
    exact characters_escaped (by decide) rfl fuel rest
  · rw [carriage]
    exact characters_escaped (by decide) rfl fuel rest
  · rw [tab]
    exact characters_escaped (by decide) rfl fuel rest
  · rw [back]
    exact characters_escaped (by decide) rfl fuel rest
  · rw [page]
    exact characters_escaped (by decide) rfl fuel rest
  · exact characters_coded (codedChar_hexDigit control rest) fuel
  · rw [List.singleton_append, characters.eq_def]
    simp only [if_neg quote, if_neg slash, if_neg control]
    cases characters fuel rest <;> rfl

/-- The characters of a text are read back up to the closing quote. -/
theorem characters_flatMap_escapeChar (text rest : List Char) {fuel : Nat}
    (enough : text.length < fuel) :
    characters fuel (text.flatMap escapeChar ++ '"' :: rest) = .ok (text, rest) := by
  induction text generalizing fuel with
  | nil =>
    cases fuel with
    | zero => cases enough
    | succ fuel => rfl
  | cons c text inductionHypothesis =>
    cases fuel with
    | zero => cases enough
    | succ fuel =>
      rw [List.flatMap_cons, List.append_assoc, characters_escapeChar,
        inductionHypothesis (Nat.lt_of_succ_lt_succ enough)]
      rfl

theorem escapeChar_ne_nil (c : Char) : escapeChar c ≠ [] := by
  unfold escapeChar
  split_ifs <;> exact List.cons_ne_nil _ _

theorem length_le_flatMap_escapeChar (text : List Char) :
    text.length ≤ (text.flatMap escapeChar).length := by
  induction text with
  | nil => exact Nat.le_refl 0
  | cons c text inductionHypothesis =>
    have one := List.length_pos_iff.mpr (escapeChar_ne_nil c)
    rw [List.flatMap_cons, List.length_append, List.length_cons]
    omega

/-- A text is read back from behind its opening quote. -/
theorem textBody_printText (text : String) (rest : List Char) :
    textBody (text.toList.flatMap escapeChar ++ '"' :: rest) = .ok (text, rest) := by
  have enough : text.toList.length <
      (text.toList.flatMap escapeChar ++ '"' :: rest).length + 1 := by
    have escaped := length_le_flatMap_escapeChar text.toList
    rw [List.length_append]
    omega
  rw [textBody, characters_flatMap_escapeChar _ _ enough]
  show Except.ok (String.ofList text.toList, rest) = _
  rw [String.ofList_toList]

end TaskAutomation.Json
