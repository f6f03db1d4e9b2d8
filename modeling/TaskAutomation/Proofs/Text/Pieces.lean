import TaskAutomation.Text.Blank
import TaskAutomation.Text.Split
import Mathlib.Data.List.TakeWhile

/-!
This file is about texts that are trimmed, cut into pieces and read as numbers. Trimming removes the
white space at both ends and nothing else, and it does not reach beyond a character that is none.
Cutting a text that was put together from pieces gives the pieces back, as long as the mark stands
in none of them.
-/

namespace TaskAutomation.Text

variable {mark : Char} {text front back piece before behind : List Char}

/-! ### White space -/

/-- There is nothing but white space. -/
def Blank (text : List Char) : Prop := ∀ c ∈ text, isBlank c = true

theorem isBlank_eq_false_of_isDigit {c : Char} (digit : c.isDigit = true) : isBlank c = false := by
  simp only [Char.isDigit, Bool.and_eq_true, decide_eq_true_eq, ge_iff_le, UInt32.le_iff_toNat_le]
    at digit
  have least : 48 ≤ c.toNat := digit.1
  have most : c.toNat ≤ 57 := digit.2
  simp only [isBlank, Bool.or_eq_false_iff, Bool.and_eq_false_iff, decide_eq_false_iff_not]
  omega

theorem blank_trimStart_eq_nil (blank : Blank front) : trimStart front = [] :=
  List.dropWhile_eq_nil_iff.mpr blank

theorem trimStart_append_of_blank (blank : Blank front) (text : List Char) :
    trimStart (front ++ text) = trimStart text := by
  unfold trimStart
  rw [List.dropWhile_append, show front.dropWhile isBlank = [] from blank_trimStart_eq_nil blank]
  rfl

theorem trimEnd_append_of_blank (blank : Blank back) (text : List Char) :
    trimEnd (text ++ back) = trimEnd text := by
  have reversed : Blank back.reverse := fun c member => blank c (List.mem_reverse.mp member)
  unfold trimEnd
  rw [List.reverse_append]
  exact congrArg List.reverse (trimStart_append_of_blank reversed text.reverse)

/-- Trimming at the start ends at a character that is no white space. -/
theorem trimStart_append_mark (ink : isBlank mark = false) (before behind : List Char) :
    trimStart (before ++ mark :: behind) = trimStart before ++ mark :: behind := by
  unfold trimStart
  rw [List.dropWhile_append]
  split
  · next gone =>
    rw [List.isEmpty_iff.mp gone, List.dropWhile_cons_of_neg (by rw [ink]; exact Bool.false_ne_true)]
    rfl
  · rfl

theorem trimStart_cons (ink : isBlank mark = false) (behind : List Char) :
    trimStart (mark :: behind) = mark :: behind := trimStart_append_mark ink [] behind

theorem trimEnd_append_mark (ink : isBlank mark = false) (before behind : List Char) :
    trimEnd (before ++ mark :: behind) = before ++ mark :: trimEnd behind := by
  have reversed := trimStart_append_mark ink behind.reverse before.reverse
  unfold trimEnd
  rw [List.reverse_append, List.reverse_cons, List.append_assoc]
  show (trimStart (behind.reverse ++ mark :: before.reverse)).reverse = _
  rw [reversed, List.reverse_append, List.reverse_cons, List.reverse_reverse, List.append_assoc]
  rfl

/-- A text is trimmed on either side of a character that is no white space. -/
theorem trim_append_mark (ink : isBlank mark = false) (before behind : List Char) :
    trim (before ++ mark :: behind) = trimStart before ++ mark :: trimEnd behind := by
  rw [trim, trimStart_append_mark ink, trimEnd_append_mark ink]

theorem exists_trimStart (text : List Char) : ∃ front, Blank front ∧ text = front ++ trimStart text :=
  ⟨text.takeWhile isBlank, fun _ => List.mem_takeWhile_imp, List.takeWhile_append_dropWhile.symm⟩

theorem exists_trimEnd (text : List Char) : ∃ back, Blank back ∧ text = trimEnd text ++ back := by
  obtain ⟨front, blank, parts⟩ := exists_trimStart text.reverse
  refine ⟨front.reverse, fun c member => blank c (List.mem_reverse.mp member), ?_⟩
  have reversed := congrArg List.reverse parts
  rw [List.reverse_reverse, List.reverse_append] at reversed
  exact reversed

/-- Trimming removes white space and nothing else. -/
theorem exists_trim (text : List Char) :
    ∃ front back, Blank front ∧ Blank back ∧ text = front ++ trim text ++ back := by
  obtain ⟨front, blankFront, start⟩ := exists_trimStart text
  obtain ⟨back, blankBack, rest⟩ := exists_trimEnd (trimStart text)
  refine ⟨front, back, blankFront, blankBack, ?_⟩
  rw [List.append_assoc]
  exact start.trans (congrArg (front ++ ·) rest)

theorem mem_of_mem_trim {c : Char} (member : c ∈ trim text) : c ∈ text := by
  obtain ⟨front, back, -, -, parts⟩ := exists_trim text
  rw [parts]
  exact List.mem_append_left _ (List.mem_append_right _ member)

/-- White space around a text does not matter. -/
theorem trim_surrounded (blankFront : Blank front) (blankBack : Blank back) (text : List Char) :
    trim (front ++ text ++ back) = trim text := by
  unfold trim
  rw [List.append_assoc, trimStart_append_of_blank blankFront]
  unfold trimStart
  rw [List.dropWhile_append]
  split
  · next gone =>
    rw [show back.dropWhile isBlank = [] from blank_trimStart_eq_nil blankBack,
      List.isEmpty_iff.mp gone]
  · exact trimEnd_append_of_blank blankBack _

theorem trim_trimStart (text : List Char) : trim (trimStart text) = trim text := by
  obtain ⟨front, blank, parts⟩ := exists_trimStart text
  have nothing : Blank [] := nofun
  have around := trim_surrounded blank nothing (trimStart text)
  rw [List.append_nil, ← parts] at around
  exact around.symm

theorem trim_trimEnd (text : List Char) : trim (trimEnd text) = trim text := by
  obtain ⟨back, blank, parts⟩ := exists_trimEnd text
  have nothing : Blank [] := nofun
  have around := trim_surrounded nothing blank (trimEnd text)
  rw [List.nil_append, ← parts] at around
  exact around.symm

/-- A text without white space stays as it is. -/
theorem trim_eq_self (ink : ∀ c ∈ text, isBlank c = false) : trim text = text := by
  have start {other : List Char} (inked : ∀ c ∈ other, isBlank c = false) :
      other.dropWhile isBlank = other := by
    refine List.dropWhile_eq_self_iff.mpr fun present => ?_
    rw [inked _ (List.getElem_mem present)]
    exact Bool.false_ne_true
  unfold trim trimEnd trimStart
  rw [start ink, start fun c member => ink c (List.mem_reverse.mp member), List.reverse_reverse]

/-! ### Pieces -/

theorem splitAt_of_notMem (absent : mark ∉ text) : splitAt mark text = [text] := by
  induction text with
  | nil => rfl
  | cons c rest inductionHypothesis =>
    obtain ⟨other, absent⟩ := not_or.mp (List.mem_cons.not.mp absent)
    rw [splitAt, if_neg (Ne.symm other), inductionHypothesis absent]

/-- The first piece ends at the first mark. -/
theorem splitAt_piece_append (absent : mark ∉ piece) (rest : List Char) :
    splitAt mark (piece ++ mark :: rest) = piece :: splitAt mark rest := by
  induction piece with
  | nil => exact if_pos rfl
  | cons c more inductionHypothesis =>
    obtain ⟨other, absent⟩ := not_or.mp (List.mem_cons.not.mp absent)
    rw [List.cons_append, splitAt, if_neg (Ne.symm other), inductionHypothesis absent]

/-- The last piece begins behind the last mark. -/
theorem splitAt_append_piece (absent : mark ∉ piece) (front : List Char) :
    splitAt mark (front ++ mark :: piece) = splitAt mark front ++ [piece] := by
  induction front with
  | nil =>
    rw [List.nil_append, splitAt.eq_2, if_pos rfl, splitAt_of_notMem absent]
    rfl
  | cons c more inductionHypothesis =>
    rw [List.cons_append, splitAt, splitAt, inductionHypothesis]
    split
    · rfl
    · cases cut : splitAt mark more with
      | nil => exact absurd cut (splitAt_ne_nil mark more)
      | cons first others => rfl

theorem joinWith_cons_of_ne_nil {pieces : List (List Char)} (present : pieces ≠ []) :
    joinWith mark (piece :: pieces) = piece ++ mark :: joinWith mark pieces := by
  cases pieces with
  | nil => exact absurd rfl present
  | cons => rfl

theorem joinWith_append_piece {pieces : List (List Char)} (present : pieces ≠ []) :
    joinWith mark (pieces ++ [piece]) = joinWith mark pieces ++ mark :: piece := by
  induction pieces with
  | nil => exact absurd rfl present
  | cons first others inductionHypothesis =>
    rw [List.cons_append, joinWith_cons_of_ne_nil (by simp)]
    cases others with
    | nil => rfl
    | cons second more =>
      rw [inductionHypothesis (List.cons_ne_nil _ _), joinWith_cons_of_ne_nil (List.cons_ne_nil _ _),
        List.append_assoc]
      rfl

/-- Cutting loses nothing. -/
theorem joinWith_splitAt (mark : Char) (text : List Char) :
    joinWith mark (splitAt mark text) = text := by
  induction text with
  | nil => rfl
  | cons c rest inductionHypothesis =>
    rw [splitAt]
    split
    · next same => rw [joinWith_cons_of_ne_nil (splitAt_ne_nil mark rest), inductionHypothesis, same,
        List.nil_append]
    · cases cut : splitAt mark rest with
      | nil => exact absurd cut (splitAt_ne_nil mark rest)
      | cons first others =>
        rw [cut] at inductionHypothesis
        cases others with
        | nil => exact congrArg (c :: ·) inductionHypothesis
        | cons => exact congrArg (c :: ·) inductionHypothesis

theorem splitFirst?_of_notMem (absent : mark ∉ text) : splitFirst? mark text = none := by
  induction text with
  | nil => rfl
  | cons c rest inductionHypothesis =>
    obtain ⟨other, absent⟩ := not_or.mp (List.mem_cons.not.mp absent)
    rw [splitFirst?, if_neg (Ne.symm other), inductionHypothesis absent]
    rfl

theorem splitFirst?_append (absent : mark ∉ before) (behind : List Char) :
    splitFirst? mark (before ++ mark :: behind) = some (before, behind) := by
  induction before with
  | nil => exact if_pos rfl
  | cons c rest inductionHypothesis =>
    obtain ⟨other, absent⟩ := not_or.mp (List.mem_cons.not.mp absent)
    rw [List.cons_append, splitFirst?, if_neg (Ne.symm other), inductionHypothesis absent]
    rfl

theorem eq_of_splitFirst? (cut : splitFirst? mark text = some (before, behind)) :
    text = before ++ mark :: behind := by
  induction text generalizing before with
  | nil => cases cut
  | cons c rest inductionHypothesis =>
    rw [splitFirst?] at cut
    split at cut
    · next same =>
      cases cut
      rw [same, List.nil_append]
    · obtain ⟨⟨first, others⟩, found, same⟩ := Option.map_eq_some_iff.mp cut
      cases same
      rw [inductionHypothesis found, List.cons_append]

/-! ### Digits -/

theorem digitsFrom?_eq_some_iff {value result : Nat} :
    digitsFrom? value text = some result ↔
      (∀ c ∈ text, c.isDigit = true) ∧ result = Nat.ofDigitChars 10 text value := by
  induction text generalizing value with
  | nil =>
    simp only [digitsFrom?, Option.some.injEq, List.not_mem_nil, false_implies, implies_true,
      true_and]
    exact eq_comm
  | cons c rest inductionHypothesis =>
    rw [digitsFrom?, Nat.ofDigitChars_cons, List.forall_mem_cons]
    by_cases digit : c.isDigit = true
    · rw [if_pos digit, inductionHypothesis]
      simp only [digit, true_and]
    · rw [if_neg digit]
      simp only [digit, false_and, reduceCtorEq]

/-- Digits are read as the decimal number that they write. -/
theorem digits?_eq_some_iff {result : Nat} :
    digits? text = some result ↔
      text ≠ [] ∧ (∀ c ∈ text, c.isDigit = true) ∧ result = Nat.ofDigitChars 10 text 0 := by
  cases text with
  | nil => simp [digits?]
  | cons c rest => exact digitsFrom?_eq_some_iff.trans (by simp)

/-- There may be one plus sign in front. -/
theorem natural?_eq_some_iff {result : Nat} :
    natural? text = some result ↔
      ∃ sign digits, text = sign ++ digits ∧ (sign = [] ∨ sign = ['+']) ∧
        digits? digits = some result := by
  constructor
  · intro read
    match text with
    | '+' :: digits => exact ⟨['+'], digits, rfl, Or.inr rfl, read⟩
    | [] => exact ⟨[], [], rfl, Or.inl rfl, read⟩
    | c :: rest =>
      by_cases plus : c = '+'
      · subst plus
        exact ⟨['+'], rest, rfl, Or.inr rfl, read⟩
      · refine ⟨[], c :: rest, rfl, Or.inl rfl, ?_⟩
        rwa [natural?.eq_2 _ fun digits same => plus (List.cons.inj same).1] at read
  · rintro ⟨sign, digits, rfl, rfl | rfl, read⟩
    · rw [List.nil_append]
      obtain ⟨-, decimal, -⟩ := digits?_eq_some_iff.mp read
      rwa [natural?.eq_2 _ fun rest same => ?_]
      have digit := decimal '+' (by rw [same]; exact List.mem_cons_self)
      exact absurd digit (by decide)
    · exact read

end TaskAutomation.Text
