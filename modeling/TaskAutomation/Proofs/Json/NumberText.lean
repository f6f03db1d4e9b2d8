import TaskAutomation.Json.Printer
import TaskAutomation.Json.Reader
import Mathlib.Algebra.GroupWithZero.Nat

/-!
This file proves what the reader makes of number text. Of a run of digits it keeps as many as fit
into 64 bits; the rest count for the exponent only, so what is kept is at most what is written. A
number is read to the same result whatever stands behind it, as long as that could not belong to
the number.
-/

namespace TaskAutomation.Json

/-! ### Runs of digits -/

/-- All characters are digits. -/
def AllDigits (digits : List Char) : Prop := ∀ c ∈ digits, c.isDigit = true

theorem allDigits_toDigits (n : Nat) : AllDigits (Nat.toDigits 10 n) :=
  fun _ => Nat.isDigit_of_mem_toDigits (by decide) (by decide)

theorem allDigits_append {left right : List Char} (former : AllDigits left)
    (latter : AllDigits right) : AllDigits (left ++ right) := by
  intro c member
  obtain inside | inside := List.mem_append.mp member
  · exact former c inside
  · exact latter c inside

theorem AllDigits.takeWhile_append {digits tail : List Char} (all : AllDigits digits)
    (ends : startsWithDigit tail = false) : (digits ++ tail).takeWhile Char.isDigit = digits := by
  rw [List.takeWhile_append_of_pos all]
  cases tail with
  | nil => exact List.append_nil digits
  | cons c rest =>
    have other : ¬ c.isDigit = true := Bool.eq_false_iff.mp ends
    rw [List.takeWhile_cons_of_neg other, List.append_nil]

theorem AllDigits.dropWhile_append {digits tail : List Char} (all : AllDigits digits)
    (ends : startsWithDigit tail = false) : (digits ++ tail).dropWhile Char.isDigit = tail := by
  rw [List.dropWhile_append_of_pos all]
  cases tail with
  | nil => rfl
  | cons c rest =>
    have other : ¬ c.isDigit = true := Bool.eq_false_iff.mp ends
    exact List.dropWhile_cons_of_neg other

theorem le_ofDigitChars (digits : List Char) (start : Nat) :
    start ≤ Nat.ofDigitChars 10 digits start := by
  rw [Nat.ofDigitChars_eq_ofDigitChars_zero]
  have power : 1 ≤ 10 ^ digits.length := Nat.one_le_pow _ _ (by decide)
  exact Nat.le_trans (Nat.le_mul_of_pos_left start power) (Nat.le_add_right _ _)

/-- The digits that fit are kept, whatever stands behind them, and all digits are if their number
fits. -/
theorem addDigits_append {digits : List Char} (all : AllDigits digits) (start : Nat)
    (small : start < Word.size64) :
    ∃ used left, digits = used ++ left ∧
      Nat.ofDigitChars 10 used start < Word.size64 ∧
      (Nat.ofDigitChars 10 digits start < Word.size64 → left = []) ∧
      ∀ tail, startsWithDigit tail = false →
        addDigits start (digits ++ tail) = (Nat.ofDigitChars 10 used start, left ++ tail) := by
  induction digits generalizing start with
  | nil =>
    refine ⟨[], [], rfl, small, fun _ => rfl, fun tail ends => ?_⟩
    cases tail with
    | nil => rfl
    | cons c rest =>
      have other : ¬ c.isDigit = true := Bool.eq_false_iff.mp ends
      exact if_neg fun both => other both.1
  | cons c rest inductionHypothesis =>
    have digit : c.isDigit = true := all c List.mem_cons_self
    have next : Nat.ofDigitChars 10 (c :: rest) start =
        Nat.ofDigitChars 10 rest (start * 10 + (c.toNat - '0'.toNat)) := by
      rw [Nat.ofDigitChars_cons, Nat.mul_comm]
    by_cases fits : start * 10 + (c.toNat - '0'.toNat) < Word.size64
    · obtain ⟨used, left, split, bounded, complete, read⟩ :=
        inductionHypothesis (fun d member => all d (List.mem_cons_of_mem c member)) _ fits
      have first : Nat.ofDigitChars 10 (c :: used) start =
          Nat.ofDigitChars 10 used (start * 10 + (c.toNat - '0'.toNat)) := by
        rw [Nat.ofDigitChars_cons, Nat.mul_comm]
      refine ⟨c :: used, left, by rw [split, List.cons_append], ?_, ?_, fun tail ends => ?_⟩
      · rw [first]
        exact bounded
      · rw [next]
        exact complete
      · rw [first, ← read tail ends, List.cons_append]
        exact if_pos ⟨digit, fits⟩
    · refine ⟨[], c :: rest, rfl, small, fun whole => ?_, fun tail _ => if_neg fun both =>
        fits both.2⟩
      rw [next] at whole
      exact absurd (Nat.lt_of_le_of_lt (le_ofDigitChars rest _) whole) fits

/-! ### Parts of a number -/

/-- What stands behind a number does not belong to it. -/
def EndsNumber (rest : List Char) : Prop :=
  ∀ c after, rest = c :: after → c.isDigit = false ∧ c ≠ '.' ∧ c ≠ 'e' ∧ c ≠ 'E'

theorem endsNumber_nil : EndsNumber [] := fun _ _ same => nomatch same

theorem EndsNumber.startsWithDigit {rest : List Char} (ends : EndsNumber rest) :
    startsWithDigit rest = false := by
  cases rest with
  | nil => rfl
  | cons c after => exact (ends c after rfl).1

theorem withExponent_of_ends {rest : List Char} (ends : EndsNumber rest) (negative : Bool)
    (significand : Nat) (exponent : Int) :
    withExponent negative significand exponent rest =
      ofParts negative significand exponent rest := by
  unfold withExponent
  split
  · next after => exact absurd rfl (ends _ after rfl).2.2.1
  · next after => exact absurd rfl (ends _ after rfl).2.2.2
  · rfl

theorem exponentDigits_append {digits rest : List Char} (all : AllDigits digits)
    (ends : EndsNumber rest) (negative : Bool) (significand : Nat) (exponent : Int)
    (upwards : Bool) (written : Nat) (small : Nat.ofDigitChars 10 digits written ≤ maxWritten) :
    exponentDigits negative significand exponent upwards written (digits ++ rest) =
      ofParts negative significand
        (if upwards then exponent + Nat.ofDigitChars 10 digits written
          else exponent - Nat.ofDigitChars 10 digits written) rest := by
  induction digits generalizing written with
  | nil =>
    rw [List.nil_append, Nat.ofDigitChars_nil]
    cases rest with
    | nil => rfl
    | cons c after =>
      have other : ¬ c.isDigit = true := Bool.eq_false_iff.mp (ends c after rfl).1
      rw [exponentDigits, if_pos other]
      rfl
  | cons c digits inductionHypothesis =>
    have digit : ¬ ¬ c.isDigit = true := not_not_intro (all c List.mem_cons_self)
    rw [Nat.ofDigitChars_cons, Nat.mul_comm] at small ⊢
    have fits : written * 10 + (c.toNat - '0'.toNat) ≤ maxWritten :=
      Nat.le_trans (le_ofDigitChars digits _) small
    rw [List.cons_append, exponentDigits, if_neg digit, if_pos fits]
    exact inductionHypothesis (fun d member => all d (List.mem_cons_of_mem c member)) _ small

/-- An exponent with its sign, as it is written. -/
def exponentText (power : Int) : List Char :=
  'e' :: (if power < 0 then '-' else '+') :: Nat.toDigits 10 power.natAbs

theorem withExponent_exponentText {rest : List Char} (ends : EndsNumber rest) (negative : Bool)
    (significand : Nat) (exponent power : Int) (small : power.natAbs ≤ maxWritten) :
    withExponent negative significand exponent (exponentText power ++ rest) =
      ofParts negative significand (exponent + power) rest := by
  have digits := allDigits_toDigits power.natAbs
  have value := @Nat.ofDigitChars_ten_toDigits power.natAbs
  obtain ⟨c, tail, split⟩ := List.exists_cons_of_ne_nil (@Nat.toDigits_ne_nil power.natAbs 10)
  rw [split] at digits value
  rw [Nat.ofDigitChars_cons, Nat.mul_zero, Nat.zero_add] at value
  have first : c.isDigit = true := digits c List.mem_cons_self
  have later : AllDigits tail := fun d member => digits d (List.mem_cons_of_mem c member)
  have read (upwards : Bool) := exponentDigits_append later ends negative significand exponent
    upwards (c.toNat - '0'.toNat) (by rw [value]; exact small)
  rw [value] at read
  rw [exponentText, split]
  by_cases downwards : power < 0
  · rw [if_pos downwards]
    show (if c.isDigit then exponentDigits negative significand exponent false
      (c.toNat - '0'.toNat) (tail ++ rest) else _) = _
    rw [if_pos first, read false]
    congr 1
    simp only [Bool.false_eq_true, if_false]
    omega
  · rw [if_neg downwards]
    show (if c.isDigit then exponentDigits negative significand exponent true
      (c.toNat - '0'.toNat) (tail ++ rest) else _) = _
    rw [if_pos first, read true]
    congr 1
    simp only [if_true]
    omega

/-! ### Numbers -/

/-- Digits without a zero in front of others. -/
def Leads (whole : List Char) : Prop :=
  AllDigits whole ∧ whole ≠ [] ∧ ∀ rest, whole = '0' :: rest → rest = []

theorem ofDigitChars_lt {digits : List Char} (all : AllDigits digits) :
    Nat.ofDigitChars 10 digits 0 < 10 ^ digits.length := by
  induction digits with
  | nil => exact Nat.one_pos
  | cons c rest inductionHypothesis =>
    have later := inductionHypothesis fun d member => all d (List.mem_cons_of_mem c member)
    have digit : c.toNat - '0'.toNat ≤ 9 := by
      have bounds := all c List.mem_cons_self
      simp only [Char.isDigit, Bool.and_eq_true, decide_eq_true_eq] at bounds
      exact Nat.sub_le_sub_right (UInt32.le_iff_toNat_le.mp bounds.2) _
    have scaled := Nat.mul_le_mul_left (10 ^ rest.length) digit
    rw [Nat.ofDigitChars_cons, Nat.mul_zero, Nat.zero_add, Nat.ofDigitChars_eq_ofDigitChars_zero,
      List.length_cons, Nat.pow_succ]
    omega

/-- The digits of a number are as few as possible. -/
theorem leads_toDigits (n : Nat) : Leads (Nat.toDigits 10 n) := by
  refine ⟨allDigits_toDigits n, Nat.toDigits_ne_nil, fun rest first => ?_⟩
  have all := allDigits_toDigits n
  have value := @Nat.ofDigitChars_ten_toDigits n
  rw [first] at all value
  rw [Nat.ofDigitChars_cons, Nat.mul_zero, Nat.zero_add] at value
  have bound := ofDigitChars_lt fun d member => all d (List.mem_cons_of_mem '0' member)
  refine List.length_eq_zero_iff.mp (Nat.eq_zero_of_not_pos fun present => ?_)
  have short := (Nat.length_toDigits_le_iff (by decide) present).mpr (show n < 10 ^ rest.length by
    rw [← value]
    exact bound)
  rw [first, List.length_cons] at short
  omega

theorem Leads.startsWithDigit {whole : List Char} (leads : Leads whole) (rest : List Char) :
    startsWithDigit (whole ++ rest) = true := by
  obtain ⟨all, present, -⟩ := leads
  obtain ⟨c, digits, rfl⟩ := List.exists_cons_of_ne_nil present
  exact all c List.mem_cons_self

theorem skipSpace_cons {c : Char} (blank : isSpace c = false) (rest : List Char) :
    skipSpace (c :: rest) = c :: rest := by
  rw [skipSpace, List.dropWhile_cons_of_neg (by rw [blank]; exact Bool.false_ne_true)]

theorem ne_of_isDigit {c d : Char} (digit : c.isDigit = true) (none : d.isDigit = false) :
    ¬ c = d := by
  rintro rfl
  rw [digit] at none
  cases none

theorem isSpace_of_isDigit {c : Char} (digit : c.isDigit = true) : isSpace c = false := by
  have other {d : Char} (none : d.isDigit = false) : decide (c = d) = false :=
    decide_eq_false (ne_of_isDigit digit none)
  rw [isSpace, other rfl, other rfl, other rfl, other rfl]
  rfl

/-- A value that starts with a digit is a number without a sign. -/
theorem value_of_digit (fuel levels : Nat) {text : List Char}
    (starts : startsWithDigit text = true) :
    value (fuel + 1) levels text = number false text := by
  cases text with
  | nil => cases starts
  | cons c rest =>
    have digit : c.isDigit = true := starts
    rw [value, skipSpace_cons (isSpace_of_isDigit digit)]
    simp only
    rw [if_neg (ne_of_isDigit digit rfl), if_neg (ne_of_isDigit digit rfl),
      if_neg (ne_of_isDigit digit rfl), if_neg (ne_of_isDigit digit rfl), if_pos digit]

/-- A value that starts with a minus sign is a number with a sign. -/
theorem value_of_minus (fuel levels : Nat) (text : List Char) :
    value (fuel + 1) levels ('-' :: text) = number true text := by
  rw [value]
  rfl

/-- What is read behind a whole part that fits into 64 bits. -/
def behindWhole (negative : Bool) (significand : Nat) (tail : List Char) :
    Scan (Json × List Char) :=
  match tail with
  | '.' :: after => withFraction negative significand 0 after
  | 'e' :: _ | 'E' :: _ => withExponent negative significand 0 tail
  | rest =>
    if ¬ negative then .ok (integer significand, rest)
    else if significand = 0 ∨ Word.size64 / 2 < significand then
      .ok (double (Double.ofNat significand).neg, rest)
    else .ok (integer (-significand), rest)

theorem number_whole {whole tail : List Char} (leads : Leads whole)
    (ends : startsWithDigit tail = false) (small : Nat.ofDigitChars 10 whole 0 < Word.size64)
    (negative : Bool) :
    number negative (whole ++ tail) =
      behindWhole negative (Nat.ofDigitChars 10 whole 0) tail := by
  obtain ⟨all, present, unpadded⟩ := leads
  obtain ⟨used, left, split, -, complete, reads⟩ := addDigits_append all 0 (by decide)
  have read := reads tail ends
  rw [complete small, List.append_nil] at split
  rw [complete small, List.nil_append, ← split] at read
  obtain ⟨c, digits, first⟩ := List.exists_cons_of_ne_nil present
  have digit : ¬ ¬ c.isDigit = true :=
    not_not_intro (all c (by rw [first]; exact List.mem_cons_self))
  have padded : ¬ (c = '0' ∧ startsWithDigit (digits ++ tail) = true) := by
    rintro ⟨zero, more⟩
    rw [zero] at first
    rw [unpadded digits first, List.nil_append, ends] at more
    cases more
  have nothing : AllDigits [] := nofun
  have none : tail.takeWhile Char.isDigit = [] := nothing.takeWhile_append ends
  have same : tail.dropWhile Char.isDigit = tail := nothing.dropWhile_append ends
  rw [first] at read ⊢
  rw [List.cons_append] at read ⊢
  unfold number
  simp only [if_neg digit, if_neg padded, read, none, same, List.isEmpty_nil, not_true_eq_false,
    if_false, List.length_nil]
  rfl

theorem behindWhole_of_ends {rest : List Char} (ends : EndsNumber rest) (negative : Bool)
    (significand : Nat) :
    behindWhole negative significand rest =
      if ¬ negative then .ok (integer significand, rest)
      else if significand = 0 ∨ Word.size64 / 2 < significand then
        .ok (double (Double.ofNat significand).neg, rest)
      else .ok (integer (-significand), rest) := by
  unfold behindWhole
  split
  · next after => exact absurd rfl (ends _ after rfl).2.1
  · next after => exact absurd rfl (ends _ after rfl).2.2.1
  · next after => exact absurd rfl (ends _ after rfl).2.2.2
  · rfl

/-- The digits of a whole number are read as that number. -/
theorem number_toDigits {rest : List Char} (ends : EndsNumber rest) (n : Nat)
    (small : n < Word.size64) :
    number false (Nat.toDigits 10 n ++ rest) = .ok (integer n, rest) := by
  have value := @Nat.ofDigitChars_ten_toDigits n
  rw [number_whole (leads_toDigits n) ends.startsWithDigit (by rw [value]; exact small), value,
    behindWhole_of_ends ends]
  rfl

/-- The digits of a whole number behind a minus sign are read as its negative. -/
theorem number_toDigits_neg {rest : List Char} (ends : EndsNumber rest) (n : Nat)
    (positive : 0 < n) (small : n ≤ Word.size64 / 2) :
    number true (Nat.toDigits 10 n ++ rest) = .ok (integer (-n), rest) := by
  have value := @Nat.ofDigitChars_ten_toDigits n
  have fits : n < Word.size64 := Nat.lt_of_le_of_lt small (by decide)
  rw [number_whole (leads_toDigits n) ends.startsWithDigit (by rw [value]; exact fits), value,
    behindWhole_of_ends ends, if_neg (not_not_intro rfl)]
  refine if_neg ?_
  omega

/-! ### Fractions -/

/-- Of the digits behind a point those that fit are kept. -/
theorem withFraction_digits {fraction : List Char} (all : AllDigits fraction)
    (present : fraction ≠ []) (significand : Nat) (small : significand < Word.size64) :
    ∃ used left, fraction = used ++ left ∧ Nat.ofDigitChars 10 used significand < Word.size64 ∧
      ∀ negative exponent tail, startsWithDigit tail = false →
        withFraction negative significand exponent (fraction ++ tail) =
          withExponent negative (Nat.ofDigitChars 10 used significand) (exponent - used.length)
            tail := by
  obtain ⟨used, left, split, bounded, -, read⟩ := addDigits_append all significand small
  have rest : AllDigits left := fun c member => all c (by
    rw [split]
    exact List.mem_append_right used member)
  refine ⟨used, left, split, bounded, fun negative exponent tail ends => ?_⟩
  have places : (fraction ++ tail).length - (left ++ tail).length = used.length := by
    rw [split, List.length_append, List.length_append, List.length_append]
    omega
  have enough : ¬ (used.length = 0 ∧ ¬ startsWithDigit (left ++ tail) = true) := by
    rintro ⟨none, other⟩
    rw [List.length_eq_zero_iff.mp none, List.nil_append] at split
    obtain ⟨c, more, first⟩ := List.exists_cons_of_ne_nil present
    rw [split] at first
    rw [first] at other rest
    exact other (rest c List.mem_cons_self)
  unfold withFraction
  simp only [read tail ends, places, if_neg enough, rest.dropWhile_append ends]

/-! ### Decimal numbers -/

/-- The text of a number that is not kept as a whole number: digits, digits behind a point if there
are any, and an exponent if there is one. -/
def decimalText (whole fraction : List Char) (power? : Option Int) : List Char :=
  whole ++ ((if fraction = [] then [] else '.' :: fraction) ++ power?.elim [] exponentText)

theorem withExponent_elim {rest : List Char} (ends : EndsNumber rest) (negative : Bool)
    (significand : Nat) (exponent : Int) (power? : Option Int)
    (small : ∀ power ∈ power?, power.natAbs ≤ maxWritten) :
    withExponent negative significand exponent (power?.elim [] exponentText ++ rest) =
      ofParts negative significand (exponent + power?.getD 0) rest := by
  cases power? with
  | none =>
    rw [Option.elim_none, List.nil_append, withExponent_of_ends ends, Option.getD_none,
      Int.add_zero]
  | some power =>
    exact withExponent_exponentText ends negative significand exponent power (small power rfl)

theorem startsWithDigit_elim {rest : List Char} (ends : EndsNumber rest) (power? : Option Int) :
    startsWithDigit (power?.elim [] exponentText ++ rest) = false := by
  cases power? with
  | none => exact ends.startsWithDigit
  | some power => rfl

/-- Such a text is read as a significand of at most 64 bits and an exponent of ten, the same ones
whatever stands behind it. The significand has all digits of the whole part and some of the
fraction. -/
theorem number_decimalText {whole fraction : List Char} (leads : Leads whole)
    (small : Nat.ofDigitChars 10 whole 0 < Word.size64) (all : AllDigits fraction)
    (power? : Option Int) (near : ∀ power ∈ power?, power.natAbs ≤ maxWritten)
    (decimal : fraction ≠ [] ∨ power? ≠ none) :
    ∃ used left, fraction = used ++ left ∧ Nat.ofDigitChars 10 (whole ++ used) 0 < Word.size64 ∧
      ∀ negative rest, EndsNumber rest →
        number negative (decimalText whole fraction power? ++ rest) =
          ofParts negative (Nat.ofDigitChars 10 (whole ++ used) 0)
            (power?.getD 0 - used.length) rest := by
  by_cases empty : fraction = []
  · refine ⟨[], [], empty, ?_, fun negative rest ends => ?_⟩
    · rw [List.append_nil]
      exact small
    · obtain ⟨power, same⟩ := Option.ne_none_iff_exists'.mp (decimal.resolve_left
        (not_not_intro empty))
      have ended : startsWithDigit (exponentText power ++ rest) = false := rfl
      have text : decimalText whole fraction power? ++ rest =
          whole ++ (exponentText power ++ rest) := by
        rw [decimalText, if_pos empty, same, Option.elim_some, List.nil_append, List.append_assoc]
      rw [text, number_whole leads ended small, List.append_nil, same, Option.getD_some]
      show withExponent negative _ 0 (exponentText power ++ rest) = _
      rw [withExponent_exponentText ends _ _ _ _ (near power same), Int.zero_add, List.length_nil,
        Int.ofNat_zero, Int.sub_zero]
  · obtain ⟨used, left, split, bounded, read⟩ := withFraction_digits all empty _ small
    refine ⟨used, left, split, ?_, fun negative rest ends => ?_⟩
    · rw [Nat.ofDigitChars_append]
      exact bounded
    · have text : decimalText whole fraction power? ++ rest =
          whole ++ ('.' :: (fraction ++ (power?.elim [] exponentText ++ rest))) := by
        rw [decimalText, if_neg empty]
        simp only [List.append_assoc, List.cons_append]
      rw [text, number_whole leads rfl small, Nat.ofDigitChars_append]
      show withFraction negative _ 0 _ = _
      rw [read negative 0 _ (startsWithDigit_elim ends power?),
        withExponent_elim ends _ _ _ _ near]
      congr 1
      omega

end TaskAutomation.Json
