import TaskAutomation.Proofs.Results
import TaskAutomation.Proofs.Text.Pieces
import TaskAutomation.Schedule.Field
import Mathlib.Data.Set.Insert
import Mathlib.Order.Interval.Set.Defs

/-!
This file gives the grammar of field expressions and proves that reading accepts exactly the texts
of the grammar and gives each the expression that it writes. The reader cuts at every comma, then at
every slash and then at the first dash, and it trims at each level; the grammar knows nothing of
that order. No mark stands in the parts between which it is written, so the cuts of the reader fall
where the grammar has put its marks.
-/

namespace TaskAutomation

namespace FieldRange

/-- The numbers that lie in a range. -/
def numbers : FieldRange → Set Nat
  | any => Set.univ
  | exactly k => {k}
  | between first last => Set.Icc first last

/-- The number is written in the text of the range. -/
inductive Names : FieldRange → Nat → Prop
  | exactly (k : Nat) : Names (exactly k) k
  | first (first last : Nat) : Names (between first last) first
  | last (first last : Nat) : Names (between first last) last

theorem contains_iff (range : FieldRange) (value : Nat) :
    range.contains value = true ↔ value ∈ range.numbers := by
  cases range with
  | any => exact iff_of_true rfl (Set.mem_univ value)
  | exactly k => exact decide_eq_true_iff
  | between first last => simp [contains, numbers]

theorem mem_literals_iff (range : FieldRange) (value : Nat) :
    value ∈ range.literals ↔ range.Names value := by
  constructor
  · intro member
    cases range with
    | any => cases member
    | exactly k =>
      obtain rfl := List.mem_singleton.mp member
      exact .exactly value
    | between first last =>
      obtain rfl | rfl : value = first ∨ value = last := by simpa [literals] using member
      · exact .first value last
      · exact .last first value
  · rintro (_ | _ | _) <;> simp [literals]

end FieldRange

theorem FieldItem.test_iff (item : FieldItem) (value : Nat) :
    item.test value = true ↔
      value ∈ item.range.numbers ∧ ∀ modulus ∈ item.moduli, modulus ∣ value := by
  simp only [test, Bool.and_eq_true, item.range.contains_iff, List.all_eq_true, decide_eq_true_eq,
    Nat.dvd_iff_mod_eq_zero]

namespace FieldExpression

open Text

/-! ### The grammar -/

/-- A decimal number with 32 bits. It may have a plus sign in front and white space around it. -/
inductive NumberText : List Char → Nat → Prop
  | number {front sign digits back : List Char} (blankFront : Blank front) (blankBack : Blank back)
      (plus : sign = [] ∨ sign = ['+']) (present : digits ≠ [])
      (decimal : ∀ c ∈ digits, c.isDigit = true)
      (small : Nat.ofDigitChars 10 digits 0 < Word.size32) :
      NumberText (front ++ (sign ++ digits) ++ back) (Nat.ofDigitChars 10 digits 0)

/-- A star, a number, or two numbers in ascending order with a dash between them. -/
inductive RangeText : List Char → FieldRange → Prop
  | any {front back : List Char} (blankFront : Blank front) (blankBack : Blank back) :
      RangeText (front ++ ['*'] ++ back) .any
  | exactly {text : List Char} {k : Nat} (number : NumberText text k) : RangeText text (.exactly k)
  | between {left right : List Char} {first last : Nat} (lower : NumberText left first)
      (upper : NumberText right last) (ordered : first ≤ last) :
      RangeText (left ++ '-' :: right) (.between first last)

/-- A range, and then any number of moduli other than zero, each behind a slash. -/
inductive ItemText : List Char → FieldItem → Prop
  | range {text : List Char} {range : FieldRange} (written : RangeText text range) :
      ItemText text ⟨range, []⟩
  | modulus {text numeral : List Char} {item : FieldItem} {modulus : Nat}
      (written : ItemText text item) (number : NumberText numeral modulus) (positive : modulus ≠ 0) :
      ItemText (text ++ '/' :: numeral) { item with moduli := item.moduli ++ [modulus] }

/-- One or more items with commas between them. -/
inductive ExpressionText : List Char → FieldExpression → Prop
  | single {text : List Char} {item : FieldItem} (written : ItemText text item) :
      ExpressionText text ⟨item, []⟩
  | more {text others : List Char} {item : FieldItem} {rest : FieldExpression}
      (written : ItemText text item) (further : ExpressionText others rest) :
      ExpressionText (text ++ ',' :: others) ⟨item, rest.items⟩

variable {text : List Char} {mark : Char} {value : Nat}

/-! ### Numbers -/

/-- No other mark stands in the text of a number. -/
theorem NumberText.notMem (written : NumberText text value) (ink : isBlank mark = false)
    (noDigit : mark.isDigit = false) (noSign : mark ≠ '+') : mark ∉ text := by
  obtain ⟨blankFront, blankBack, plus, -, decimal, -⟩ := written
  intro member
  rw [List.mem_append, List.mem_append, List.mem_append] at member
  obtain (inFront | inSign | inDigits) | inBack := member
  · cases ink.symm.trans (blankFront mark inFront)
  · obtain rfl | rfl := plus
    · cases inSign
    · exact noSign (List.mem_singleton.mp inSign)
  · cases noDigit.symm.trans (decimal mark inDigits)
  · cases ink.symm.trans (blankBack mark inBack)

/-- Numbers are read as the grammar has them. -/
theorem number_eq_ok_iff : number text = .ok value ↔ NumberText text value := by
  constructor
  · intro read
    obtain ⟨front, back, blankFront, blankBack, parts⟩ := exists_trim text
    simp only [number] at read
    split at read
    · cases read
    · split at read
      · next natural =>
        split at read
        · next small =>
          obtain ⟨sign, digits, core, plus, decimals⟩ := natural?_eq_some_iff.mp natural
          obtain ⟨present, decimal, rfl⟩ := digits?_eq_some_iff.mp decimals
          cases read
          rw [parts, core]
          exact .number blankFront blankBack plus present decimal small
        · cases read
      · cases read
  · rintro ⟨blankFront, blankBack, plus, present, decimal, small⟩
    next front sign digits back =>
    have ink : ∀ c ∈ sign ++ digits, isBlank c = false := by
      intro c member
      obtain inSign | inDigits := List.mem_append.mp member
      · obtain rfl | rfl := plus
        · cases inSign
        · obtain rfl := List.mem_singleton.mp inSign
          rfl
      · exact isBlank_eq_false_of_isDigit (decimal c inDigits)
    have natural : natural? (sign ++ digits) = some (Nat.ofDigitChars 10 digits 0) :=
      natural?_eq_some_iff.mpr
        ⟨sign, digits, rfl, plus, digits?_eq_some_iff.mpr ⟨present, decimal, rfl⟩⟩
    have filled : (sign ++ digits).isEmpty = false := by
      rw [List.isEmpty_eq_false_iff]
      exact List.append_ne_nil_of_right_ne_nil _ present
    unfold number
    simp only [trim_surrounded blankFront blankBack, trim_eq_self ink, filled, natural, small,
      Bool.false_eq_true, if_false, if_true]

theorem NumberText.blank_append (written : NumberText text value) {front : List Char}
    (blank : Blank front) : NumberText (front ++ text) value := by
  obtain ⟨blankFront, blankBack, plus, present, decimal, small⟩ := written
  rw [← List.append_assoc, ← List.append_assoc]
  exact .number (List.forall_mem_append.mpr ⟨blank, blankFront⟩) blankBack plus present decimal small

theorem NumberText.append_blank (written : NumberText text value) {back : List Char}
    (blank : Blank back) : NumberText (text ++ back) value := by
  obtain ⟨blankFront, blankBack, plus, present, decimal, small⟩ := written
  rw [List.append_assoc]
  exact .number blankFront (List.forall_mem_append.mpr ⟨blankBack, blank⟩) plus present decimal small

theorem number_trimStart (text : List Char) : number (trimStart text) = number text := by
  unfold number
  rw [trim_trimStart]

theorem number_trimEnd (text : List Char) : number (trimEnd text) = number text := by
  unfold number
  rw [trim_trimEnd]

theorem number_trim (text : List Char) : number (trim text) = number text := by
  rw [trim, number_trimEnd, number_trimStart]

/-! ### Ranges -/

variable {range : FieldRange}

/-- Neither a slash nor a comma stands in the text of a range. -/
theorem RangeText.notMem (written : RangeText text range) (ink : isBlank mark = false)
    (noDigit : mark.isDigit = false) (others : mark ∉ ['+', '-', '*']) : mark ∉ text := by
  obtain ⟨noSign, noDash, noStar⟩ : mark ≠ '+' ∧ mark ≠ '-' ∧ mark ≠ '*' := by
    simpa using others
  cases written with
  | any blankFront blankBack =>
    intro member
    rw [List.mem_append, List.mem_append, List.mem_singleton] at member
    obtain (inFront | star) | inBack := member
    · cases ink.symm.trans (blankFront mark inFront)
    · exact noStar star
    · cases ink.symm.trans (blankBack mark inBack)
  | exactly number => exact number.notMem ink noDigit noSign
  | between lower upper =>
    intro member
    rw [List.mem_append, List.mem_cons] at member
    obtain inLower | dash | inUpper := member
    · exact lower.notMem ink noDigit noSign inLower
    · exact noDash dash
    · exact upper.notMem ink noDigit noSign inUpper

theorem rangeText_of_range (read : FieldExpression.range text = .ok range) :
    RangeText text range := by
  obtain ⟨front, back, blankFront, blankBack, parts⟩ := exists_trim text
  simp only [FieldExpression.range] at read
  split at read
  · cases read
  · split at read
    · next star =>
      rw [star] at parts
      cases read
      rw [parts]
      exact .any blankFront blankBack
    · split at read
      · next first last cut =>
        -- The white space that was trimmed off belongs to the two numbers.
        rw [eq_of_splitFirst? cut, List.append_assoc, List.append_assoc, List.cons_append,
          ← List.append_assoc] at parts
        obtain ⟨low, lower, read⟩ := bind_eq_ok.mp read
        obtain ⟨high, upper, read⟩ := bind_eq_ok.mp read
        split at read
        · cases read
        · next ordered =>
          cases read
          rw [parts]
          exact .between ((number_eq_ok_iff.mp lower).blank_append blankFront)
            ((number_eq_ok_iff.mp upper).append_blank blankBack) (Nat.not_lt.mp ordered)
      · rw [number_trim] at read
        cases found : number text with
        | error fault =>
          rw [found] at read
          cases read
        | ok k =>
          rw [found] at read
          cases read
          exact .exactly (number_eq_ok_iff.mp found)

theorem RangeText.range_eq_ok (written : RangeText text range) :
    FieldExpression.range text = .ok range := by
  cases written with
  | any blankFront blankBack =>
    simp only [FieldExpression.range, trim_surrounded blankFront blankBack]
    rfl
  | exactly written =>
    have read := number_eq_ok_iff.mpr written
    have noDash : '-' ∉ trim text :=
      fun member => written.notMem rfl rfl (by decide) (mem_of_mem_trim member)
    have noStar : trim text ≠ ['*'] := fun star =>
      written.notMem rfl rfl (by decide) (mem_of_mem_trim (star ▸ List.mem_singleton_self '*'))
    have filled : (trim text).isEmpty = false := by
      refine Bool.eq_false_iff.mpr fun empty => ?_
      simp only [number, empty, if_true] at read
      cases read
    simp only [FieldExpression.range, filled, noStar, splitFirst?_of_notMem noDash, number_trim,
      read, Bool.false_eq_true, if_false]
    rfl
  | between lower upper ordered =>
    next left right first last =>
    have noDash : '-' ∉ trimStart left := fun member =>
      lower.notMem rfl rfl (by decide) (List.dropWhile_subset _ member)
    have trimmed : trim (left ++ '-' :: right) = trimStart left ++ '-' :: trimEnd right :=
      trim_append_mark rfl left right
    have noStar : trimStart left ++ '-' :: trimEnd right ≠ ['*'] := fun star => by
      have dash : '-' ∈ ['*'] := star ▸ List.mem_append_right _ List.mem_cons_self
      exact absurd dash (by decide)
    have filled : (trimStart left ++ '-' :: trimEnd right).isEmpty = false := by
      rw [List.isEmpty_eq_false_iff]
      exact List.append_ne_nil_of_right_ne_nil _ (List.cons_ne_nil _ _)
    simp only [FieldExpression.range, trimmed, filled, noStar, splitFirst?_append noDash,
      number_trimStart, number_trimEnd, number_eq_ok_iff.mpr lower, number_eq_ok_iff.mpr upper,
      Bool.false_eq_true, if_false]
    exact if_neg (Nat.not_lt.mpr ordered)

/-! ### Items -/

variable {item : FieldItem}

/-- No comma stands in the text of an item. -/
theorem ItemText.comma_notMem (written : ItemText text item) : ',' ∉ text := by
  induction written with
  | range written => exact written.notMem rfl rfl (by decide)
  | modulus written number positive inductionHypothesis =>
    intro member
    rw [List.mem_append, List.mem_cons] at member
    obtain inItem | comma | inNumber := member
    · exact inductionHypothesis inItem
    · exact absurd comma (by decide)
    · exact number.notMem rfl rfl (by decide) inNumber

/-- An item is read from its pieces, the last one first. -/
theorem itemText_of_item {pieces : List (List Char)} (read : FieldExpression.item pieces = .ok item) :
    ItemText (joinWith '/' pieces.reverse) item := by
  induction pieces generalizing item with
  | nil => cases read
  | cons piece before inductionHypothesis =>
    cases before with
    | nil =>
      cases found : FieldExpression.range piece with
      | error fault =>
        simp only [FieldExpression.item, found] at read
        cases read
      | ok range =>
        simp only [FieldExpression.item, found] at read
        cases read
        exact .range (rangeText_of_range found)
    | cons other more =>
      obtain ⟨modulus, found, read⟩ := bind_eq_ok.mp read
      split at read
      · cases read
      · next positive =>
        obtain ⟨inner, front, read⟩ := bind_eq_ok.mp read
        cases read
        rw [List.reverse_cons, joinWith_append_piece (by simp)]
        exact .modulus (inductionHypothesis front) (number_eq_ok_iff.mp found) positive

theorem ItemText.readItem_eq_ok (written : ItemText text item) : readItem text = .ok item := by
  unfold readItem
  induction written with
  | range written =>
    rw [splitAt_of_notMem (written.notMem rfl rfl (by decide)), List.reverse_singleton,
      FieldExpression.item, written.range_eq_ok]
    rfl
  | modulus written number positive inductionHypothesis =>
    next front numeral inner modulus =>
    rw [splitAt_append_piece (number.notMem rfl rfl (by decide)), List.reverse_append,
      List.reverse_singleton, List.singleton_append]
    cases pieces : (splitAt '/' front).reverse with
    | nil => exact absurd (List.reverse_eq_nil_iff.mp pieces) (splitAt_ne_nil _ _)
    | cons last before =>
      rw [pieces] at inductionHypothesis
      rw [FieldExpression.item, number_eq_ok_iff.mpr number, inductionHypothesis]
      · exact if_neg positive
      · nofun

theorem readItem_eq_ok_iff : readItem text = .ok item ↔ ItemText text item := by
  refine ⟨fun read => ?_, ItemText.readItem_eq_ok⟩
  have written := itemText_of_item read
  rwa [List.reverse_reverse, joinWith_splitAt] at written

/-! ### Expressions -/

variable {expression : FieldExpression}

theorem ExpressionText.mapM_readItem (written : ExpressionText text expression) :
    (splitAt ',' text).mapM readItem = .ok expression.items := by
  induction written with
  | single written =>
    rw [splitAt_of_notMem written.comma_notMem, List.mapM_cons, written.readItem_eq_ok]
    rfl
  | more written further inductionHypothesis =>
    rw [splitAt_piece_append written.comma_notMem, List.mapM_cons, written.readItem_eq_ok,
      inductionHypothesis]
    rfl

theorem expressionText_of_mapM {pieces : List (List Char)} {first : FieldItem}
    {more : List FieldItem} (read : pieces.mapM readItem = .ok (first :: more)) :
    ExpressionText (joinWith ',' pieces) ⟨first, more⟩ := by
  induction pieces generalizing first more with
  | nil => cases read
  | cons piece others inductionHypothesis =>
    rw [List.mapM_cons] at read
    obtain ⟨item, written, read⟩ := bind_eq_ok.mp read
    obtain ⟨items, further, read⟩ := bind_eq_ok.mp read
    cases read
    cases others with
    | nil =>
      cases further
      exact .single (readItem_eq_ok_iff.mp written)
    | cons other rest =>
      rw [joinWith_cons_of_ne_nil (List.cons_ne_nil _ _)]
      cases more with
      | nil =>
        rw [List.mapM_cons] at further
        obtain ⟨_, -, further⟩ := bind_eq_ok.mp further
        obtain ⟨_, -, further⟩ := bind_eq_ok.mp further
        cases further
      | cons second rest =>
        exact .more (readItem_eq_ok_iff.mp written) (inductionHypothesis further)

theorem read_eq_ok_iff (text : String) :
    read text = .ok expression ↔ ExpressionText text.toList expression := by
  constructor
  · intro found
    obtain ⟨items, pieces, found⟩ := bind_eq_ok.mp found
    cases items with
    | nil => cases found
    | cons first more =>
      cases found
      have written := expressionText_of_mapM pieces
      rwa [joinWith_splitAt] at written
  · intro written
    unfold read
    rw [written.mapM_readItem]
    rfl

/-- Reading accepts exactly the texts of the grammar. A number passes an expression if and only if
it lies in the range of one of its items and every modulus of that item divides it, and an
expression lies between two bounds if and only if every number of every range does. -/
theorem reads_grammar (text : String) (expression : FieldExpression) :
    (read text = .ok expression ↔ ExpressionText text.toList expression) ∧
      (∀ value, expression.test value = true ↔ ∃ item ∈ expression.items,
        value ∈ item.range.numbers ∧ ∀ modulus ∈ item.moduli, modulus ∣ value) ∧
      ∀ least most, expression.within least most = true ↔ ∀ item ∈ expression.items,
        ∀ number, item.range.Names number → number ∈ Set.Icc least most := by
  refine ⟨read_eq_ok_iff text, fun value => ?_, fun least most => ?_⟩
  · simp only [test, List.any_eq_true, FieldItem.test_iff]
  · simp only [within, List.all_eq_true, FieldRange.mem_literals_iff, Bool.and_eq_true,
      decide_eq_true_eq, Set.mem_Icc]

example : read " 1-10/2 ,+30" =
    .ok ⟨⟨.between 1 10, [2]⟩, [⟨.exactly 30, []⟩]⟩ := by decide

end FieldExpression

end TaskAutomation
