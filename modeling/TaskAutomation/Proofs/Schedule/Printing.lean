import TaskAutomation.Proofs.Schedule.Grammar
import Mathlib.Data.List.Induction

/-!
This file proves that every expression that is read from some text is read again from the text that
it is printed as. No brackets are printed, and none are needed: what is read has nothing inside an
item but a range and its moduli, with numbers of 32 bits, and exactly such expressions are read from
their own texts. So the printed text stands for all texts that mean the same expression.
-/

namespace TaskAutomation

/-! ### Expressions that can be written -/

/-- The numbers of the range have 32 bits, and they are in ascending order. -/
def FieldRange.WellFormed : FieldRange → Prop
  | any => True
  | exactly k => k < Word.size32
  | between first last => first ≤ last ∧ last < Word.size32

/-- The range is well formed, and the moduli are numbers of 32 bits other than zero. -/
structure FieldItem.WellFormed (item : FieldItem) : Prop where
  range : item.range.WellFormed
  moduli : ∀ modulus ∈ item.moduli, modulus ≠ 0 ∧ modulus < Word.size32

/-- All items are well formed. -/
def FieldExpression.WellFormed (expression : FieldExpression) : Prop :=
  ∀ item ∈ expression.items, item.WellFormed

namespace FieldExpression

variable {text : List Char} {value : Nat} {range : FieldRange} {item : FieldItem}
  {expression : FieldExpression}

/-! ### Texts mean well-formed expressions -/

theorem NumberText.lt_size32 (written : NumberText text value) : value < Word.size32 := by
  obtain ⟨-, -, -, -, -, small⟩ := written
  exact small

theorem RangeText.wellFormed (written : RangeText text range) : range.WellFormed := by
  cases written with
  | any => trivial
  | exactly number => exact number.lt_size32
  | between lower upper ordered => exact ⟨ordered, upper.lt_size32⟩

theorem ItemText.wellFormed (written : ItemText text item) : item.WellFormed := by
  induction written with
  | range written => exact ⟨written.wellFormed, nofun⟩
  | modulus written number positive inductionHypothesis =>
    refine ⟨inductionHypothesis.range, fun modulus member => ?_⟩
    obtain before | last := List.mem_append.mp member
    · exact inductionHypothesis.moduli modulus before
    · obtain rfl := List.mem_singleton.mp last
      exact ⟨positive, number.lt_size32⟩

theorem ExpressionText.wellFormed (written : ExpressionText text expression) :
    expression.WellFormed := by
  induction written with
  | single written => exact List.forall_mem_singleton.mpr written.wellFormed
  | more written further inductionHypothesis =>
    exact List.forall_mem_cons.mpr ⟨written.wellFormed, inductionHypothesis⟩

/-! ### Well-formed expressions are printed as texts that mean them -/

theorem toList_toString (n : Nat) : (toString n).toList = Nat.toDigits 10 n := by
  rw [Nat.toString_eq_ofList_toDigits, String.toList_ofList]

theorem isDigit_of_mem_toString {n : Nat} {c : Char} (member : c ∈ (toString n).toList) :
    c.isDigit = true := by
  rw [toList_toString] at member
  exact Nat.isDigit_of_mem_toDigits (by decide) (by decide) member

theorem toString_ne_nil (n : Nat) : (toString n).toList ≠ [] := by
  rw [toList_toString]
  exact Nat.toDigits_ne_nil

theorem ofDigitChars_toString (n : Nat) : Nat.ofDigitChars 10 (toString n).toList 0 = n := by
  rw [toList_toString]
  exact Nat.ofDigitChars_ten_toDigits

theorem numberText_toString (small : value < Word.size32) :
    NumberText (toString value).toList value := by
  have own := ofDigitChars_toString value
  have written := @NumberText.number [] [] (toString value).toList [] nofun nofun (Or.inl rfl)
    (toString_ne_nil value) (fun _ => isDigit_of_mem_toString) (by rw [own]; exact small)
  rwa [own, List.nil_append, List.nil_append, List.append_nil] at written

theorem rangeText_text (sound : range.WellFormed) : RangeText range.text.toList range := by
  cases range with
  | any => exact @RangeText.any [] [] nofun nofun
  | exactly k => exact .exactly (numberText_toString sound)
  | between first last =>
    obtain ⟨ordered, small⟩ := sound
    have written := RangeText.between (numberText_toString (Nat.lt_of_le_of_lt ordered small))
      (numberText_toString small) ordered
    rwa [FieldRange.text, String.toList_append, String.toList_append, List.append_assoc]

/-- The last modulus is printed last. -/
theorem text_concat (range : FieldRange) (moduli : List Nat) (modulus : Nat) :
    FieldItem.text ⟨range, moduli ++ [modulus]⟩ =
      FieldItem.text ⟨range, moduli⟩ ++ "/" ++ toString modulus := by
  unfold FieldItem.text
  rw [List.foldl_append]
  rfl

theorem itemText_text (sound : item.WellFormed) : ItemText item.text.toList item := by
  obtain ⟨range, moduli⟩ := item
  induction moduli using List.reverseRecOn with
  | nil => exact .range (rangeText_text sound.range)
  | append_singleton moduli modulus inductionHypothesis =>
    obtain ⟨positive, small⟩ :=
      sound.moduli modulus (List.mem_append_right _ (List.mem_singleton_self modulus))
    have front : FieldItem.WellFormed ⟨range, moduli⟩ :=
      ⟨sound.range, fun other member => sound.moduli other (List.mem_append_left _ member)⟩
    have written := ItemText.modulus (inductionHypothesis front) (numberText_toString small) positive
    rwa [text_concat, String.toList_append, String.toList_append, List.append_assoc]

theorem expressionText_text (sound : expression.WellFormed) :
    ExpressionText expression.text.toList expression := by
  obtain ⟨first, more⟩ := expression
  obtain ⟨head, tail⟩ := List.forall_mem_cons.mp sound
  induction more generalizing first with
  | nil =>
    have alone : FieldExpression.text ⟨first, []⟩ = first.text := String.intercalate_singleton
    rw [alone]
    exact .single (itemText_text head)
  | cons second rest inductionHypothesis =>
    obtain ⟨next, others⟩ := List.forall_mem_cons.mp tail
    have comma : FieldExpression.text ⟨first, second :: rest⟩ =
        first.text ++ "," ++ FieldExpression.text ⟨second, rest⟩ := String.intercalate_cons_cons
    have written :=
      ExpressionText.more (itemText_text head) (inductionHypothesis second tail next others)
    rwa [comma, String.toList_append, String.toList_append, List.append_assoc]

/-! ### Reading what was printed -/

/-- The expressions that are read from their own texts are the well-formed ones. -/
theorem read_text_eq_ok_iff :
    read expression.text = .ok expression ↔ expression.WellFormed := by
  rw [read_eq_ok_iff]
  exact ⟨ExpressionText.wellFormed, expressionText_text⟩

theorem wellFormed_of_read {text : String} (found : read text = .ok expression) :
    expression.WellFormed := ((read_eq_ok_iff text).mp found).wellFormed

/-- Whatever is read from a text is read again from its own text, and texts that are read have the
same printed text if and only if they mean the same expression. -/
theorem reads_own_text {text : String} (found : read text = .ok expression) :
    read expression.text = .ok expression ∧
      ∀ other rest, read other = .ok rest → (rest.text = expression.text ↔ rest = expression) := by
  have again := read_text_eq_ok_iff.mpr (wellFormed_of_read found)
  refine ⟨again, fun other rest reading => ⟨fun same => ?_, congrArg FieldExpression.text⟩⟩
  have other_again := read_text_eq_ok_iff.mpr (wellFormed_of_read reading)
  rw [same, again] at other_again
  exact (Except.ok.inj other_again).symm

theorem reads_own_text_trimmed :
    read " 1-10/02 ,+30" = .ok ⟨⟨.between 1 10, [2]⟩, [⟨.exactly 30, []⟩]⟩ ∧
      read "1-10/2,30" = .ok ⟨⟨.between 1 10, [2]⟩, [⟨.exactly 30, []⟩]⟩ ∧
      ∀ other rest, read other = .ok rest →
        (rest.text = "1-10/2,30" ↔ rest = ⟨⟨.between 1 10, [2]⟩, [⟨.exactly 30, []⟩]⟩) := by
  have found : read " 1-10/02 ,+30" = .ok ⟨⟨.between 1 10, [2]⟩, [⟨.exactly 30, []⟩]⟩ := by decide
  have printed : FieldExpression.text ⟨⟨.between 1 10, [2]⟩, [⟨.exactly 30, []⟩]⟩ = "1-10/2,30" := by
    decide
  have own := reads_own_text found
  rw [printed] at own
  exact ⟨found, own⟩

end FieldExpression

end TaskAutomation
