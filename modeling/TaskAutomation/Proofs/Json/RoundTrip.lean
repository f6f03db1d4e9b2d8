import TaskAutomation.Proofs.Json.Text
import TaskAutomation.Proofs.Json.Valid

/-!
This file proves that the text of a value is read as the value with every number as it is read
again. The induction is on the value; it carries any text behind the value that does not go on with
a number, and it needs at most as many steps of the reader as there are characters, since each step
takes at least one.
-/

namespace TaskAutomation.Json

/-! ### The first character -/

/-- A text that can start a value in a list: no blank stands in front of it, and the list does not
end there. -/
def StartsValue (text : List Char) : Prop :=
  ∃ c rest, text = c :: rest ∧ isSpace c = false ∧ c ≠ ']'

theorem StartsValue.append {text : List Char} (starts : StartsValue text) (rest : List Char) :
    StartsValue (text ++ rest) := by
  obtain ⟨c, more, rfl, blank, opens⟩ := starts
  exact ⟨c, more ++ rest, rfl, blank, opens⟩

theorem startsValue_digit {text : List Char} (starts : startsWithDigit text = true) :
    StartsValue text := by
  cases text with
  | nil => cases starts
  | cons c rest =>
    refine ⟨c, rest, rfl, isSpace_of_isDigit starts, ?_⟩
    rintro rfl
    cases starts

theorem startsValue_print {json : Json} (valid : json.Valid) : StartsValue json.print := by
  cases json with
  | null => exact ⟨'n', ['u', 'l', 'l'], rfl, rfl, by decide⟩
  | bool value =>
    cases value with
    | true => exact ⟨'t', ['r', 'u', 'e'], rfl, rfl, by decide⟩
    | false => exact ⟨'f', ['a', 'l', 's', 'e'], rfl, rfl, by decide⟩
  | integer n =>
    rw [print, printInteger]
    split
    · exact ⟨'-', Nat.toDigits 10 n.natAbs, rfl, rfl, by decide⟩
    · have starts := (leads_toDigits n.natAbs).startsWithDigit []
      rw [List.append_nil] at starts
      exact startsValue_digit starts
  | double d =>
    obtain ⟨c, rest, text, minus | digit⟩ := text_starts valid
    · rw [print, text, minus]
      exact ⟨'-', rest, rfl, rfl, by decide⟩
    · rw [print, text]
      exact startsValue_digit digit
  | string s => exact ⟨'"', s.toList.flatMap escapeChar ++ ['"'], rfl, rfl, by decide⟩
  | list items =>
    cases items with
    | nil => exact ⟨'[', [']'], rfl, rfl, by decide⟩
    | cons item rest => exact ⟨'[', item.print ++ printItems rest, rfl, rfl, by decide⟩
  | record fields =>
    cases fields with
    | nil => exact ⟨'\x7b', ['\x7d'], rfl, rfl, by decide⟩
    | cons field rest => exact ⟨'\x7b', _, rfl, rfl, by decide⟩

/-! ### Steps of the reader -/

theorem endsNumber_cons {c : Char} (rest : List Char) (digit : c.isDigit = false) (point : c ≠ '.')
    (small : c ≠ 'e') (large : c ≠ 'E') : EndsNumber (c :: rest) := by
  intro d after same
  rw [← (List.cons.inj same).1]
  exact ⟨digit, point, small, large⟩

theorem endsNumber_printItems (items : List Json) (rest : List Char) :
    EndsNumber (printItems items ++ rest) := by
  cases items with
  | nil => exact endsNumber_cons rest rfl (by decide) (by decide) (by decide)
  | cons item more => exact endsNumber_cons _ rfl (by decide) (by decide) (by decide)

theorem endsNumber_printFields (fields : List (String × Json)) (rest : List Char) :
    EndsNumber (printFields fields ++ rest) := by
  cases fields with
  | nil => exact endsNumber_cons rest rfl (by decide) (by decide) (by decide)
  | cons field more => exact endsNumber_cons _ rfl (by decide) (by decide) (by decide)

theorem value_printText (text : String) (fuel levels : Nat) (rest : List Char) :
    value (fuel + 1) levels (printText text ++ rest) = .ok (string text, rest) := by
  have read := textBody_printText text rest
  rw [printText, List.cons_append, List.cons_append, List.append_assoc, value]
  show (textBody (text.toList.flatMap escapeChar ++ '"' :: rest)).bind _ = _
  rw [read]
  rfl

theorem value_printInteger {n : Int} (valid : (integer n).Valid) (fuel levels : Nat)
    {rest : List Char} (ends : EndsNumber rest) :
    value (fuel + 1) levels (printInteger n ++ rest) = .ok (integer n, rest) := by
  obtain ⟨least, most⟩ : -(Word.size64 / 2 : Int) ≤ n ∧ n < Word.size64 := valid
  have half : (Word.size64 : Int) / 2 = (Word.size64 / 2 : Nat) := rfl
  unfold printInteger
  split
  · next below =>
    have read := number_toDigits_neg ends n.natAbs (by omega) (by omega)
    rw [List.append_assoc, List.singleton_append, value_of_minus, read]
    congr 3
    omega
  · next above =>
    have read := number_toDigits ends n.natAbs (by omega)
    have starts := (leads_toDigits n.natAbs).startsWithDigit rest
    rw [List.nil_append, value_of_digit _ _ starts, read]
    congr 3
    omega

/-- The first item of a list and those behind it. -/
theorem value_list {first : List Char} (starts : StartsValue first) (fuel levels : Nat) :
    value (fuel + 1) (levels + 1) ('[' :: first) =
      (value fuel levels first).bind fun item =>
        (moreItems fuel levels item.2).bind fun more => .ok (list (item.1 :: more.1), more.2) := by
  obtain ⟨c, rest, rfl, blank, opens⟩ := starts
  have bracket : isSpace '[' = false := rfl
  have deeper : ¬ levels + 1 = 0 := Nat.succ_ne_zero levels
  rw [value]
  simp only [skipSpace_cons bracket, skipSpace_cons blank, Char.reduceEq, if_false, if_true, deeper]
  split
  · next same => exact absurd (List.cons.inj same).1 opens
  · next same => cases same
  · rfl

theorem moreItems_cons {next : List Char} (starts : StartsValue next) (fuel levels : Nat) :
    moreItems (fuel + 1) levels (',' :: next) =
      (value fuel levels next).bind fun item =>
        (moreItems fuel levels item.2).bind fun more => .ok (item.1 :: more.1, more.2) := by
  obtain ⟨c, rest, rfl, blank, opens⟩ := starts
  have comma : isSpace ',' = false := rfl
  rw [moreItems]
  simp only [skipSpace_cons comma, skipSpace_cons blank]
  split
  · next same => cases same
  · next same => exact absurd (List.cons.inj same).1 opens
  · rfl

/-- The first field of a record and those behind it. -/
theorem value_record (name : List Char) (fuel levels : Nat) :
    value (fuel + 1) (levels + 1) ('\x7b' :: '"' :: name) =
      (field fuel levels name).bind fun first =>
        (moreFields fuel levels first.2).bind fun more =>
          .ok (record (first.1 :: more.1), more.2) := by
  rw [value]
  rfl

theorem moreFields_cons (name : List Char) (fuel levels : Nat) :
    moreFields (fuel + 1) levels (',' :: '"' :: name) =
      (field fuel levels name).bind fun first =>
        (moreFields fuel levels first.2).bind fun more => .ok (first.1 :: more.1, more.2) := by
  rw [moreFields]
  rfl

theorem field_printText (name : String) (fuel levels : Nat) (rest : List Char) :
    field (fuel + 1) levels (name.toList.flatMap escapeChar ++ '"' :: ':' :: rest) =
      (value fuel levels rest).bind fun read => .ok ((name, read.1), read.2) := by
  rw [field, textBody_printText]
  rfl

/-! ### Whole values -/

/-- A field as it is written, taken apart behind the opening quote of its name. -/
theorem printText_append (name : String) (rest : List Char) :
    printText name ++ rest = '"' :: (name.toList.flatMap escapeChar ++ '"' :: rest) := by
  rw [printText, List.cons_append, List.cons_append, List.append_assoc]
  rfl

/-- A field takes one more step than its value, and its name makes up for that. -/
theorem field_print {name : String} {json : Json} {fields : List (String × Json)}
    {fuel levels : Nat}
    (enough : (printText name ++ ':' :: (json.print ++ printFields fields)).length < fuel)
    {rest : List Char}
    (reads : ∀ {fuel}, json.print.length < fuel →
      value fuel levels (json.print ++ rest) = .ok (json.reread, rest)) :
    field fuel levels (name.toList.flatMap escapeChar ++ '"' :: ':' :: (json.print ++ rest)) =
        .ok ((name, json.reread), rest) ∧
      (printFields fields).length < fuel := by
  rw [List.length_append, List.length_cons, List.length_append] at enough
  obtain ⟨steps, rfl⟩ : ∃ steps, fuel = steps + 1 := ⟨fuel - 1, by omega⟩
  refine ⟨?_, by omega⟩
  rw [field_printText, reads (by omega)]
  rfl

mutual

/-- The text of a value is read as the value with its numbers read again, whatever stands behind
it. -/
theorem value_print : ∀ {json : Json}, json.Valid → ∀ {fuel levels : Nat} {rest : List Char},
    json.print.length < fuel → json.depth ≤ levels → EndsNumber rest →
    value fuel levels (json.print ++ rest) = .ok (json.reread, rest)
  | _, _, 0, _, _, enough, _, _ => absurd enough (Nat.not_lt_zero _)
  | null, _, fuel + 1, _, _, _, _, _ => by
    rw [print, List.cons_append, value]
    rfl
  | bool true, _, fuel + 1, _, _, _, _, _ => by
    rw [print, List.cons_append, value]
    rfl
  | bool false, _, fuel + 1, _, _, _, _, _ => by
    rw [print, List.cons_append, value]
    rfl
  | integer _, valid, fuel + 1, levels, _, _, _, ends => value_printInteger valid fuel levels ends
  | double _, valid, fuel + 1, levels, rest, _, _, ends =>
    (value_reread valid).2 fuel levels rest ends
  | string text, _, fuel + 1, levels, rest, _, _, _ => value_printText text fuel levels rest
  | list _, _, _ + 1, 0, _, _, deep, _ => absurd deep (Nat.not_succ_le_zero _)
  | list [], _, fuel + 1, levels + 1, _, _, _, _ => by
    rw [print, List.cons_append, value]
    rfl
  | list (item :: more), valid, fuel + 1, levels + 1, rest, enough, deep, ends => by
    have deep : max item.depth (depthOfItems more) ≤ levels := Nat.le_of_succ_le_succ deep
    have enough : (item.print ++ printItems more).length < fuel := Nat.lt_of_succ_lt_succ enough
    rw [List.length_append] at enough
    have first := value_print valid.1 (Nat.lt_of_le_of_lt (Nat.le_add_right _ _) enough)
      (Nat.le_trans (Nat.le_max_left _ _) deep) (endsNumber_printItems more rest)
    have others := moreItems_printItems valid.2 (Nat.lt_of_le_of_lt (Nat.le_add_left _ _) enough)
      (Nat.le_trans (Nat.le_max_right _ _) deep) rest
    rw [print, List.cons_append, List.append_assoc,
      value_list ((startsValue_print valid.1).append _), first, Except.bind, others]
    rfl
  | record _, _, _ + 1, 0, _, _, deep, _ => absurd deep (Nat.not_succ_le_zero _)
  | record [], _, fuel + 1, levels + 1, _, _, _, _ => by
    rw [print, List.cons_append, value]
    rfl
  | record ((name, json) :: more), valid, fuel + 1, levels + 1, rest, enough, deep, ends => by
    have deep : max json.depth (depthOfFields more) ≤ levels := Nat.le_of_succ_le_succ deep
    have reads := @value_print json valid.2.1
    obtain ⟨first, left⟩ := field_print (Nat.lt_of_succ_lt_succ enough) fun steps =>
      reads steps (Nat.le_trans (Nat.le_max_left _ _) deep) (endsNumber_printFields more rest)
    have others := moreFields_printFields valid.2.2 left
      (Nat.le_trans (Nat.le_max_right _ _) deep) rest
    rw [print, List.cons_append, List.append_assoc, List.cons_append, List.append_assoc,
      printText_append, value_record, first, Except.bind, others]
    rfl

theorem moreItems_printItems : ∀ {items : List Json}, ValidItems items → ∀ {fuel levels : Nat},
    (printItems items).length < fuel → depthOfItems items ≤ levels → ∀ rest : List Char,
    moreItems fuel levels (printItems items ++ rest) = .ok (rereadItems items, rest)
  | _, _, 0, _, enough, _, _ => absurd enough (Nat.not_lt_zero _)
  | [], _, fuel + 1, _, _, _, _ => by
    rw [printItems, List.cons_append, moreItems]
    rfl
  | item :: more, valid, fuel + 1, levels, enough, deep, rest => by
    have enough : (item.print ++ printItems more).length < fuel := Nat.lt_of_succ_lt_succ enough
    rw [List.length_append] at enough
    have first := value_print valid.1 (Nat.lt_of_le_of_lt (Nat.le_add_right _ _) enough)
      (Nat.le_trans (Nat.le_max_left _ _) deep) (endsNumber_printItems more rest)
    have others := moreItems_printItems valid.2 (Nat.lt_of_le_of_lt (Nat.le_add_left _ _) enough)
      (Nat.le_trans (Nat.le_max_right _ _) deep) rest
    rw [printItems, List.cons_append, List.append_assoc,
      moreItems_cons ((startsValue_print valid.1).append _), first, Except.bind, others]
    rfl

theorem moreFields_printFields : ∀ {fields : List (String × Json)}, ValidFields fields →
    ∀ {fuel levels : Nat}, (printFields fields).length < fuel → depthOfFields fields ≤ levels →
    ∀ rest : List Char,
    moreFields fuel levels (printFields fields ++ rest) = .ok (rereadFields fields, rest)
  | _, _, 0, _, enough, _, _ => absurd enough (Nat.not_lt_zero _)
  | [], _, fuel + 1, _, _, _, _ => by
    rw [printFields, List.cons_append, moreFields]
    rfl
  | (name, json) :: more, valid, fuel + 1, levels, enough, deep, rest => by
    have reads := @value_print json valid.1
    obtain ⟨first, left⟩ := field_print (Nat.lt_of_succ_lt_succ enough) fun steps =>
      reads steps (Nat.le_trans (Nat.le_max_left _ _) deep) (endsNumber_printFields more rest)
    have others := moreFields_printFields valid.2 left
      (Nat.le_trans (Nat.le_max_right _ _) deep) rest
    rw [printFields, List.cons_append, List.append_assoc, List.cons_append, List.append_assoc,
      printText_append, moreFields_cons, first, Except.bind, others]
    rfl

end

/-- The text of a value is read as the value with its numbers read again. -/
theorem parse_compact {json : Json} (valid : json.Valid) (deep : json.depth ≤ maxDepth) :
    parse json.compact = .ok json.reread := by
  have enough : json.print.length < 2 * json.print.length + 2 := by omega
  have read := value_print valid enough deep endsNumber_nil
  rw [List.append_nil] at read
  rw [parse, readAll, compact, String.toList_ofList, read]
  show Except.ok json.reread.normal = _
  rw [normal_eq_self valid.reread]

end TaskAutomation.Json
