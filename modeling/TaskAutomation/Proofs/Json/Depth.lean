import TaskAutomation.Proofs.Json.RoundTrip

/-!
This file proves the other half of what the reader does with the text of a value: a value that is
nested deeper than the reader goes is not read. Everything that is written in front of the bracket
that opens one level too many reads, so the reader gets there, and that is where it gives up.
-/

namespace TaskAutomation.Json

/-- The reader gives up because of the nesting. -/
def TooDeep {α : Type} (scan : Scan α) : Prop := ∃ left, scan = .error ⟨.tooDeep, left⟩

variable {α β γ : Type}

theorem TooDeep.bind {scan : Scan α} (deep : TooDeep scan) (next : α → Scan β) :
    TooDeep (scan.bind next) := by
  obtain ⟨left, rfl⟩ := deep
  exact ⟨left, rfl⟩

/-- The reader gives up on the first of two parts, or on the second behind the first. -/
theorem TooDeep.either {scan : Scan α} {next : α → Scan β} {join : α → β → Scan γ}
    (deep : TooDeep scan ∨ ∃ read, scan = .ok read ∧ TooDeep (next read)) :
    TooDeep (scan.bind fun first => (next first).bind (join first)) := by
  obtain first | ⟨read, rfl, second⟩ := deep
  · exact first.bind _
  · exact second.bind (join read)

theorem tooDeep_list (fuel : Nat) (rest : List Char) :
    TooDeep (value (fuel + 1) 0 ('[' :: rest)) :=
  ⟨_, by rw [value]; rfl⟩

theorem tooDeep_record (fuel : Nat) (rest : List Char) :
    TooDeep (value (fuel + 1) 0 ('\x7b' :: rest)) :=
  ⟨_, by rw [value]; rfl⟩

/-- Items give up on the first of them, or the first one reads and those behind it give up. -/
theorem tooDeep_items {item : Json} {items : List Json} {fuel levels : Nat} (valid : item.Valid)
    (enough : (item.print ++ printItems items).length < fuel) (rest : List Char)
    (unread : item.print.length < fuel → levels < item.depth →
      TooDeep (value fuel levels (item.print ++ (printItems items ++ rest))))
    (others : (printItems items).length < fuel → levels < depthOfItems items →
      TooDeep (moreItems fuel levels (printItems items ++ rest)))
    (deep : levels < max item.depth (depthOfItems items)) :
    TooDeep (value fuel levels (item.print ++ (printItems items ++ rest))) ∨
      ∃ read, value fuel levels (item.print ++ (printItems items ++ rest)) = .ok read ∧
        TooDeep (moreItems fuel levels read.2) := by
  rw [List.length_append] at enough
  have room : item.print.length < fuel := by omega
  by_cases first : levels < item.depth
  · exact Or.inl (unread room first)
  · have reads := value_print valid room (Nat.le_of_not_lt first)
      (endsNumber_printItems items rest)
    exact Or.inr ⟨_, reads, others (by omega) (by omega)⟩

/-- Fields give up on the first of them, or the first one reads and those behind it give up. -/
theorem tooDeep_fields {name : String} {json : Json} {fields : List (String × Json)}
    {fuel levels : Nat} (valid : json.Valid)
    (enough : (printText name ++ ':' :: (json.print ++ printFields fields)).length < fuel)
    (rest : List Char)
    (unread : ∀ {fuel}, json.print.length < fuel → levels < json.depth →
      TooDeep (value fuel levels (json.print ++ (printFields fields ++ rest))))
    (others : (printFields fields).length < fuel → levels < depthOfFields fields →
      TooDeep (moreFields fuel levels (printFields fields ++ rest)))
    (deep : levels < max json.depth (depthOfFields fields)) :
    TooDeep (field fuel levels
        (name.toList.flatMap escapeChar ++
          '"' :: ':' :: (json.print ++ (printFields fields ++ rest)))) ∨
      ∃ read, field fuel levels (name.toList.flatMap escapeChar ++
          '"' :: ':' :: (json.print ++ (printFields fields ++ rest))) = .ok read ∧
        TooDeep (moreFields fuel levels read.2) := by
  by_cases first : levels < json.depth
  · rw [List.length_append, List.length_cons, List.length_append] at enough
    obtain ⟨steps, rfl⟩ : ∃ steps, fuel = steps + 1 := ⟨fuel - 1, by omega⟩
    rw [field_printText]
    exact Or.inl ((unread (by omega) first).bind _)
  · obtain ⟨reads, left⟩ := field_print enough fun steps =>
      value_print valid steps (Nat.le_of_not_lt first) (endsNumber_printFields fields rest)
    exact Or.inr ⟨_, reads, others left (by omega)⟩

mutual

/-- A value that is nested deeper than the levels that are left is not read, whatever stands behind
it. -/
theorem tooDeep_print : ∀ {json : Json}, json.Valid → ∀ {fuel levels : Nat},
    json.print.length < fuel → levels < json.depth → ∀ rest : List Char,
    TooDeep (value fuel levels (json.print ++ rest))
  | _, _, 0, _, enough, _, _ => absurd enough (Nat.not_lt_zero _)
  | null, _, _, _, _, deep, _ => absurd deep (Nat.not_lt_zero _)
  | bool _, _, _, _, _, deep, _ => absurd deep (Nat.not_lt_zero _)
  | integer _, _, _, _, _, deep, _ => absurd deep (Nat.not_lt_zero _)
  | double _, _, _, _, _, deep, _ => absurd deep (Nat.not_lt_zero _)
  | string _, _, _, _, _, deep, _ => absurd deep (Nat.not_lt_zero _)
  | list [], _, fuel + 1, 0, _, _, _ => tooDeep_list fuel _
  | list (_ :: _), _, fuel + 1, 0, _, _, _ => tooDeep_list fuel _
  | list [], _, _ + 1, _ + 1, _, deep, _ =>
    absurd (Nat.lt_of_succ_lt_succ deep) (Nat.not_lt_zero _)
  | list (item :: more), valid, fuel + 1, levels + 1, enough, deep, rest => by
    rw [print, List.cons_append, List.append_assoc,
      value_list ((startsValue_print valid.1).append _)]
    exact .either (tooDeep_items valid.1 (Nat.lt_of_succ_lt_succ enough) rest
      (fun steps first => tooDeep_print valid.1 steps first _)
      (fun left later => tooDeep_printItems valid.2 left later rest)
      (Nat.lt_of_succ_lt_succ deep))
  | record [], _, fuel + 1, 0, _, _, _ => tooDeep_record fuel _
  | record (_ :: _), _, fuel + 1, 0, _, _, _ => tooDeep_record fuel _
  | record [], _, _ + 1, _ + 1, _, deep, _ =>
    absurd (Nat.lt_of_succ_lt_succ deep) (Nat.not_lt_zero _)
  | record ((name, json) :: more), valid, fuel + 1, levels + 1, enough, deep, rest => by
    rw [print, List.cons_append, List.append_assoc, List.cons_append, List.append_assoc,
      printText_append, value_record]
    exact .either (tooDeep_fields valid.2.1 (Nat.lt_of_succ_lt_succ enough) rest
      (fun steps first => tooDeep_print valid.2.1 steps first _)
      (fun left later => tooDeep_printFields valid.2.2 left later rest)
      (Nat.lt_of_succ_lt_succ deep))

theorem tooDeep_printItems : ∀ {items : List Json}, ValidItems items → ∀ {fuel levels : Nat},
    (printItems items).length < fuel → levels < depthOfItems items → ∀ rest : List Char,
    TooDeep (moreItems fuel levels (printItems items ++ rest))
  | _, _, 0, _, enough, _, _ => absurd enough (Nat.not_lt_zero _)
  | [], _, _ + 1, _, _, deep, _ => absurd deep (Nat.not_lt_zero _)
  | item :: more, valid, fuel + 1, levels, enough, deep, rest => by
    rw [printItems, List.cons_append, List.append_assoc,
      moreItems_cons ((startsValue_print valid.1).append _)]
    exact .either (tooDeep_items valid.1 (Nat.lt_of_succ_lt_succ enough) rest
      (fun steps first => tooDeep_print valid.1 steps first _)
      (fun left later => tooDeep_printItems valid.2 left later rest) deep)

theorem tooDeep_printFields : ∀ {fields : List (String × Json)}, ValidFields fields →
    ∀ {fuel levels : Nat}, (printFields fields).length < fuel → levels < depthOfFields fields →
    ∀ rest : List Char, TooDeep (moreFields fuel levels (printFields fields ++ rest))
  | _, _, 0, _, enough, _, _ => absurd enough (Nat.not_lt_zero _)
  | [], _, _ + 1, _, _, deep, _ => absurd deep (Nat.not_lt_zero _)
  | (name, json) :: more, valid, fuel + 1, levels, enough, deep, rest => by
    rw [printFields, List.cons_append, List.append_assoc, List.cons_append, List.append_assoc,
      printText_append, moreFields_cons]
    exact .either (tooDeep_fields valid.1 (Nat.lt_of_succ_lt_succ enough) rest
      (fun steps first => tooDeep_print valid.1 steps first _)
      (fun left later => tooDeep_printFields valid.2 left later rest) deep)

end

/-- The text of a value reads if and only if the value is nested no deeper than the reader goes. -/
theorem exists_parse_compact {json : Json} (valid : json.Valid) :
    (∃ back, parse json.compact = .ok back) ↔ json.depth ≤ maxDepth := by
  refine ⟨fun ⟨back, read⟩ => ?_, fun shallow => ⟨_, parse_compact valid shallow⟩⟩
  by_contra deep
  have enough : json.print.length < 2 * json.print.length + 2 := by omega
  obtain ⟨left, fault⟩ := tooDeep_print valid enough (Nat.lt_of_not_le deep) []
  rw [List.append_nil] at fault
  rw [parse, readAll, compact, String.toList_ofList, fault] at read
  cases read

/-! ### Lists in lists -/

theorem depth_nested (levels : Nat) (json : Json) :
    (nested levels json).depth = levels + json.depth := by
  induction levels with
  | zero => exact (Nat.zero_add _).symm
  | succ levels inductionHypothesis =>
    show max (nested levels json).depth 0 + 1 = _
    rw [inductionHypothesis]
    omega

theorem valid_nested {json : Json} (valid : json.Valid) (levels : Nat) :
    (nested levels json).Valid := by
  induction levels with
  | zero => exact valid
  | succ levels inductionHypothesis => exact ⟨inductionHypothesis, trivial⟩

end TaskAutomation.Json
