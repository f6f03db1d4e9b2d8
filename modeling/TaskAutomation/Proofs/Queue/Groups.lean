import TaskAutomation.Proofs.Queue.KeptRow

/-!
This file proves that a table counts its rows right. Rows are first put into groups by the name of
their state, one group a name, and the groups are then added up. The number that the groups have for
a name is followed through both steps.
-/

namespace TaskAutomation

namespace TableQueue

/-- The number that some groups have for a name. -/
def tally (groups : List (String × Nat)) (name : String) : Nat :=
  (groups.map fun group => if group.1 = name then group.2 else 0).sum

theorem tally_cons (group : String × Nat) (groups : List (String × Nat)) (name : String) :
    tally (group :: groups) name =
      (if group.1 = name then group.2 else 0) + tally groups name := rfl

/-- Counts a row into the group of a name. -/
def intoGroup (groups : List (String × Nat)) (name : String) : List (String × Nat) :=
  if groups.any fun group => group.1 == name then
    groups.map fun group => if group.1 == name then (name, group.2 + 1) else group
  else
    groups.takeWhile (fun group => group.1 < name) ++
      (name, 1) :: groups.dropWhile fun group => group.1 < name

/-- The groups are those of different names. -/
def Grouped (groups : List (String × Nat)) : Prop := (groups.map Prod.fst).Nodup

theorem any_name_iff (groups : List (String × Nat)) (name : String) :
    (groups.any fun group => group.1 == name) = true ↔ name ∈ groups.map Prod.fst := by
  simp [List.any_eq_true, List.mem_map]

/-- The groups with the one of a name counted up. -/
theorem tally_countUp {groups : List (String × Nat)} (grouped : Grouped groups) {name : String}
    (present : name ∈ groups.map Prod.fst) (other : String) :
    tally (groups.map fun group => if group.1 == name then (name, group.2 + 1) else group) other =
      tally groups other + if name = other then 1 else 0 := by
  induction groups with
  | nil => cases present
  | cons group rest inductionHypothesis =>
    obtain ⟨elsewhere, grouped⟩ := List.nodup_cons.mp grouped
    rw [List.map_cons, tally_cons, tally_cons]
    by_cases same : group.1 = name
    · -- The name occurs once, so the rest of the groups stays as it is.
      have rest_same : (rest.map fun group =>
          if group.1 == name then (name, group.2 + 1) else group) = rest := by
        refine (List.map_congr_left fun further member => ?_).trans (List.map_id _)
        have different : ¬ (further.1 == name) = true := fun equal =>
          elsewhere (List.mem_map.mpr ⟨further, member, (eq_of_beq equal).trans same.symm⟩)
        exact if_neg different
      rw [rest_same, if_pos (beq_iff_eq.mpr same), same]
      by_cases chosen : name = other
      · rw [if_pos chosen, if_pos chosen, if_pos chosen]
        omega
      · rw [if_neg chosen, if_neg chosen, if_neg chosen, Nat.add_zero]
    · have further : name ∈ rest.map Prod.fst :=
        (List.mem_cons.mp present).resolve_left fun equal => same equal.symm
      have unequal : ¬ (group.1 == name) = true := fun equal => same (eq_of_beq equal)
      rw [if_neg unequal, inductionHypothesis grouped further, Nat.add_assoc]

theorem map_fst_countUp (groups : List (String × Nat)) (name : String) :
    (groups.map fun group => if group.1 == name then (name, group.2 + 1) else group).map Prod.fst =
      groups.map Prod.fst := by
  rw [List.map_map]
  refine List.map_congr_left fun group _ => ?_
  show (if group.1 == name then (name, group.2 + 1) else group).1 = group.1
  split
  · next same => exact (eq_of_beq same).symm
  · rfl

theorem intoGroup_perm (groups : List (String × Nat)) (name : String) :
    (groups.takeWhile (fun group => group.1 < name) ++
        (name, 1) :: groups.dropWhile fun group => group.1 < name).Perm ((name, 1) :: groups) := by
  refine List.perm_middle.trans (List.Perm.cons _ ?_)
  rw [List.takeWhile_append_dropWhile]

theorem mem_map_fst_intoGroup (groups : List (String × Nat)) (name other : String) :
    other ∈ (intoGroup groups name).map Prod.fst ↔ other = name ∨ other ∈ groups.map Prod.fst := by
  unfold intoGroup
  split
  · next found =>
    rw [map_fst_countUp]
    refine ⟨Or.inr, ?_⟩
    rintro (rfl | member)
    · exact (any_name_iff groups other).mp found
    · exact member
  · rw [((intoGroup_perm groups name).map Prod.fst).mem_iff, List.map_cons, List.mem_cons]

theorem grouped_intoGroup {groups : List (String × Nat)} (grouped : Grouped groups)
    (name : String) : Grouped (intoGroup groups name) := by
  unfold intoGroup Grouped
  split
  · rw [map_fst_countUp]
    exact grouped
  · next missing =>
    rw [((intoGroup_perm groups name).map Prod.fst).nodup_iff, List.map_cons, List.nodup_cons,
      ← any_name_iff]
    exact ⟨missing, grouped⟩

theorem tally_intoGroup {groups : List (String × Nat)} (grouped : Grouped groups)
    (name other : String) :
    tally (intoGroup groups name) other = tally groups other + if name = other then 1 else 0 := by
  unfold intoGroup
  split
  · next found => exact tally_countUp grouped ((any_name_iff groups name).mp found) other
  · rw [tally, ((intoGroup_perm groups name).map fun group : String × Nat =>
      if group.1 = other then group.2 else 0).sum_nat, Nat.add_comm]
    rfl

/-! ### Rows -/

/-- Counts a row into the group of its state. -/
def groupRow (groups : List (String × Nat)) (row : Row) : List (String × Nat) :=
  match row.status with
  | .text name => intoGroup groups name
  | _ => groups

theorem statusGroups_eq (rows : List Row) : statusGroups rows = rows.foldl groupRow [] := rfl

/-- The rows that are counted into some groups add to each name the number of rows that have it for
their state, and no other names turn up. -/
theorem foldl_groupRow (rows : List Row) {groups : List (String × Nat)} (grouped : Grouped groups) :
    (∀ name, tally (rows.foldl groupRow groups) name =
        tally groups name + rows.countP fun row => row.status = .text name) ∧
      ∀ name ∈ (rows.foldl groupRow groups).map Prod.fst,
        name ∈ groups.map Prod.fst ∨ ∃ row ∈ rows, row.status = .text name := by
  induction rows generalizing groups with
  | nil => exact ⟨fun name => rfl, fun name member => Or.inl member⟩
  | cons row rest inductionHypothesis =>
    have next : Grouped (groupRow groups row) := by
      unfold groupRow
      split
      · exact grouped_intoGroup grouped _
      · exact grouped
    obtain ⟨numbers, names⟩ := inductionHypothesis next
    refine ⟨fun name => ?_, fun name member => ?_⟩
    · rw [List.foldl_cons, numbers, List.countP_cons]
      unfold groupRow
      split
      · next own state =>
        rw [tally_intoGroup grouped, state]
        simp only [decide_eq_true_eq, Cell.text.injEq]
        omega
      · next other =>
        have unequal : ¬ decide (row.status = .text name) = true := fun same =>
          other name (of_decide_eq_true same)
        rw [if_neg unequal, Nat.add_zero]
    · obtain before | ⟨further, inside, state⟩ := names name member
      · unfold groupRow at before
        split at before
        · next own state =>
          obtain rfl | before := (mem_map_fst_intoGroup groups own name).mp before
          · exact Or.inr ⟨row, List.mem_cons_self, state⟩
          · exact Or.inl before
        · exact Or.inl before
      · exact Or.inr ⟨further, List.mem_cons_of_mem row inside, state⟩

/-- Groups with the names of states add up to their numbers. -/
theorem foldlM_add {groups : List (String × Nat)}
    (named : ∀ name ∈ groups.map Prod.fst, ∃ status : TaskStatus, name = status.name)
    (start : TaskCounts) :
    ∃ counts, groups.foldlM (fun counts group =>
        match TaskStatus.ofName? group.1 with
        | some status => .ok (counts.add status group.2)
        | none => .error (StoreFault.undecodable (TaskStatus.unknownMessage group.1))) start =
          Except.ok counts ∧
      ∀ status, counts.of status = start.of status + tally groups status.name := by
  induction groups generalizing start with
  | nil => exact ⟨start, rfl, fun status => rfl⟩
  | cons group rest inductionHypothesis =>
    obtain ⟨own, same⟩ := named group.1 List.mem_cons_self
    obtain ⟨counts, added, numbers⟩ :=
      inductionHypothesis (fun name member => named name (List.mem_cons_of_mem _ member))
        (start.add own group.2)
    refine ⟨counts, ?_, fun status => ?_⟩
    · rw [List.foldlM_cons, same, TaskStatus.ofName?_name]
      exact added
    · rw [numbers, tally_cons, TaskCounts.of_add, same]
      simp only [TaskStatus.name_injective.eq_iff]
      omega

/-- A table of rows that the queue itself has written counts its rows by their states. -/
theorem counts_eq_ok {table : TableQueue} (kept : ∀ row ∈ table.rows, row.Kept) :
    ∃ counts, table.counts = .ok counts ∧ ∀ status, counts.of status =
      (table.rows.map StoredTask.row).countP fun record => record.status? = some status := by
  obtain ⟨numbers, names⟩ := foldl_groupRow table.rows (show Grouped [] from List.nodup_nil)
  have named : ∀ name ∈ (statusGroups table.rows).map Prod.fst,
      ∃ status : TaskStatus, name = status.name := fun name member => by
    obtain empty | ⟨row, inside, state⟩ := names name member
    · cases empty
    · obtain ⟨status, text⟩ := (kept row inside).status
      exact ⟨status, Cell.text.inj (state.symm.trans text)⟩
  obtain ⟨counts, added, total⟩ := foldlM_add named {}
  refine ⟨counts, added, fun status => ?_⟩
  have zero : ({} : TaskCounts).of status = 0 := by cases status <;> rfl
  rw [total, zero, Nat.zero_add, statusGroups_eq, numbers, List.countP_map]
  refine (Nat.zero_add _).trans (List.countP_congr fun row _ => ?_)
  show TableQueue.hasStatus row status = true ↔ _
  rw [Row.hasStatus_iff, Function.comp, decide_eq_true_eq]

end TableQueue

end TaskAutomation
