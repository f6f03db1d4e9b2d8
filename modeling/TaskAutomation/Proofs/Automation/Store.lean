import TaskAutomation.Automation.Store
import TaskAutomation.Proofs.Id.Text

/-!
This file proves what saving does to the store of an automation, and in which order the steps of a
trigger are taken. A trigger that is saved is found again and all others are found as before, and the
triggers ascend by their identifiers. The steps of a trigger ascend by their priority numbers, and
those with the same number keep the order in which they are stored, that is in which they were added:
a step that is saved again keeps its place.
-/

namespace TaskAutomation

/-! ### Triggers -/

namespace AutomateStore

variable (store : AutomateStore) (saved : Trigger)

theorem find?_insertTrigger_self (triggers : List Trigger) :
    (insertTrigger saved triggers).find? (fun trigger => trigger.id = saved.id) = some saved := by
  induction triggers with
  | nil => exact List.find?_cons_of_pos (decide_eq_true rfl)
  | cons other rest inductionHypothesis =>
    unfold insertTrigger
    split
    · exact List.find?_cons_of_pos (decide_eq_true rfl)
    · next different =>
      split
      · exact List.find?_cons_of_pos (decide_eq_true rfl)
      · rw [List.find?_cons_of_neg (by simpa using Ne.symm different)]
        exact inductionHypothesis

/-- All triggers with other identifiers stay as and where they are. -/
theorem filter_insertTrigger (triggers : List Trigger) :
    (insertTrigger saved triggers).filter (fun trigger => trigger.id ≠ saved.id) =
      triggers.filter fun trigger => trigger.id ≠ saved.id := by
  induction triggers with
  | nil => simp [insertTrigger]
  | cons other rest inductionHypothesis =>
    unfold insertTrigger
    split
    · next same => simp [same]
    · split
      · simp
      · rw [List.filter_cons, List.filter_cons, inductionHypothesis]

theorem trigger?_saveTrigger_self : (store.saveTrigger saved).trigger? saved.id = some saved :=
  find?_insertTrigger_self saved store.triggers

theorem triggers_saveTrigger_ne :
    (store.saveTrigger saved).triggers.filter (fun trigger => trigger.id ≠ saved.id) =
      store.triggers.filter fun trigger => trigger.id ≠ saved.id :=
  filter_insertTrigger saved store.triggers

theorem trigger?_saveTrigger_of_ne {id : TriggerId} (different : id ≠ saved.id) :
    (store.saveTrigger saved).trigger? id = store.trigger? id := by
  have among (triggers : List Trigger) :
      (triggers.filter fun trigger => trigger.id ≠ saved.id).find? (fun trigger => trigger.id = id) =
        triggers.find? fun trigger => trigger.id = id := by
    rw [List.find?_filter]
    refine congrArg (List.find? · triggers) (funext fun trigger => ?_)
    by_cases own : trigger.id = id
    · simp [own, different]
    · simp [own]
  rw [trigger?, trigger?, ← among, triggers_saveTrigger_ne, among]

theorem id_of_trigger? {store : AutomateStore} {id : TriggerId} {trigger : Trigger}
    (found : store.trigger? id = some trigger) : trigger.id = id :=
  of_decide_eq_true (@List.find?_some _ (fun trigger : Trigger => trigger.id = id) _ _ found)

theorem historyOf_appendHistory_of_ne (call : Call) {id : TriggerId} (different : id ≠ call.trigger) :
    (store.appendHistory call).historyOf id = store.historyOf id := by
  simp [appendHistory, historyOf, List.filter_append, different.symm]

theorem historyOf_appendHistory_self (call : Call) :
    (store.appendHistory call).historyOf call.trigger = store.historyOf call.trigger ++ [call] := by
  simp [appendHistory, historyOf, List.filter_append]

theorem trigger?_deleteTrigger_self (id : TriggerId) :
    (store.deleteTrigger id).2.trigger? id = none := by
  unfold deleteTrigger
  split
  · next absent => exact Option.isNone_iff_eq_none.mp absent
  · exact List.find?_eq_none.mpr fun trigger member same =>
      of_decide_eq_true (List.mem_filter.mp member).2 (of_decide_eq_true same)

theorem trigger?_deleteTrigger_of_ne {id other : TriggerId} (different : other ≠ id) :
    (store.deleteTrigger id).2.trigger? other = store.trigger? other := by
  unfold deleteTrigger
  split
  · rfl
  · rw [trigger?, trigger?, List.find?_filter]
    refine congrArg (List.find? · store.triggers) (funext fun trigger => ?_)
    by_cases own : trigger.id = other
    · simp [own, different]
    · simp [own]

/-- With a trigger goes its history, and no other history. -/
theorem historyOf_deleteTrigger (id other : TriggerId) :
    (store.deleteTrigger id).2.historyOf other = store.historyOf other ∨
      other = id ∧ (store.deleteTrigger id).2.historyOf other = [] := by
  unfold deleteTrigger
  split
  · exact Or.inl rfl
  · by_cases same : other = id
    · refine Or.inr ⟨same, List.filter_eq_nil_iff.mpr fun call member own => ?_⟩
      exact of_decide_eq_true (List.mem_filter.mp member).2 ((of_decide_eq_true own).trans same)
    · refine Or.inl ?_
      rw [historyOf, historyOf, List.filter_filter]
      refine List.filter_congr fun call _ => ?_
      by_cases own : call.trigger = other
      · simp [own, same]
      · simp [own]

/-! ### The order of triggers -/

/-- The triggers ascend by their identifiers. -/
def Ascends (triggers : List Trigger) : Prop :=
  triggers.Pairwise fun former latter => former.id.ulid.value < latter.id.ulid.value

theorem mem_insertTrigger {other : Trigger} {triggers : List Trigger}
    (member : other ∈ insertTrigger saved triggers) : other = saved ∨ other ∈ triggers := by
  induction triggers with
  | nil => exact Or.inl (List.mem_singleton.mp member)
  | cons first rest inductionHypothesis =>
    unfold insertTrigger at member
    split at member
    · obtain same | behind := List.mem_cons.mp member
      · exact Or.inl same
      · exact Or.inr (List.mem_cons_of_mem first behind)
    · split at member
      · exact List.mem_cons.mp member
      · obtain rfl | behind := List.mem_cons.mp member
        · exact Or.inr List.mem_cons_self
        · exact (inductionHypothesis behind).imp_right (List.mem_cons_of_mem first)

/-- A trigger that is saved goes to its place. -/
theorem ascends_insertTrigger {triggers : List Trigger} (ascends : Ascends triggers) :
    Ascends (insertTrigger saved triggers) := by
  induction triggers with
  | nil => exact List.pairwise_singleton _ _
  | cons first rest inductionHypothesis =>
    obtain ⟨behind, restAscends⟩ := List.pairwise_cons.mp ascends
    unfold insertTrigger
    split
    · next same => exact List.pairwise_cons.mpr ⟨same ▸ behind, restAscends⟩
    · next different =>
      split
      · next before =>
        have before : saved.id.ulid.value < first.id.ulid.value := of_decide_eq_true before
        refine List.pairwise_cons.mpr ⟨fun other member => ?_, ascends⟩
        obtain rfl | later := List.mem_cons.mp member
        · exact before
        · exact Nat.lt_trans before (behind other later)
      · next notBefore =>
        refine List.pairwise_cons.mpr ⟨fun other member => ?_, inductionHypothesis restAscends⟩
        obtain rfl | later := mem_insertTrigger saved member
        · have least : first.id.ulid.value ≤ other.id.ulid.value :=
            Nat.le_of_not_lt fun less => notBefore (decide_eq_true less)
          exact Nat.lt_of_le_of_ne least fun same => different (Id.eq_of_value_eq same.symm)
        · exact behind other later

/-- In a store whose triggers ascend, each trigger is found by its identifier. -/
theorem trigger?_of_mem {store : AutomateStore} (ascends : Ascends store.triggers)
    {trigger : Trigger} (member : trigger ∈ store.triggers) :
    store.trigger? trigger.id = some trigger := by
  unfold trigger?
  generalize store.triggers = triggers at ascends member
  induction triggers with
  | nil => exact absurd member List.not_mem_nil
  | cons first rest inductionHypothesis =>
    obtain ⟨behind, restAscends⟩ := List.pairwise_cons.mp ascends
    obtain rfl | later := List.mem_cons.mp member
    · exact List.find?_cons_of_pos (decide_eq_true rfl)
    · rw [List.find?_cons_of_neg fun same => ?_]
      · exact inductionHypothesis restAscends later
      · have less := behind trigger later
        rw [of_decide_eq_true same] at less
        exact absurd less (Nat.lt_irrefl _)

/-- A trigger that is found is one of those that ascend, and the others are all that have another
identifier. -/
theorem perm_of_find? {triggers : List Trigger} {id : TriggerId} {held : Trigger}
    (ascends : Ascends triggers)
    (found : triggers.find? (fun trigger => trigger.id = id) = some held) :
    triggers.Perm (held :: triggers.filter fun trigger => trigger.id ≠ id) := by
  induction triggers with
  | nil => cases found
  | cons first rest inductionHypothesis =>
    obtain ⟨behind, restAscends⟩ := List.pairwise_cons.mp ascends
    by_cases own : first.id = id
    · rw [List.find?_cons_of_pos (by simpa using own)] at found
      obtain rfl := Option.some.inj found
      have others : rest.filter (fun trigger => trigger.id ≠ id) = rest := by
        refine List.filter_eq_self.mpr fun other member => decide_eq_true fun same => ?_
        have less := behind other member
        rw [same, own] at less
        exact absurd less (Nat.lt_irrefl _)
      rw [List.filter_cons_of_neg (by simpa using own), others]
    · rw [List.find?_cons_of_neg (by simpa using own)] at found
      rw [List.filter_cons_of_pos (by simpa using own)]
      exact ((inductionHypothesis restAscends found).cons first).trans (.swap ..)

/-- A trigger that is saved stands among those with other identifiers. -/
theorem perm_insertTrigger {triggers : List Trigger} (ascends : Ascends triggers) :
    (insertTrigger saved triggers).Perm
      (saved :: triggers.filter fun trigger => trigger.id ≠ saved.id) := by
  have perm := perm_of_find? (ascends_insertTrigger saved ascends)
    (find?_insertTrigger_self saved triggers)
  rw [filter_insertTrigger] at perm
  exact perm

theorem triggers_deleteTrigger {id : TriggerId} {held : Trigger}
    (found : store.trigger? id = some held) :
    (store.deleteTrigger id).2.triggers = store.triggers.filter fun trigger => trigger.id ≠ id := by
  unfold deleteTrigger
  rw [found]
  rfl

end AutomateStore

/-! ### Steps -/

namespace Step

variable {record : IdKind} {Kind : Type} {steps : List (Step record Kind)}

/-- The steps of a trigger in the order in which they are taken. -/
structure InOrder (steps : List (Step record Kind)) (trigger : TriggerId)
    (taken : List (Step record Kind)) : Prop where
  all : taken.Perm (steps.filter fun step => step.trigger = trigger)
  ascending : taken.Pairwise fun a b => a.priority ≤ b.priority
  /-- Those with the same number keep the order of the list. -/
  stable : ∀ priority, (taken.filter fun step => step.priority = priority) =
    (steps.filter fun step => step.trigger = trigger).filter fun step => step.priority = priority

theorem priority_trans (a b c : Step record Kind) (first : decide (a.priority ≤ b.priority) = true)
    (second : decide (b.priority ≤ c.priority) = true) :
    decide (a.priority ≤ c.priority) = true := by
  simp only [decide_eq_true_eq] at first second ⊢
  exact Int.le_trans first second

theorem priority_total (a b : Step record Kind) :
    (decide (a.priority ≤ b.priority) || decide (b.priority ≤ a.priority)) = true := by
  simp only [Bool.or_eq_true, decide_eq_true_eq]
  exact Int.le_total a.priority b.priority

/-- Steps with the same number ascend already, so sorting keeps them in their order. -/
theorem filter_mergeSort (steps : List (Step record Kind)) (priority : Int) :
    (steps.mergeSort fun a b => a.priority ≤ b.priority).filter
        (fun step => step.priority = priority) =
      steps.filter fun step => step.priority = priority := by
  have ascending : (steps.filter fun step => step.priority = priority).Pairwise fun a b =>
      decide (a.priority ≤ b.priority) = true := by
    refine List.pairwise_of_forall_mem_list fun a first b second => decide_eq_true ?_
    have left := of_decide_eq_true (List.mem_filter.mp first).2
    have right := of_decide_eq_true (List.mem_filter.mp second).2
    exact Int.le_of_eq (left.trans right.symm)
  have kept := (List.sublist_mergeSort priority_trans priority_total ascending
    List.filter_sublist).filter fun step => decide (step.priority = priority)
  simp only [List.filter_filter, Bool.and_self] at kept
  have perm := (List.mergeSort_perm steps fun a b => decide (a.priority ≤ b.priority)).filter
    fun step => decide (step.priority = priority)
  exact (kept.eq_of_length perm.length_eq.symm).symm

theorem inOrder_ofTrigger (steps : List (Step record Kind)) (trigger : TriggerId) :
    InOrder steps trigger (ofTrigger steps trigger) where
  all := List.mergeSort_perm _ _
  ascending := (List.pairwise_mergeSort priority_trans priority_total _).imp of_decide_eq_true
  stable := filter_mergeSort _

/-- A new step goes behind all others, and a step that is saved again keeps its place. -/
theorem ids_upsert (steps : List (Step record Kind)) (step : Step record Kind) :
    (upsert steps step).map Step.id =
      if step.id ∈ steps.map Step.id then steps.map Step.id
      else steps.map Step.id ++ [step.id] := by
  unfold upsert
  by_cases present : step.id ∈ steps.map Step.id
  · have known : (steps.any fun other => other.id = step.id) = true := by
      simpa [List.any_eq_true, List.mem_map] using present
    rw [if_pos known, if_pos present, List.map_map]
    refine List.map_congr_left fun other _ => ?_
    show (if other.id = step.id then step else other).id = other.id
    split
    · next same => exact same.symm
    · rfl
  · have unknown : ¬ (steps.any fun other => other.id = step.id) = true := by
      simpa [List.any_eq_true, List.mem_map] using present
    rw [if_neg unknown, if_neg present, List.map_append]
    rfl

end Step

end TaskAutomation
