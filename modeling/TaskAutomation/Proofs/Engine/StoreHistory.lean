import TaskAutomation.Proofs.Engine.AutomateHost
import Mathlib.Data.List.Basic
import Mathlib.Data.List.Induction

/-!
This file tells what an automation store holds from the calls alone that were made on it. A trigger
is there if it was saved, with what it was saved with last, and has not been deleted since; a step
is there if in addition its trigger was not deleted while it was there itself. The steps of a
trigger are listed by their priority numbers, and those with the same number in the order of the
calls that brought them: a step that is saved again keeps the place that it has, whatever it is
saved with, and one that was taken out and comes back is the last.
-/

namespace TaskAutomation

/-! ### What lasts -/

/-- A call began something that no later call has ended. Whether a call ends it may depend on what
was called before. -/
def Lasts (begins : AutomateRequest → Prop) (ends : List AutomateRequest → AutomateRequest → Prop)
    (calls : List AutomateRequest) : Prop :=
  ∃ before call after, calls = before ++ call :: after ∧ begins call ∧
    ∀ past next rest, after = past ++ next :: rest → ¬ ends (before ++ call :: past) next

section Lasts

variable {begins : AutomateRequest → Prop} {ends : List AutomateRequest → AutomateRequest → Prop}
  {calls : List AutomateRequest} {call : AutomateRequest}

theorem not_lasts_nil : ¬ Lasts begins ends [] := by
  rintro ⟨before, call, after, split, -⟩
  exact absurd split.symm (by simp)

/-- What lasts behind one more call was begun by it or has lasted before and is not ended by it. -/
theorem lasts_append_singleton :
    Lasts begins ends (calls ++ [call]) ↔
      begins call ∨ Lasts begins ends calls ∧ ¬ ends calls call := by
  constructor
  · rintro ⟨before, first, after, split, begun, stays⟩
    obtain rfl | ⟨past, last, rfl⟩ := List.eq_nil_or_concat' after
    · obtain ⟨-, rfl⟩ := List.append_singleton_inj.mp split
      exact Or.inl begun
    · rw [← List.cons_append, ← List.append_assoc] at split
      obtain ⟨rfl, rfl⟩ := List.append_singleton_inj.mp split
      refine Or.inr ⟨⟨before, first, past, rfl, begun, fun early next rest same => ?_⟩, ?_⟩
      · exact stays early next (rest ++ [call]) (by rw [same, List.append_assoc, List.cons_append])
      · exact stays past call [] rfl
  · rintro (begun | ⟨⟨before, first, after, rfl, begun, stays⟩, kept⟩)
    · exact ⟨calls, call, [], rfl, begun, fun past next rest same => absurd same.symm (by simp)⟩
    · refine ⟨before, first, after ++ [call], by simp, begun, fun past next rest same => ?_⟩
      obtain rfl | ⟨middle, last, rfl⟩ := List.eq_nil_or_concat' rest
      · obtain ⟨rfl, rfl⟩ := List.append_singleton_inj.mp same
        exact kept
      · rw [← List.cons_append, ← List.append_assoc] at same
        exact stays past next middle (List.append_singleton_inj.mp same).1

end Lasts

/-! ### Triggers -/

namespace AutomateStore

/-- The store after calls on an empty one. -/
def after (calls : List AutomateRequest) : AutomateStore :=
  calls.foldl (fun store call => (call.onStore store).2) .empty

theorem after_append_singleton (calls : List AutomateRequest) (call : AutomateRequest) :
    after (calls ++ [call]) = (call.onStore (after calls)).2 := by
  rw [after, after, List.foldl_append, List.foldl_cons, List.foldl_nil]

end AutomateStore

namespace Trigger

variable {calls : List AutomateRequest} {call : AutomateRequest} {trigger : Trigger}

/-- The call puts something else in the place of the trigger, or takes it out. -/
def EndedBy (trigger : Trigger) (call : AutomateRequest) : Prop :=
  (∃ other, call = .saveTrigger other ∧ other.id = trigger.id) ∨ call = .deleteTrigger trigger.id

theorem endedBy_saveTrigger {saved : Trigger} :
    trigger.EndedBy (.saveTrigger saved) ↔ trigger.id = saved.id := by
  simp [EndedBy, @eq_comm _ saved.id]

theorem endedBy_deleteTrigger {id : TriggerId} :
    trigger.EndedBy (.deleteTrigger id) ↔ trigger.id = id := by
  simp [EndedBy, @eq_comm _ id]

/-- The trigger was saved, with these contents last, and has not been deleted since. -/
def Stands (calls : List AutomateRequest) (trigger : Trigger) : Prop :=
  Lasts (fun call => call = .saveTrigger trigger) (fun _ call => trigger.EndedBy call) calls

/-- A trigger with the identifier stands. -/
def Stored (calls : List AutomateRequest) (id : TriggerId) : Prop :=
  ∃ trigger : Trigger, trigger.Stands calls ∧ trigger.id = id

end Trigger

namespace AutomateStore

open Trigger

variable {store : AutomateStore} {calls : List AutomateRequest} {call : AutomateRequest}
  {trigger : Trigger}

theorem isSome_trigger?_iff {id : TriggerId} :
    (store.trigger? id).isSome = true ↔ ∃ trigger ∈ store.triggers, trigger.id = id := by
  simp [trigger?, List.find?_isSome]

/-- The store without a trigger and all that belongs to it. -/
def without (store : AutomateStore) (id : TriggerId) : AutomateStore where
  triggers := store.triggers.filter fun trigger => trigger.id ≠ id
  conditions := store.conditions.filter fun condition => condition.trigger ≠ id
  actions := store.actions.filter fun action => action.trigger ≠ id
  history := store.history.filter fun call => call.trigger ≠ id

theorem deleteTrigger_eq (store : AutomateStore) (id : TriggerId) :
    store.deleteTrigger id =
      if (store.trigger? id).isSome then (true, store.without id) else (false, store) := by
  unfold deleteTrigger
  cases store.trigger? id <;> rfl

/-- A trigger is in the store after a call if the call has put it there, or if it was there before
and the call has not ended it. -/
theorem mem_triggers_onStore (ascends : Ascends store.triggers) :
    trigger ∈ (call.onStore store).2.triggers ↔
      call = .saveTrigger trigger ∨ trigger ∈ store.triggers ∧ ¬ trigger.EndedBy call := by
  cases call with
  | saveTrigger saved =>
    show trigger ∈ insertTrigger saved store.triggers ↔ _
    rw [(perm_insertTrigger saved ascends).mem_iff, endedBy_saveTrigger]
    simp [@eq_comm _ saved]
  | deleteTrigger id =>
    show trigger ∈ (store.deleteTrigger id).2.triggers ↔ _
    rw [endedBy_deleteTrigger, deleteTrigger_eq]
    split
    · simp [without]
    · next absent =>
      have other (member : trigger ∈ store.triggers) : trigger.id ≠ id := fun same =>
        absent (isSome_trigger?_iff.mpr ⟨trigger, member, same⟩)
      simpa using other
  | _ =>
    exact ⟨fun member => Or.inr ⟨member, by simp [EndedBy]⟩,
      fun given => (given.resolve_left nofun).1⟩

theorem ascends_onStore (ascends : Ascends store.triggers) :
    Ascends (call.onStore store).2.triggers := by
  cases call with
  | saveTrigger saved => exact ascends_insertTrigger saved ascends
  | deleteTrigger id =>
    show Ascends (store.deleteTrigger id).2.triggers
    rw [deleteTrigger_eq]
    split
    · exact ascends.sublist List.filter_sublist
    · exact ascends
  | _ => exact ascends

theorem ascends_after (calls : List AutomateRequest) : Ascends (after calls).triggers := by
  induction calls using List.reverseRecOn with
  | nil => exact List.Pairwise.nil
  | append_singleton calls call inductionHypothesis =>
    rw [after_append_singleton]
    exact ascends_onStore inductionHypothesis

/-- The triggers of the store are those that stand. -/
theorem mem_triggers_after : trigger ∈ (after calls).triggers ↔ trigger.Stands calls := by
  induction calls using List.reverseRecOn with
  | nil =>
    exact ⟨fun member => absurd member List.not_mem_nil, fun stands => absurd stands not_lasts_nil⟩
  | append_singleton calls call inductionHypothesis =>
    rw [after_append_singleton, mem_triggers_onStore (ascends_after calls), inductionHypothesis,
      Stands, Stands, lasts_append_singleton]

theorem isSome_trigger?_after {id : TriggerId} :
    ((after calls).trigger? id).isSome = true ↔ Stored calls id := by
  rw [isSome_trigger?_iff]
  simp only [mem_triggers_after, Stored]

end AutomateStore

/-! ### Steps -/

theorem Step.mem_upsert_iff {record : IdKind} {Kind : Type} {steps : List (Step record Kind)}
    {step saved : Step record Kind} :
    step ∈ upsert steps saved ↔ step = saved ∨ step ∈ steps ∧ step.id ≠ saved.id := by
  unfold upsert
  split
  · next present =>
    obtain ⟨held, inside, same⟩ := List.any_eq_true.mp present
    rw [List.mem_map]
    constructor
    · rintro ⟨other, member, rfl⟩
      split
      · exact Or.inl rfl
      · next different => exact Or.inr ⟨member, different⟩
    · rintro (rfl | ⟨member, different⟩)
      · exact ⟨held, inside, if_pos (of_decide_eq_true same)⟩
      · exact ⟨step, member, if_neg different⟩
  · next absent =>
    have other (member : step ∈ steps) : step.id ≠ saved.id := fun same =>
      absent (List.any_eq_true.mpr ⟨step, member, decide_eq_true same⟩)
    simp only [List.mem_append, List.mem_singleton]
    exact ⟨fun given => given.symm.imp_right fun member => ⟨member, other member⟩,
      fun given => (given.imp_right And.left).symm⟩

/-- What a call means for one list of steps. -/
inductive StepCall (record : IdKind) (Kind : Type) where
  | save (step : Step record Kind)
  | delete (id : Id record)
  | deleteTrigger (id : TriggerId)
  | other

namespace StepCall

variable {record : IdKind} {Kind : Type} {steps : List (Step record Kind)}
  {step : Step record Kind} {call : StepCall record Kind} {stored : TriggerId → Bool}

/-- What the call does to the list. -/
def act (stored : TriggerId → Bool) (steps : List (Step record Kind)) :
    StepCall record Kind → List (Step record Kind)
  | save step => Step.upsert steps step
  | delete id => Step.remove steps id
  | deleteTrigger id => if stored id then steps.filter fun step => step.trigger ≠ id else steps
  | other => steps

/-- The call puts something else in the place of the step, or takes it out, alone or with its
trigger. -/
def Ends (stored : TriggerId → Prop) (step : Step record Kind) : StepCall record Kind → Prop
  | save saved => step.id = saved.id
  | delete id => step.id = id
  | deleteTrigger id => step.trigger = id ∧ stored id
  | other => False

/-- A step is in the list after a call if the call has put it there, or if it was there before and
the call has not ended it. -/
theorem mem_act {known : TriggerId → Prop} (agree : ∀ id, stored id = true ↔ known id) :
    step ∈ call.act stored steps ↔ call = save step ∨ step ∈ steps ∧ ¬ call.Ends known step := by
  cases call with
  | save saved =>
    rw [act, Step.mem_upsert_iff, Ends, save.injEq, @eq_comm _ saved]
  | delete id => simp [act, Step.remove, Ends]
  | deleteTrigger id =>
    simp only [act, Ends, ← agree]
    split
    · next known => simp [known]
    · next unknown => simp [unknown]
  | other => simp [act, Ends]

/-- A call brings a new identifier, behind all others, or leaves some of those that are there, in
their order. -/
theorem ids_act (stored : TriggerId → Bool) (steps : List (Step record Kind))
    (call : StepCall record Kind) :
    (∃ step, call = save step ∧ step.id ∉ steps.map Step.id ∧
      (call.act stored steps).map Step.id = steps.map Step.id ++ [step.id]) ∨
    ((call.act stored steps).map Step.id).Sublist (steps.map Step.id) := by
  cases call with
  | save step =>
    by_cases present : step.id ∈ steps.map Step.id
    · have same := (Step.ids_upsert steps step).trans (if_pos present)
      exact Or.inr (same ▸ List.Sublist.refl _)
    · exact Or.inl ⟨step, rfl, present, (Step.ids_upsert steps step).trans (if_neg present)⟩
  | delete id => exact Or.inr (List.filter_sublist.map Step.id)
  | deleteTrigger id =>
    refine Or.inr ?_
    rw [act]
    split
    · exact List.filter_sublist.map Step.id
    · exact List.Sublist.refl _
  | other => exact Or.inr (List.Sublist.refl _)

end StepCall

open AutomateStore

/-- A list of steps in the store, and what the calls mean for it. -/
structure Shelf (record : IdKind) (Kind : Type) where
  call : AutomateRequest → StepCall record Kind
  steps : AutomateStore → List (Step record Kind)
  empty : steps .empty = []
  acts : ∀ request store, steps (request.onStore store).2 =
    (call request).act (fun id => (store.trigger? id).isSome) (steps store)

/-- The conditions. -/
def conditionShelf : Shelf .condition ConditionKind where
  call
    | .saveCondition condition => .save condition
    | .deleteCondition id => .delete id
    | .deleteTrigger id => .deleteTrigger id
    | _ => .other
  steps := AutomateStore.conditions
  empty := rfl
  acts request store := by
    cases request with
    | deleteTrigger id =>
      rw [AutomateRequest.onStore, deleteTrigger_eq, StepCall.act]
      split <;> rfl
    | _ => rfl

/-- The actions. -/
def actionShelf : Shelf .action ActionKind where
  call
    | .saveAction action => .save action
    | .deleteAction id => .delete id
    | .deleteTrigger id => .deleteTrigger id
    | _ => .other
  steps := AutomateStore.actions
  empty := rfl
  acts request store := by
    cases request with
    | deleteTrigger id =>
      rw [AutomateRequest.onStore, deleteTrigger_eq, StepCall.act]
      split <;> rfl
    | _ => rfl

namespace Shelf

variable {record : IdKind} {Kind : Type} (shelf : Shelf record Kind)
  {calls : List AutomateRequest} {call : AutomateRequest} {step : Step record Kind}
  {id : Id record} {m n : Nat}

/-- The step was saved, with these contents last, and neither it nor, while it was there, its
trigger has been deleted since. -/
def Stands (calls : List AutomateRequest) (step : Step record Kind) : Prop :=
  Lasts (fun call => shelf.call call = .save step)
    (fun past call => (shelf.call call).Ends (Trigger.Stored past) step) calls

/-- A step with the identifier stands. -/
def Holds (calls : List AutomateRequest) (id : Id record) : Prop :=
  ∃ step, shelf.Stands calls step ∧ step.id = id

/-- The call behind the first `n` ones saved a step with the identifier when there was none, and
there has been one ever since. -/
structure Since (calls : List AutomateRequest) (id : Id record) (n : Nat) : Prop where
  saved : ∃ call step, calls[n]? = some call ∧ shelf.call call = .save step ∧ step.id = id
  absent : ¬ shelf.Holds (calls.take n) id
  present : ∀ m, n < m → m ≤ calls.length → shelf.Holds (calls.take m) id

/-- The first identifier has been there for longer than the second one. -/
def Before (calls : List AutomateRequest) (first second : Id record) : Prop :=
  ∃ m n, m < n ∧ shelf.Since calls first m ∧ shelf.Since calls second n

variable {shelf}

/-- The steps on the shelf are those that stand. -/
theorem mem_steps_after : step ∈ shelf.steps (after calls) ↔ shelf.Stands calls step := by
  induction calls using List.reverseRecOn with
  | nil =>
    rw [after, List.foldl_nil, shelf.empty]
    exact ⟨fun member => absurd member List.not_mem_nil, fun stands => absurd stands not_lasts_nil⟩
  | append_singleton calls call inductionHypothesis =>
    rw [after_append_singleton, shelf.acts, StepCall.mem_act fun _ => isSome_trigger?_after,
      inductionHypothesis, Stands, Stands, lasts_append_singleton]

theorem mem_ids_after : id ∈ (shelf.steps (after calls)).map Step.id ↔ shelf.Holds calls id := by
  rw [List.mem_map]
  simp only [mem_steps_after, Holds]

theorem Since.lt_length (since : shelf.Since calls id n) : n < calls.length := by
  obtain ⟨call, step, found, -⟩ := since.saved
  exact (List.getElem?_eq_some_iff.mp found).1

/-- There is only one such call. -/
theorem Since.unique (first : shelf.Since calls id m) (second : shelf.Since calls id n) :
    m = n := by
  obtain less | same | greater := Nat.lt_trichotomy m n
  · exact absurd (first.present n less (Nat.le_of_lt second.lt_length)) second.absent
  · exact same
  · exact absurd (second.present m greater (Nat.le_of_lt first.lt_length)) first.absent

/-- A call that leaves the identifier there does not change since when it is there. -/
theorem Since.append_singleton (since : shelf.Since calls id n)
    (holds : shelf.Holds (calls ++ [call]) id) : shelf.Since (calls ++ [call]) id n where
  saved := by
    obtain ⟨call, step, found, saved⟩ := since.saved
    exact ⟨call, step, (List.getElem?_append_left since.lt_length).trans found, saved⟩
  absent := by
    rw [List.take_append_of_le_length (Nat.le_of_lt since.lt_length)]
    exact since.absent
  present m later bound := by
    by_cases within : m ≤ calls.length
    · rw [List.take_append_of_le_length within]
      exact since.present m later within
    · rw [List.take_of_length_le]
      · exact holds
      · rw [List.length_append, List.length_singleton]
        omega

/-- A call that saves a new identifier is the one since which it is there. -/
theorem since_append_singleton (absent : ¬ shelf.Holds calls step.id)
    (saved : shelf.call call = .save step) :
    shelf.Since (calls ++ [call]) step.id calls.length where
  saved := ⟨call, step, List.getElem?_concat_length, saved, rfl⟩
  absent := by
    rw [List.take_append_of_le_length (Nat.le_refl _), List.take_length]
    exact absent
  present m later bound := by
    rw [List.take_of_length_le]
    · exact ⟨step, lasts_append_singleton.mpr (Or.inl saved), rfl⟩
    · rw [List.length_append, List.length_singleton]
      omega

/-- Whatever is there has been there since some call. -/
theorem exists_since (holds : shelf.Holds calls id) : ∃ n, shelf.Since calls id n := by
  induction calls using List.reverseRecOn with
  | nil =>
    obtain ⟨step, stands, -⟩ := holds
    exact absurd stands not_lasts_nil
  | append_singleton calls call inductionHypothesis =>
    by_cases before : shelf.Holds calls id
    · obtain ⟨n, since⟩ := inductionHypothesis before
      exact ⟨n, since.append_singleton holds⟩
    · obtain ⟨step, stands, rfl⟩ := holds
      obtain saved | ⟨stands, -⟩ := lasts_append_singleton.mp stands
      · exact ⟨_, since_append_singleton before saved⟩
      · exact absurd ⟨step, stands, rfl⟩ before

/-- The steps on the shelf stand in the order in which they came. -/
theorem pairwise_before_after (calls : List AutomateRequest) :
    ((shelf.steps (after calls)).map Step.id).Pairwise (shelf.Before calls) := by
  induction calls using List.reverseRecOn with
  | nil =>
    rw [after, List.foldl_nil, shelf.empty]
    exact List.Pairwise.nil
  | append_singleton calls call inductionHypothesis =>
    have still {ids : List (Id record)}
        (sublist : ids.Sublist ((shelf.steps (after calls)).map Step.id))
        (held : ∀ id ∈ ids, shelf.Holds (calls ++ [call]) id) :
        ids.Pairwise (shelf.Before (calls ++ [call])) := by
      refine (inductionHypothesis.sublist sublist).imp_of_mem fun first second before => ?_
      obtain ⟨m, n, less, former, latter⟩ := before
      exact ⟨m, n, less, former.append_singleton (held _ first),
        latter.append_singleton (held _ second)⟩
    have held : ∀ id ∈ (shelf.steps (after (calls ++ [call]))).map Step.id,
        shelf.Holds (calls ++ [call]) id := fun id => mem_ids_after.mp
    have acts := congrArg (List.map Step.id) (shelf.acts call (after calls))
    rw [← after_append_singleton] at acts
    obtain ⟨step, saved, new, ids⟩ | sublist :=
      StepCall.ids_act (fun id => ((after calls).trigger? id).isSome)
        (shelf.steps (after calls)) (shelf.call call)
    · rw [← acts] at ids
      rw [ids] at held ⊢
      have absent : ¬ shelf.Holds calls step.id := fun holds => new (mem_ids_after.mpr holds)
      refine List.pairwise_append.mpr ⟨still (List.Sublist.refl _) fun id member =>
        held id (List.mem_append_left _ member), List.pairwise_singleton _ _, ?_⟩
      intro first member second last
      obtain ⟨m, since⟩ := exists_since (mem_ids_after.mp member)
      rw [List.mem_singleton.mp last]
      exact ⟨m, calls.length, since.lt_length,
        since.append_singleton (held first (List.mem_append_left _ member)),
        since_append_singleton absent saved⟩
    · rw [← acts] at sublist
      exact still sublist held

theorem before_irrefl (id : Id record) : ¬ shelf.Before calls id id := by
  rintro ⟨m, n, less, first, second⟩
  exact Nat.ne_of_lt less (first.unique second)

theorem nodup_ids_after (calls : List AutomateRequest) :
    ((shelf.steps (after calls)).map Step.id).Nodup := by
  refine (pairwise_before_after calls).imp ?_
  rintro first _ before rfl
  exact before_irrefl first before

/-- Saving a step again changes no place, whatever it is saved with. -/
theorem ids_after_save_again (saved : shelf.call call = .save step)
    (holds : shelf.Holds calls step.id) :
    (shelf.steps (after (calls ++ [call]))).map Step.id =
      (shelf.steps (after calls)).map Step.id := by
  rw [after_append_singleton, shelf.acts, saved]
  exact (Step.ids_upsert _ step).trans (if_pos (mem_ids_after.mpr holds))

/-- What a list of the steps of every trigger has to be after calls. -/
structure Lists (shelf : Shelf record Kind) (calls : List AutomateRequest)
    (listed : TriggerId → List (Step record Kind)) : Prop where
  /-- No two steps on the shelf have one identifier. -/
  distinct : ((shelf.steps (after calls)).map Step.id).Nodup
  once : ∀ trigger, ((listed trigger).map Step.id).Nodup
  mem_iff : ∀ trigger step, step ∈ listed trigger ↔ shelf.Stands calls step ∧ step.trigger = trigger
  /-- They ascend by their numbers, and those with one number stand in the order in which they
  came. -/
  ascending : ∀ trigger, (listed trigger).Pairwise fun a b =>
    a.priority < b.priority ∨ a.priority = b.priority ∧ shelf.Before calls a.id b.id
  /-- A step that is saved again keeps its place, whatever it is saved with. -/
  keepsPlace : ∀ call step, shelf.call call = .save step → shelf.Holds calls step.id →
    (shelf.steps (after (calls ++ [call]))).map Step.id =
      (shelf.steps (after calls)).map Step.id

/-- Steps that are taken in order, from a shelf where they stand in the order in which they came. -/
theorem lists_ofTrigger (calls : List AutomateRequest) :
    shelf.Lists calls (Step.ofTrigger (shelf.steps (after calls))) where
  distinct := nodup_ids_after calls
  once trigger := by
    have order := Step.inOrder_ofTrigger (shelf.steps (after calls)) trigger
    refine ((order.all.map Step.id).nodup_iff).mpr ?_
    exact (nodup_ids_after calls).sublist (List.filter_sublist.map Step.id)
  mem_iff trigger step := by
    have order := Step.inOrder_ofTrigger (shelf.steps (after calls)) trigger
    rw [order.all.mem_iff, List.mem_filter, mem_steps_after, decide_eq_true_iff]
  ascending trigger := by
    have order := Step.inOrder_ofTrigger (shelf.steps (after calls)) trigger
    refine List.pairwise_iff_forall_sublist.mpr fun {a b} pair => ?_
    have atMost : a.priority ≤ b.priority :=
      List.pairwise_iff_forall_sublist.mp order.ascending pair
    obtain less | same := Int.lt_or_eq_of_le atMost
    · exact Or.inl less
    -- Both stand among the steps with their number, which sorting leaves in the order of the shelf.
    · refine Or.inr ⟨same, ?_⟩
      have both : [a, b].filter (fun step => step.priority = b.priority) = [a, b] := by
        simp [same]
      have among := pair.filter fun step => decide (step.priority = b.priority)
      rw [both, order.stable b.priority] at among
      have ids := ((among.trans List.filter_sublist).trans List.filter_sublist).map Step.id
      exact List.pairwise_iff_forall_sublist.mp (pairwise_before_after calls) ids
  keepsPlace _ _ saved holds := ids_after_save_again saved holds

end Shelf

/-- After any calls, the conditions and the actions of a trigger are those that were saved for it
and not deleted since, each of them once and as it was saved last, by their priority numbers and
then in the order in which they came. Deleting a trigger that stands takes out just it and what
belongs to it, and deleting another one changes nothing. The triggers that stand are listed once
each, by their identifiers. -/
theorem AutomateStore.lists_after (calls : List AutomateRequest) :
    conditionShelf.Lists calls (after calls).conditionsOf ∧
    actionShelf.Lists calls (after calls).actionsOf ∧
    (∀ id, Trigger.Stored calls id →
      (after calls).deleteTrigger id = (true, (after calls).without id)) ∧
    (∀ id, ¬ Trigger.Stored calls id → (after calls).deleteTrigger id = (false, after calls)) ∧
    (after calls).triggers.Pairwise
      (fun former latter => former.id.ulid.value < latter.id.ulid.value) ∧
    ∀ trigger, trigger ∈ (after calls).triggers ↔ trigger.Stands calls := by
  refine ⟨Shelf.lists_ofTrigger calls, Shelf.lists_ofTrigger calls, fun id stored => ?_,
    fun id unknown => ?_, ascends_after calls, fun trigger => mem_triggers_after⟩
  · rw [deleteTrigger_eq, if_pos (isSome_trigger?_after.mpr stored)]
  · rw [deleteTrigger_eq, if_neg fun found => unknown (isSome_trigger?_after.mp found)]

/-- Three conditions of one number; the first one is saved again, and the second one comes back. -/
example :
    let condition (n : Nat) (priority : Int) : Condition :=
      .new ⟨.ofNat n⟩ ⟨.ofNat 9⟩ .schedule (.record []) priority ⟨0, 0⟩
    let calls : List AutomateRequest :=
      [.saveCondition (condition 1 5), .saveCondition (condition 2 5),
        .saveCondition (condition 3 5), .saveCondition (condition 1 5),
        .deleteCondition ⟨.ofNat 2⟩, .saveCondition (condition 2 5)]
    ((AutomateStore.after calls).conditionsOf ⟨.ofNat 9⟩).map Step.id =
      [⟨.ofNat 1⟩, ⟨.ofNat 3⟩, ⟨.ofNat 2⟩] := by
  cbv

end TaskAutomation
