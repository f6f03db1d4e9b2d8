import TaskAutomation.Proofs.Engine.Proceeding
import Mathlib.Data.List.Forall2

/-!
This file follows the installation of rules into an empty store, which may end anywhere because a
value does not pass, or because the store or the subscriber fails. Whatever happens, the store holds
at every moment the first so many rules as a whole and nothing else but a part of the next rule: its
trigger, its first conditions and, if these are all, its first actions. So there is never an action
in the store without the conditions that guard it.
-/

namespace TaskAutomation

open AutomateStore

/-! ### Steps of a rule in a store -/

/-- Steps of a rule in the order in which they are taken: ascending priority numbers, and those with
the same number as the rule says them. -/
def StepRule.inOrder {Kind : Type} (rules : List (StepRule Kind)) : List (StepRule Kind) :=
  rules.mergeSort fun a b => a.priority ≤ b.priority

/-- The steps of a trigger are the first ones of a list, in the order of the list. -/
def Step.AreFirst {record : IdKind} {Kind : Type} (steps : List (Step record Kind))
    (trigger : TriggerId) (rules : List (StepRule Kind)) (count : Nat) : Prop :=
  (steps.filter fun step => step.trigger = trigger).map Step.asRule = rules.take count

namespace Step.AreFirst

variable {record : IdKind} {Kind : Type} {steps left : List (Step record Kind)}
  {step : Step record Kind} {trigger other : TriggerId} {rules : List (StepRule Kind)}
  {rule : StepRule Kind} {count : Nat}

/-- No step belongs to a trigger. -/
theorem none (absent : ∀ step ∈ steps, step.trigger ≠ trigger) :
    AreFirst steps trigger rules 0 := by
  have filtered : (steps.filter fun step => step.trigger = trigger) = [] :=
    List.filter_eq_nil_iff.mpr fun step member same =>
      absent step member (of_decide_eq_true same)
  rw [AreFirst, filtered, List.take_zero, List.map_nil]

/-- A step of another trigger is added. -/
theorem of_other (first : AreFirst steps trigger rules count)
    (added : AutomateService.IsAdded steps other rule step left) (different : trigger ≠ other) :
    AreFirst left trigger rules count := by
  have foreign : [step].filter (fun step => step.trigger = trigger) = [] := by
    simp [added.trigger_eq, different.symm]
  rw [AreFirst, added.last, List.filter_append, foreign, List.append_nil]
  exact first

/-- The next step is added. -/
theorem next (first : AreFirst steps trigger rules count)
    (added : AutomateService.IsAdded steps trigger rule step left)
    (follows : rules[count]? = some rule) : AreFirst left trigger rules (count + 1) := by
  have own : [step].filter (fun step => step.trigger = trigger) = [step] := by
    simp [added.trigger_eq]
  rw [AreFirst, added.last, List.filter_append, own, List.map_append, first, List.take_add_one,
    follows, List.map_singleton, added.asRule_eq]
  rfl

/-- The steps in the order in which they are taken. -/
theorem ofTrigger (first : AreFirst steps trigger rules count) :
    (Step.ofTrigger steps trigger).map asRule = StepRule.inOrder (rules.take count) := by
  rw [← first, Step.ofTrigger]
  exact List.map_mergeSort fun a _ b _ => rfl

/-- What a step of the trigger is as a rule is one of the first. -/
theorem asRule_mem (first : AreFirst steps trigger rules count) (member : step ∈ steps)
    (same : step.trigger = trigger) : step.asRule ∈ rules.take count := by
  rw [← first]
  exact List.mem_map_of_mem (List.mem_filter.mpr ⟨member, decide_eq_true same⟩)

end Step.AreFirst

/-! ### Parts of rules -/

/-- A part of a rule: a trigger, and how many of the conditions and actions of the rule it has. -/
structure RulePart where
  rule : TriggerRule
  id : TriggerId
  conditions : Nat
  actions : Nat

namespace RulePart

/-- The part is the rule as a whole. -/
def whole (rule : TriggerRule) (id : TriggerId) : RulePart :=
  ⟨rule, id, rule.conditions.length, rule.actions.length⟩

/-- The part is in a store: its trigger is the one of the rule, and it has the first so many
conditions and actions of the rule. It has actions only if it has all the conditions. -/
structure IsIn (part : RulePart) (store : AutomateStore) : Prop where
  trigger : ∃ trigger, store.trigger? part.id = some trigger ∧
    trigger.IsUnrun part.rule.name part.rule.kind
  conditions : Step.AreFirst store.conditions part.id part.rule.conditions part.conditions
  actions : Step.AreFirst store.actions part.id part.rule.actions part.actions
  guarded : 0 < part.actions → part.conditions = part.rule.conditions.length

end RulePart

/-- The store holds parts of rules and nothing else: no other trigger, no step of another trigger,
and no history. -/
structure AutomateStore.HoldsJust (store : AutomateStore) (parts : List RulePart) : Prop where
  distinct : (parts.map RulePart.id).Nodup
  each : ∀ part ∈ parts, part.IsIn store
  triggers : (store.triggers.map Trigger.id).Perm (parts.map RulePart.id)
  ascends : Ascends store.triggers
  conditions : ∀ condition ∈ store.conditions, condition.trigger ∈ parts.map RulePart.id
  actions : ∀ action ∈ store.actions, action.trigger ∈ parts.map RulePart.id
  history : store.history = []

namespace AutomateStore.HoldsJust

variable {store after : AutomateStore} {parts : List RulePart} {part : RulePart}

theorem empty : AutomateStore.empty.HoldsJust [] where
  distinct := List.nodup_nil
  each := nofun
  triggers := .nil
  ascends := .nil
  conditions := nofun
  actions := nofun
  history := rfl

/-- The last part goes on, and nothing else changes for the parts before it. -/
theorem goesOn {later : RulePart} (holds : store.HoldsJust (parts ++ [part]))
    (same : later.id = part.id) (triggers : after.triggers = store.triggers)
    (history : after.history = store.history)
    (own : part.IsIn store → later.IsIn after)
    (others : ∀ other : RulePart, other.id ≠ part.id → other.IsIn store → other.IsIn after)
    (conditions : ∀ condition ∈ after.conditions,
      condition ∈ store.conditions ∨ condition.trigger = part.id)
    (actions : ∀ action ∈ after.actions, action ∈ store.actions ∨ action.trigger = part.id) :
    after.HoldsJust (parts ++ [later]) := by
  have ids : (parts ++ [later]).map RulePart.id = (parts ++ [part]).map RulePart.id := by
    simp only [List.map_append, List.map_singleton, same]
  have last : part ∈ parts ++ [part] := List.mem_append_right _ List.mem_cons_self
  have known : part.id ∈ (parts ++ [part]).map RulePart.id := List.mem_map_of_mem last
  refine ⟨ids ▸ holds.distinct, fun other member => ?_, ?_, ?_, fun condition member => ?_,
    fun action member => ?_, history.trans holds.history⟩
  · obtain before | new := List.mem_append.mp member
    · have different : other.id ≠ part.id := by
        have apart := holds.distinct
        rw [List.map_append, List.nodup_append] at apart
        exact apart.2.2 other.id (List.mem_map_of_mem before) part.id List.mem_cons_self
      exact others other different (holds.each other (List.mem_append_left _ before))
    · rw [List.mem_singleton.mp new]
      exact own (holds.each part last)
  · rw [triggers, ids]
    exact holds.triggers
  · rw [triggers]
    exact holds.ascends
  · rw [ids]
    obtain before | new := conditions condition member
    · exact holds.conditions condition before
    · rw [new]
      exact known
  · rw [ids]
    obtain before | new := actions action member
    · exact holds.actions action before
    · rw [new]
      exact known

/-- The next condition of the last part is added. -/
theorem condition {rule : StepRule ConditionKind} {step : Condition} {left : List Condition}
    (holds : store.HoldsJust (parts ++ [part])) (none : part.actions = 0)
    (follows : part.rule.conditions[part.conditions]? = some rule)
    (added : AutomateService.IsAdded store.conditions part.id rule step left) :
    ({ store with conditions := left } : AutomateStore).HoldsJust
      (parts ++ [{ part with conditions := part.conditions + 1 }]) := by
  refine holds.goesOn rfl rfl rfl (fun own => ?_) (fun other different own => ?_)
    (fun condition => added.before_or_own) fun action => Or.inl
  · exact ⟨own.trigger, own.conditions.next added follows, own.actions,
      fun some => absurd none (Nat.ne_of_gt some)⟩
  · exact ⟨own.trigger, own.conditions.of_other added different, own.actions, own.guarded⟩

/-- The next action of the last part is added, which has all its conditions. -/
theorem action {rule : StepRule ActionKind} {step : Action} {left : List Action}
    (holds : store.HoldsJust (parts ++ [part]))
    (all : part.conditions = part.rule.conditions.length)
    (follows : part.rule.actions[part.actions]? = some rule)
    (added : AutomateService.IsAdded store.actions part.id rule step left) :
    ({ store with actions := left } : AutomateStore).HoldsJust
      (parts ++ [{ part with actions := part.actions + 1 }]) := by
  refine holds.goesOn rfl rfl rfl (fun own => ?_) (fun other different own => ?_)
    (fun condition => Or.inl) fun action => added.before_or_own
  · exact ⟨own.trigger, own.conditions, own.actions.next added follows, fun _ => all⟩
  · exact ⟨own.trigger, own.conditions, own.actions.of_other added different, own.guarded⟩

/-- A new trigger is the first part of its rule. -/
theorem begin {rule : TriggerRule} {trigger : Trigger} (holds : store.HoldsJust parts)
    (made : AutomateService.IsMade store rule.name rule.kind trigger after) :
    after.HoldsJust (parts ++ [⟨rule, trigger.id, 0, 0⟩]) := by
  obtain ⟨new, rfl, unrun⟩ := made
  have unknown : trigger.id ∉ parts.map RulePart.id := by
    rw [← holds.triggers.mem_iff, List.mem_map]
    rintro ⟨other, member, same⟩
    exact new other member same
  have ids : (parts ++ [(⟨rule, trigger.id, 0, 0⟩ : RulePart)]).map RulePart.id =
      parts.map RulePart.id ++ [trigger.id] := List.map_append
  refine ⟨?_, fun part member => ?_, ?_, ascends_insertTrigger trigger holds.ascends,
    fun condition member => ?_, fun action member => ?_, holds.history⟩
  · rw [ids, List.nodup_append]
    refine ⟨holds.distinct, List.pairwise_singleton _ _, fun id member other last same => ?_⟩
    rw [List.mem_singleton.mp last] at same
    exact unknown (same ▸ member)
  · obtain before | last := List.mem_append.mp member
    · obtain ⟨found, conditions, actions, guarded⟩ := holds.each part before
      have different : part.id ≠ trigger.id := fun same =>
        unknown (same ▸ List.mem_map_of_mem before)
      refine ⟨?_, conditions, actions, guarded⟩
      rw [trigger?_saveTrigger_of_ne store trigger different]
      exact found
    · rw [List.mem_singleton.mp last]
      refine ⟨⟨trigger, trigger?_saveTrigger_self store trigger, unrun⟩,
        .none fun step inside same => ?_, .none fun step inside same => ?_,
        fun some => absurd some (Nat.lt_irrefl 0)⟩
      · have known := holds.conditions step inside
        rw [same] at known
        exact unknown known
      · have known := holds.actions step inside
        rw [same] at known
        exact unknown known
  · have others : store.triggers.filter (fun other => other.id ≠ trigger.id) = store.triggers :=
      List.filter_eq_self.mpr fun other member => decide_eq_true (new other member)
    have perm := (perm_insertTrigger trigger holds.ascends).map Trigger.id
    rw [others, List.map_cons] at perm
    rw [ids]
    exact (perm.trans (holds.triggers.cons trigger.id)).trans (List.perm_append_singleton ..).symm
  · rw [ids]
    exact List.mem_append_left _ (holds.conditions condition member)
  · rw [ids]
    exact List.mem_append_left _ (holds.actions action member)

end AutomateStore.HoldsJust

/-! ### Steps that are installed -/

/-- Steps are made one after the other. -/
def installSteps {record : IdKind} {Kind : Type}
    (add : StepRule Kind → Work ServiceFault (Step record Kind)) (part : StepRule Kind → String) :
    List (StepRule Kind) → Work InstallFault Unit
  | [] => return ()
  | step :: rest => do
    let _ ← (add step).mapFault (InstallFault.mk (part step))
    installSteps add part rest

/-- Steps that are made end with all of them, or with the first ones and a fault at the next, which
may be there or not. What holds of the store goes by how many there are. -/
inductive StepsEnd {Kind : Type} (rules : List (StepRule Kind)) (part : StepRule Kind → String)
    (holds : Nat → AutomateStore → Prop) : Except InstallFault Unit → AutomateStore → Prop
  | all {after : AutomateStore} (made : holds rules.length after) :
      StepsEnd rules part holds (.ok ()) after
  | first (count stored : Nat) (step : StepRule Kind) (cause : ServiceFault)
      {after : AutomateStore} (next : rules[count]? = some step)
      (near : stored = count ∨ stored = count + 1) (made : holds stored after) :
      StepsEnd rules part holds (.error ⟨part step, cause⟩) after

namespace TriggerRule

variable (service : AutomateService) (rule : TriggerRule) (trigger : TriggerId)

/-- What a condition of the rule is called in messages. -/
def conditionPart (step : StepRule ConditionKind) : String :=
  rule.title ++ ": condition " ++ step.kind.name

/-- What an action of the rule is called in messages. -/
def actionPart (step : StepRule ActionKind) : String :=
  rule.title ++ ": action " ++ step.kind.name

theorem installConditions_eq (steps : List (StepRule ConditionKind)) :
    rule.installConditions service trigger steps =
      installSteps (fun step => service.addCondition trigger step.kind step.params step.priority)
        rule.conditionPart steps := by
  induction steps with
  | nil => rfl
  | cons step rest inductionHypothesis =>
    rw [installConditions, inductionHypothesis]
    rfl

theorem installActions_eq (steps : List (StepRule ActionKind)) :
    rule.installActions service trigger steps =
      installSteps (fun step => service.addAction trigger step.kind step.params step.priority)
        rule.actionPart steps := by
  induction steps with
  | nil => rfl
  | cons step rest inductionHypothesis =>
    rw [installActions, inductionHypothesis]
    rfl

end TriggerRule

namespace FaultyHost

variable {State : Type} {host : FaultyHost State} {before : AutomateStore}

/-- If every step that is made leads from what holds of the first ones to what holds of one more,
then that holds all along of as many as there are. -/
theorem proceeds_installSteps {record : IdKind} {Kind : Type}
    {add : StepRule Kind → Work ServiceFault (Step record Kind)} {part : StepRule Kind → String}
    {rules : List (StepRule Kind)} {holds : Nat → AutomateStore → Prop}
    (adds : ∀ count step before, rules[count]? = some step → holds count before →
      host.Proceeds before (· = before) (Adds before fun _ after => holds (count + 1) after)
        (add step))
    {count : Nat} {rest : List (StepRule Kind)} (left : rules.drop count = rest)
    (within : count ≤ rules.length) (here : holds count before) :
    host.Proceeds before (fun store => ∃ count, holds count store) (StepsEnd rules part holds)
      (installSteps add part rest) := by
  induction rest generalizing count before with
  | nil =>
    have least : rules.length ≤ count := List.drop_eq_nil_iff.mp left
    obtain rfl : count = rules.length := Nat.le_antisymm within least
    exact proceeds_pure (.all here)
  | cons step rest inductionHypothesis =>
    have next : rules[count]? = some step := by
      rw [← List.head?_drop, left, List.head?_cons]
    have later : rules.drop (count + 1) = rest := by
      rw [← List.tail_drop, left, List.tail_cons]
    have more : count + 1 ≤ rules.length := (List.getElem?_eq_some_iff.mp next).1
    refine proceeds_bind_of_adds (adds count step before next here) ⟨count, here⟩
      (fun cause => .first count count step cause next (Or.inl rfl) here)
      (fun cause _ after made => .first count (count + 1) step cause next (Or.inr rfl) made)
      fun _ after made => ?_
    exact inductionHypothesis later more made

end FaultyHost

/-! ### Rules that are installed -/

/-- Where a rule stops with a fault, and the part of it that is there. What failed last may be there
or not. -/
inductive TriggerRule.Stops (rule : TriggerRule) : InstallFault → List RulePart → Prop
  | unmade (cause : ServiceFault) : rule.Stops ⟨rule.title, cause⟩ []
  | trigger (id : TriggerId) (cause : ServiceFault) :
      rule.Stops ⟨rule.title, cause⟩ [⟨rule, id, 0, 0⟩]
  | condition (id : TriggerId) (count stored : Nat) (step : StepRule ConditionKind)
      (cause : ServiceFault) (next : rule.conditions[count]? = some step)
      (near : stored = count ∨ stored = count + 1) :
      rule.Stops ⟨rule.conditionPart step, cause⟩ [⟨rule, id, stored, 0⟩]
  | action (id : TriggerId) (count stored : Nat) (step : StepRule ActionKind)
      (cause : ServiceFault) (next : rule.actions[count]? = some step)
      (near : stored = count ∨ stored = count + 1) :
      rule.Stops ⟨rule.actionPart step, cause⟩ [⟨rule, id, rule.conditions.length, stored⟩]

namespace RulePart

/-- What may be there while rules are installed: the first of them as a whole, and a part of the
next one. -/
inductive Stage : List TriggerRule → List RulePart → Prop
  | start (rules : List TriggerRule) : Stage rules []
  | part (part : RulePart) (later : List TriggerRule) : Stage (part.rule :: later) [part]
  | next (rule : TriggerRule) (id : TriggerId) {later : List TriggerRule} {parts : List RulePart}
      (stage : Stage later parts) : Stage (rule :: later) (.whole rule id :: parts)

/-- What is there when the installation of rules has ended: all of them as a whole, or the first of
them and what is there of the next one, at which it stopped. -/
inductive Ends : List TriggerRule → Except InstallFault Unit → List RulePart → Prop
  | all : Ends [] (.ok ()) []
  | next (rule : TriggerRule) (id : TriggerId) {later : List TriggerRule}
      {result : Except InstallFault Unit} {parts : List RulePart} (ends : Ends later result parts) :
      Ends (rule :: later) result (.whole rule id :: parts)
  | stopped (rule : TriggerRule) (later : List TriggerRule) {fault : InstallFault}
      {begun : List RulePart} (stops : rule.Stops fault begun) :
      Ends (rule :: later) (.error fault) begun

variable {rules : List TriggerRule} {parts : List RulePart}

/-- More rules follow. -/
theorem Stage.extend (stage : Stage rules parts) (more : List TriggerRule) :
    Stage (rules ++ more) parts := by
  induction stage with
  | start rules => exact .start (rules ++ more)
  | part part later => exact .part part (later ++ more)
  | next rule id stage inductionHypothesis => exact .next rule id inductionHypothesis

theorem Stage.rule_mem (stage : Stage rules parts) {part : RulePart} (member : part ∈ parts) :
    part.rule ∈ rules := by
  induction stage with
  | start rules => cases member
  | part own later =>
    rw [List.mem_singleton.mp member]
    exact List.mem_cons_self
  | next rule id stage inductionHypothesis =>
    obtain rfl | other := List.mem_cons.mp member
    · exact List.mem_cons_self
    · exact List.mem_cons_of_mem rule (inductionHypothesis other)

/-- The end is a stage, too. -/
theorem Ends.stage {result : Except InstallFault Unit} (ends : Ends rules result parts) :
    Stage rules parts := by
  induction ends with
  | all => exact .start []
  | next rule id ends inductionHypothesis => exact .next rule id inductionHypothesis
  | stopped rule later stops =>
    cases stops with
    | unmade cause => exact .start (rule :: later)
    | trigger id cause => exact .part ⟨rule, id, 0, 0⟩ later
    | condition id count stored step cause next near => exact .part ⟨rule, id, stored, 0⟩ later
    | action id count stored step cause next near =>
      exact .part ⟨rule, id, rule.conditions.length, stored⟩ later

theorem Ends.of_ok (ends : Ends rules (.ok ()) parts) :
    ∃ ids, ids.length = rules.length ∧ parts = List.zipWith whole rules ids := by
  induction rules generalizing parts with
  | nil =>
    cases ends
    exact ⟨[], rfl, rfl⟩
  | cons rule later inductionHypothesis =>
    cases ends with
    | next _ id ends =>
      obtain ⟨ids, length, rfl⟩ := inductionHypothesis ends
      exact ⟨id :: ids, congrArg (· + 1) length, rfl⟩

theorem Ends.of_error {fault : InstallFault} (ends : Ends rules (.error fault) parts) :
    ∃ done rule later ids begun, rules = done ++ rule :: later ∧ ids.length = done.length ∧
      rule.Stops fault begun ∧ parts = List.zipWith whole done ids ++ begun := by
  induction rules generalizing parts with
  | nil => cases ends
  | cons rule later inductionHypothesis =>
    cases ends with
    | stopped _ _ stops => exact ⟨[], rule, later, [], parts, rfl, rfl, stops, rfl⟩
    | next _ id ends =>
      obtain ⟨done, stopped, rest, ids, begun, rfl, length, stops, rfl⟩ := inductionHypothesis ends
      exact ⟨rule :: done, stopped, rest, id :: ids, begun, rfl, congrArg (· + 1) length, stops,
        rfl⟩

end RulePart

namespace FaultyHost

variable {State : Type} {host : FaultyHost State} {before : AutomateStore}
  {parts : List RulePart}

theorem reads_owner (rule : TriggerRule) :
    host.Reads before (fun result => ∃ wallet, result = .ok wallet) rule.owner := by
  unfold TriggerRule.owner
  cases rule.wallet with
  | none => exact (reads_freshId .wallet).imp fun _ ⟨wallet, given, _⟩ => ⟨wallet, given⟩
  | some wallet => exact proceeds_pure ⟨rfl, wallet, rfl⟩

/-- The conditions of a rule are made after its trigger. -/
theorem proceeds_installConditions (service : AutomateService) (rule : TriggerRule)
    {id : TriggerId} (holds : before.HoldsJust (parts ++ [⟨rule, id, 0, 0⟩])) :
    host.Proceeds before
      (fun store => ∃ count, store.HoldsJust (parts ++ [⟨rule, id, count, 0⟩]))
      (StepsEnd rule.conditions rule.conditionPart fun count store =>
        store.HoldsJust (parts ++ [⟨rule, id, count, 0⟩]))
      (rule.installConditions service id rule.conditions) := by
  rw [rule.installConditions_eq]
  refine proceeds_installSteps (fun count step before next here => ?_) rfl (Nat.zero_le _) holds
  refine (AutomateService.proceeds_addCondition service id step).imp
    (fun _ _ adds => adds.imp ?_) fun _ same => same
  rintro condition after ⟨left, added, rfl⟩
  exact here.condition rfl next added

/-- The actions of a rule are made after all its conditions. -/
theorem proceeds_installActions (service : AutomateService) (rule : TriggerRule)
    {id : TriggerId}
    (holds : before.HoldsJust (parts ++ [⟨rule, id, rule.conditions.length, 0⟩])) :
    host.Proceeds before
      (fun store => ∃ count,
        store.HoldsJust (parts ++ [⟨rule, id, rule.conditions.length, count⟩]))
      (StepsEnd rule.actions rule.actionPart fun count store =>
        store.HoldsJust (parts ++ [⟨rule, id, rule.conditions.length, count⟩]))
      (rule.installActions service id rule.actions) := by
  rw [rule.installActions_eq]
  refine proceeds_installSteps (fun count step before next here => ?_) rfl (Nat.zero_le _) holds
  refine (AutomateService.proceeds_addAction service id step).imp
    (fun _ _ adds => adds.imp ?_) fun _ same => same
  rintro action after ⟨left, added, rfl⟩
  exact here.action rfl next added

/-- A rule is installed after others. -/
theorem proceeds_installRule (service : AutomateService) (rule : TriggerRule)
    (holds : before.HoldsJust parts) :
    host.Proceeds before
      (fun store => ∃ begun, RulePart.Stage [rule] begun ∧ store.HoldsJust (parts ++ begun))
      (fun result after => ∃ begun, RulePart.Ends [rule] result begun ∧
        after.HoldsJust (parts ++ begun))
      (rule.install service) := by
  have nothing : before.HoldsJust (parts ++ []) := (List.append_nil parts).symm ▸ holds
  refine proceeds_bind_of_reads (reads_owner rule) ⟨[], .start _, nothing⟩
    (fun fault given => ?_) fun wallet _ => ?_
  · obtain ⟨wallet, never⟩ := given
    cases never
  refine proceeds_bind_of_adds (AutomateService.proceeds_createTrigger service wallet rule.name rule.kind)
    ⟨[], .start _, nothing⟩ (fun cause => ⟨[], .stopped rule [] (.unmade cause), nothing⟩)
    (fun cause trigger _ fit => ⟨_, .stopped rule [] (.trigger trigger.id cause), holds.begin fit⟩)
    fun trigger made fit => ?_
  refine proceeds_bind ((proceeds_installConditions service rule (holds.begin fit)).imp
    (fun _ _ => id) ?_) ?_ ?_
  · rintro store ⟨count, here⟩
    exact ⟨_, .part ⟨rule, trigger.id, count, 0⟩ [], here⟩
  · rintro fault after ends
    cases ends with
    | first count stored step cause next near here =>
      exact ⟨_, .stopped rule [] (.condition trigger.id count stored step cause next near), here⟩
  rintro ⟨⟩ after ends
  cases ends with
  | all here =>
    refine (proceeds_installActions service rule here).imp (fun result final ends => ?_) ?_
    · cases ends with
      | all made => exact ⟨_, .next rule trigger.id .all, made⟩
      | first count stored step cause next near made =>
        exact ⟨_, .stopped rule [] (.action trigger.id count stored step cause next near), made⟩
    · rintro store ⟨count, made⟩
      exact ⟨_, .part ⟨rule, trigger.id, rule.conditions.length, count⟩ [], made⟩

/-- Rules are installed after others. -/
theorem proceeds_installEach (service : AutomateService) (rules : List TriggerRule)
    (holds : before.HoldsJust parts) :
    host.Proceeds before
      (fun store => ∃ begun, RulePart.Stage rules begun ∧ store.HoldsJust (parts ++ begun))
      (fun result after => ∃ begun, RulePart.Ends rules result begun ∧
        after.HoldsJust (parts ++ begun))
      (service.installEach rules) := by
  -- With every rule that is installed there is one more whole part to begin with.
  induction rules generalizing before parts with
  | nil => exact proceeds_pure ⟨[], .all, (List.append_nil parts).symm ▸ holds⟩
  | cons rule rest inductionHypothesis =>
    refine proceeds_bind ((proceeds_installRule service rule holds).imp (fun _ _ => id) ?_) ?_ ?_
    · rintro store ⟨begun, stage, here⟩
      exact ⟨begun, stage.extend rest, here⟩
    · rintro fault after ⟨begun, ends, here⟩
      cases ends with
      | stopped _ _ stops => exact ⟨begun, .stopped rule rest stops, here⟩
      | next _ id never => cases never
    · rintro ⟨⟩ after ⟨begun, ends, here⟩
      cases ends with
      | next _ id last =>
        cases last
        refine (inductionHypothesis here).imp ?_ ?_
        · rintro result final ⟨more, ends, there⟩
          exact ⟨_, .next rule id ends, List.append_cons .. ▸ there⟩
        · rintro store ⟨more, stage, there⟩
          exact ⟨_, .next rule id stage, List.append_cons .. ▸ there⟩

end FaultyHost

/-- A rule is in the store as a whole: its trigger as it was made, and its conditions and actions
in the order in which they are taken. -/
structure TriggerRule.IsInstalled (rule : TriggerRule) (store : AutomateStore) (id : TriggerId) :
    Prop where
  trigger : ∃ trigger, store.trigger? id = some trigger ∧ trigger.IsUnrun rule.name rule.kind
  conditions : (store.conditionsOf id).map Step.asRule = StepRule.inOrder rule.conditions
  actions : (store.actionsOf id).map Step.asRule = StepRule.inOrder rule.actions

/-- Every action in the store is one of a rule whose conditions are all there. -/
def AutomateStore.Guards (store : AutomateStore) (rules : List TriggerRule) : Prop :=
  ∀ action ∈ store.actions, ∃ rule ∈ rules, action.asRule ∈ rule.actions ∧
    (store.conditionsOf action.trigger).map Step.asRule = StepRule.inOrder rule.conditions

namespace AutomateStore.HoldsJust

variable {store : AutomateStore} {parts : List RulePart} {rules : List TriggerRule}

theorem guards (holds : store.HoldsJust parts) (known : ∀ part ∈ parts, part.rule ∈ rules) :
    store.Guards rules := by
  intro action member
  obtain ⟨part, inside, same⟩ := List.mem_map.mp (holds.actions action member)
  obtain ⟨-, conditions, actions, guarded⟩ := holds.each part inside
  have own : action.asRule ∈ part.rule.actions.take part.actions :=
    actions.asRule_mem member same.symm
  have some : 0 < part.actions := by
    refine Nat.pos_of_ne_zero fun none => ?_
    rw [none, List.take_zero] at own
    cases own
  refine ⟨part.rule, known part inside, List.mem_of_mem_take own, ?_⟩
  rw [guarded some] at conditions
  rw [conditionsOf, ← same, conditions.ofTrigger, List.take_length]

theorem isInstalled {rule : TriggerRule} {id : TriggerId} (holds : store.HoldsJust parts)
    (member : .whole rule id ∈ parts) : rule.IsInstalled store id := by
  obtain ⟨trigger, conditions, actions, -⟩ := holds.each _ member
  refine ⟨trigger, ?_, ?_⟩
  · exact conditions.ofTrigger.trans (congrArg StepRule.inOrder List.take_length)
  · exact actions.ofTrigger.trans (congrArg StepRule.inOrder List.take_length)

theorem forall_isInstalled {ids : List TriggerId} (holds : store.HoldsJust parts)
    (length : ids.length = rules.length)
    (wholes : ∀ part ∈ List.zipWith RulePart.whole rules ids, part ∈ parts) :
    List.Forall₂ (·.IsInstalled store ·) rules ids := by
  refine List.forall₂_iff_zip.mpr ⟨length.symm, fun {rule id} member => ?_⟩
  refine holds.isInstalled (wholes _ ?_)
  rw [← List.map_uncurry_zip_eq_zipWith]
  exact List.mem_map_of_mem member

end AutomateStore.HoldsJust

/-- What there is of rules when their installation into an empty store has ended. -/
inductive Installation (rules : List TriggerRule) (store : AutomateStore) :
    Except InstallFault Nat → Prop
  | complete (ids : List TriggerId) (each : List.Forall₂ (·.IsInstalled store ·) rules ids)
      (triggers : store.triggers.length = rules.length)
      (just : store.HoldsJust (List.zipWith .whole rules ids)) :
      Installation rules store (.ok rules.length)
  | stopped (done : List TriggerRule) (rule : TriggerRule) (later : List TriggerRule)
      (fault : InstallFault) (ids : List TriggerId) (begun : List RulePart)
      (order : rules = done ++ rule :: later)
      (each : List.Forall₂ (·.IsInstalled store ·) done ids) (stops : rule.Stops fault begun)
      (just : store.HoldsJust (List.zipWith .whole done ids ++ begun)) :
      Installation rules store (.error fault)

namespace AutomateService

variable {State : Type} {host : FaultyHost State}

/-- Rules are installed into an empty store, and every call of it and of the subscriber may fail.
The installation comes to an end. If it succeeds, the store holds all rules and nothing else; if
not, it holds the rules before the one that failed, and of this rule its trigger, the first of its
conditions and, if these are all, the first of its actions. At no moment is there an action without
all the conditions of its rule. -/
theorem installs (service : AutomateService) (rules : List TriggerRule) {start : State}
    (empty : host.store start = .empty) (fresh : host.GivesNew (service.install rules).run start) :
    (∃ result finish,
      (service.install rules).run.run host.answer start = (some result, finish) ∧
        Installation rules (host.store finish) result ∧ (host.store finish).Guards rules) ∧
      ∀ moment, (service.install rules).run.Underway host.answer start moment →
        (∃ parts, RulePart.Stage rules parts ∧ (host.store moment).HoldsJust parts) ∧
          (host.store moment).Guards rules := by
  have whole : host.Proceeds .empty
      (fun store => ∃ parts, RulePart.Stage rules parts ∧ store.HoldsJust parts)
      (fun result store => Installation rules store result ∧ store.Guards rules)
      (service.install rules) := by
    refine FaultyHost.proceeds_bind
      (FaultyHost.proceeds_installEach service rules AutomateStore.HoldsJust.empty) ?_ ?_
    · rintro fault store ⟨parts, ends, holds⟩
      have guards := holds.guards fun part => ends.stage.rule_mem
      obtain ⟨done, rule, later, ids, begun, order, length, stops, rfl⟩ := ends.of_error
      refine ⟨.stopped done rule later fault ids begun order ?_ stops holds, guards⟩
      exact holds.forall_isInstalled length fun part => List.mem_append_left begun
    · rintro ⟨⟩ store ⟨parts, ends, holds⟩
      have guards := holds.guards fun part => ends.stage.rule_mem
      obtain ⟨ids, length, rfl⟩ := ends.of_ok
      refine FaultyHost.proceeds_pure ⟨.complete ids ?_ ?_ holds, guards⟩
      · exact holds.forall_isInstalled length fun part => id
      · have counted := holds.triggers.length_eq
        rw [List.nil_append, List.length_map, List.length_map, List.length_zipWith, length,
          Nat.min_self] at counted
        exact counted
  obtain ⟨⟨result, finish, ran, ended⟩, always⟩ := whole start empty fresh
  refine ⟨⟨result, finish, ran, ended⟩, fun moment underway => ?_⟩
  obtain ⟨parts, stage, holds⟩ := always moment underway
  exact ⟨⟨parts, stage, holds⟩, holds.guards fun part => stage.rule_mem⟩

/-! ### A store that fails in the midst -/

/-- A service with all kinds of steps. -/
def wideService : AutomateService :=
  ⟨Zone.ofName?, ⟨ConditionKind.all.map fun kind => (kind, kind.handler Zone.ofName?)⟩,
    ⟨ActionKind.all.map fun kind => (kind, kind.handler "automate")⟩⟩

/-- Two rules, of which the second has two conditions. -/
def twoRules : List TriggerRule :=
  let message := Json.record [("contact", .string "owner"), ("message", .string "due")]
  [⟨some ⟨.ofNat 9⟩, "first", .everyHour, [⟨.schedule, .record [], 1⟩],
      [⟨.notification, message, 2⟩, ⟨.notification, message, 1⟩]⟩,
    ⟨none, "second", .everyDay 9 none, [⟨.schedule, .record [], 2⟩, ⟨.schedule, .record [], 1⟩],
      [⟨.notification, message, 1⟩]⟩]

/-- A world in which the store refuses to save a third condition. -/
def failingStart : World Simulated :=
  { World.start ⟨7, 0⟩ (.memory .empty) (fun _ => 0) ⟨fun _ count => .ofNat (count + 1), fun _ => 0⟩
      .empty with
    faults := FaultPlan.none.set .saveCondition [none, none, some "down"] }

/-- What comes of the rules in this world. -/
def failingInstall : Option (Except InstallFault Nat) × World Simulated :=
  (wideService.install twoRules).run.run World.automateHost.toFaulty.answer failingStart

/-- The first rule is there as a whole, and the second one with the first of its conditions. -/
theorem installs_failing :
    World.automateHost.toFaulty.store failingStart = .empty ∧
      World.automateHost.toFaulty.GivesNew (wideService.install twoRules).run failingStart ∧
      failingInstall.1 =
        some (.error ⟨"trigger 'second': condition schedule", .store (.backend "down")⟩) ∧
      failingInstall.2.automate.conditions.length = 2 ∧
      failingInstall.2.automate.actions.map (·.priority) = [2, 1] ∧
      ∃ result, failingInstall.1 = some result ∧
        Installation twoRules failingInstall.2.automate result := by
  have empty : World.automateHost.toFaulty.store failingStart = .empty := rfl
  have fresh : World.automateHost.toFaulty.GivesNew (wideService.install twoRules).run
      failingStart := by decide +kernel
  obtain ⟨⟨result, finish, ran, installation, -⟩, -⟩ := installs wideService twoRules empty fresh
  have ends : failingInstall = (some result, finish) := ran
  refine ⟨empty, fresh, by decide +kernel, by decide +kernel, by decide +kernel, result, ?_, ?_⟩
  · rw [ends]
  · rw [ends]
    exact installation

end AutomateService

end TaskAutomation
