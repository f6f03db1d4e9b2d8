import TaskAutomation.Automation.RuleFile
import TaskAutomation.Engine.Service

/-!
This file installs rules: every rule becomes a trigger with its conditions and actions, made through
the service one after the other. The first fault ends the installation, and what was made before it
stays.
-/

namespace TaskAutomation

/-- A fault during the installation of rules, and the part of the rules it belongs to. -/
structure InstallFault where
  part : String
  cause : ServiceFault
  deriving DecidableEq, Repr

def InstallFault.message (fault : InstallFault) : String :=
  fault.part ++ ": " ++ fault.cause.message

namespace TriggerRule

/-- What the rule is called in messages. -/
def title (rule : TriggerRule) : String := "trigger '" ++ rule.name ++ "'"

/-- The owner that the rule names, or a new one. -/
def owner (rule : TriggerRule) : Work InstallFault WalletId :=
  match rule.wallet with
  | some wallet => return wallet
  | none => Request.freshId .wallet

/-- Makes the conditions of a rule. -/
def installConditions (service : AutomateService) (rule : TriggerRule) (trigger : TriggerId) :
    List (StepRule ConditionKind) → Work InstallFault Unit
  | [] => return ()
  | step :: rest => do
    let _ ← (service.addCondition trigger step.kind step.params step.priority).mapFault
      (InstallFault.mk (rule.title ++ ": condition " ++ step.kind.name))
    rule.installConditions service trigger rest

/-- Makes the actions of a rule. -/
def installActions (service : AutomateService) (rule : TriggerRule) (trigger : TriggerId) :
    List (StepRule ActionKind) → Work InstallFault Unit
  | [] => return ()
  | step :: rest => do
    let _ ← (service.addAction trigger step.kind step.params step.priority).mapFault
      (InstallFault.mk (rule.title ++ ": action " ++ step.kind.name))
    rule.installActions service trigger rest

/-- Makes the trigger of a rule with all its steps. -/
def install (service : AutomateService) (rule : TriggerRule) : Work InstallFault Unit := do
  let wallet ← rule.owner
  let trigger ← (service.createTrigger wallet rule.name rule.kind).mapFault
    (InstallFault.mk rule.title)
  rule.installConditions service trigger.id rule.conditions
  rule.installActions service trigger.id rule.actions

end TriggerRule

namespace AutomateService

/-- Makes the triggers of rules in their order. -/
def installEach (service : AutomateService) : List TriggerRule → Work InstallFault Unit
  | [] => return ()
  | rule :: rest => do
    rule.install service
    service.installEach rest

/-- Installs rules and gives their number. -/
def install (service : AutomateService) (rules : List TriggerRule) : Work InstallFault Nat := do
  service.installEach rules
  return rules.length

end AutomateService

end TaskAutomation
