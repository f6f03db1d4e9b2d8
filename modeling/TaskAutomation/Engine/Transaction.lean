import TaskAutomation.Engine.Dispatcher
import TaskAutomation.Automation.Params

/-!
This file defines the life of a transaction. The first run sends it and keeps its hash in the
params; later runs ask whether it is settled, until it has succeeded or was reverted.
-/

namespace TaskAutomation

/-- Works on a transaction and asks for a later run while it is not settled. -/
def TransactionRun.work (poll : Span) (run : Run TransactionRun) : Work Failure Outcome := do
  match run.params.txHash with
  | none =>
    let hash ← OutsideRequest.ask (.send run.params.network run.params.automate)
    let next : TransactionRun := { run.params with txHash := some hash }
    return ((run.addInfo ("sent " ++ hash)).replaceParams next next.encode).laterIn poll
  | some hash =>
    match ← OutsideRequest.ask (.receipt run.params.network hash) with
    | none => return run.laterIn poll
    | some true => return (run.addInfo ("mined " ++ hash)).done
    | some false => return run.error (.permanent ("transaction " ++ hash ++ " reverted"))

/-- The handler of the tasks that see transactions through. -/
def TransactionRun.handler (poll : Span) : Handler :=
  Handler.typed TransactionRun.parse (TransactionRun.work poll)

end TaskAutomation
