import TaskAutomation.Engine.Dispatcher
import TaskAutomation.Json.Decode
import TaskAutomation.Time.Rfc3339

/-!
This file defines a handler whose params are a script of what it does. It serves to rehearse every
way in which a run can go: what a handler can gather, what can happen to the clock meanwhile, and
how the run can end.
-/

namespace TaskAutomation

/-- What a script does on the way. -/
inductive ScriptCall where
  | info (line : String)
  | replaceParams (params : Json)
  /-- The clock moves on. -/
  | elapse (span : Span)
  /-- Adds a line on the run itself. -/
  | describe
  deriving BEq, Repr

/-- How a script ends. -/
inductive ScriptEnd where
  | done
  | later (time : Instant)
  | laterIn (span : Span)
  /-- The run ends in a failure and keeps what it has gathered. -/
  | error (failure : Failure)
  /-- The handler itself fails, and what it has gathered is lost. -/
  | abandon (failure : Failure)
  /-- The run waits and is done then. -/
  | sleep (delay : Delay)
  | panic (message : String)
  | hang
  deriving BEq, Repr

/-- A script. -/
structure Script where
  calls : List ScriptCall
  ending : ScriptEnd
  deriving BEq, Repr

namespace Script

/-- The params of a scripted handler: a record whose label, if it has one, is not empty. -/
def check (json : Json) : Except Invalid Json :=
  match json with
  | .record _ =>
    if json.field? "label" == some (.string "") then .error (.plain "label") else .ok json
  | _ => .error (.withDetail "script" "not an object")

/-- What a run shows of itself. -/
def describe (run : Run Json) : String :=
  run.task.id.display ++ " attempt=" ++ toString run.task.attempt ++ " now=" ++
    Rfc3339.write run.now ++ " handler=" ++ run.task.handler ++ " params=" ++ run.params.compact

/-- Does what comes before the end. -/
def perform : List ScriptCall → Run Json → Program (Run Json)
  | [], run => .pure run
  | .info line :: rest, run => perform rest (run.addInfo line)
  | .replaceParams params :: rest, run => perform rest (run.replaceParams params params)
  | .elapse span :: rest, run => (Program.ask (.elapse span)).bind fun _ => perform rest run
  | .describe :: rest, run => perform rest (run.addInfo (describe run))

/-- Ends a run. -/
def conclude (run : Run Json) : ScriptEnd → Work Failure Outcome
  | .done => return run.done
  | .later time => return run.later time
  | .laterIn span => return run.laterIn span
  | .error failure => return run.error failure
  | .abandon failure => Work.ofExcept (.error failure)
  | .sleep delay =>
    Work.ofProgram (.sleep delay (.pure (run.addInfo "slept").done))
  | .panic message => Work.ofProgram (.panic message)
  | .hang => Work.ofProgram .hang

/-- Plays a script from its first call to its end. -/
def play (script : Script) (run : Run Json) : Work Failure Outcome := do
  let run ← Work.ofProgram (perform script.calls run)
  conclude run script.ending

/-- The handler that plays the script in the params of its task. -/
def handler (read : Json → Script) : Handler :=
  Handler.typed check fun run => (read run.params).play run

end Script

end TaskAutomation
