import TaskAutomation.Engine.Transaction
import TaskAutomation.Proofs.Automation.Params
import TaskAutomation.Proofs.Engine.OwnHandlers
import TaskAutomation.Proofs.Engine.Protocol
import TaskAutomation.Proofs.Engine.Watcher

/-!
This file follows one run of a transaction. Such a run asks the world outside for one thing at most:
it sends the transaction if no hash is known, and otherwise it asks for the receipt of the hash.
What it then writes back depends on the reply. A task is done only when a receipt was good, and a
task that is put off keeps the hash that is known by then; after a verdict it is not put off.
-/

namespace TaskAutomation

/-! ### What is asked of the world outside -/

/-- A request to the world outside with the reply to it. -/
structure Exchange where
  request : OutsideRequest
  reply : Except Failure request.Result

namespace Exchange

/-- The hash of a transaction that was sent. -/
def sent? : Exchange → Option String
  | ⟨.send _ _, .ok hash⟩ => some hash
  | _ => none

/-- The verdict on a transaction: it has succeeded, or it was reverted. -/
def verdict? : Exchange → Option Bool
  | ⟨.receipt _ _, .ok verdict⟩ => verdict
  | _ => none

end Exchange

namespace TransactionRun

/-- What is asked next for a transaction. -/
def request (run : TransactionRun) : OutsideRequest :=
  match run.txHash with
  | none => .send run.network run.automate
  | some hash => .receipt run.network hash

/-- What one run has asked for a transaction, the hash that is known after it, and the verdict. -/
inductive Round (run : TransactionRun) : List Exchange → Option String → Option Bool → Prop
  | silent : Round run [] run.txHash none
  | unsent (unknown : run.txHash = none) (failure : Failure) :
      Round run [⟨.send run.network run.automate, .error failure⟩] none none
  | sent (unknown : run.txHash = none) (hash : String) :
      Round run [⟨.send run.network run.automate, .ok hash⟩] (some hash) none
  | unanswered (hash : String) (known : run.txHash = some hash) (failure : Failure) :
      Round run [⟨.receipt run.network hash, .error failure⟩] (some hash) none
  | answered (hash : String) (known : run.txHash = some hash) (verdict : Option Bool) :
      Round run [⟨.receipt run.network hash, .ok verdict⟩] (some hash) verdict

/-- After any reply to what is asked next a round is over. -/
theorem exists_round (run : TransactionRun) (reply : Except Failure run.request.Result) :
    ∃ known verdict, run.Round [⟨run.request, reply⟩] known verdict := by
  obtain ⟨network, automate, known⟩ := run
  cases known with
  | none =>
    cases reply with
    | error failure => exact ⟨_, _, .unsent rfl failure⟩
    | ok hash => exact ⟨_, _, .sent rfl hash⟩
  | some hash =>
    cases reply with
    | error failure => exact ⟨_, _, .unanswered hash rfl failure⟩
    | ok verdict => exact ⟨_, _, .answered hash rfl verdict⟩

end TransactionRun

/-! ### A dispatcher with a task in hand -/

/-- A task that was claimed, and what was asked of the world outside since then. -/
structure Holding where
  task : Task
  asked : List Exchange

namespace Holding

/-- The task is that of a transaction. -/
structure Pursues (holding : Holding) (run : TransactionRun) : Prop where
  handler : holding.task.handler = TaskKind.transactionRun.name
  params : TransactionRun.decode holding.task.params = .ok run

variable (holding : Holding)

/-- The request is the only one of the run, and it is what has to be asked next. -/
def MayAsk (request : OutsideRequest) : Prop :=
  ∀ run, holding.Pursues run → holding.asked = [] ∧ request = run.request

/-- The transaction has succeeded. -/
def Succeeded : Prop :=
  ∀ run, holding.Pursues run → ∃ hash, run.Round holding.asked hash (some true)

/-- There is no verdict yet, and some params, if there are new ones, hold the hash that is known. -/
def IsOpen (params : Option Json) : Prop :=
  ∀ run, holding.Pursues run → ∃ hash, run.Round holding.asked hash none ∧
    (params = none ∧ hash = run.txHash ∨
      params = some (TransactionRun.encode { run with txHash := hash }))

end Holding

/-- How a dispatcher sees transactions through. Its position is the task that it has in hand. -/
def pursuit : Protocol (Option Holding) where
  allows position
    | .tasks (.claim _ _) => position = none
    | .tasks (.complete report) =>
      ∃ holding, position = some holding ∧ report.id = holding.task.id ∧ holding.Succeeded
    | .tasks (.reschedule report _) =>
      ∃ holding, position = some holding ∧ report.id = holding.task.id ∧
        holding.IsOpen report.params
    | .tasks (.fail report _) => ∃ holding, position = some holding ∧ report.id = holding.task.id
    | .tasks (.reap _) => False
    | .outside own => ∀ holding, position = some holding → holding.MayAsk own
    | _ => True
  leads position
    | .tasks (.claim _ _), .ok (some task) => some ⟨task, []⟩
    | .tasks (.complete _), _ | .tasks (.reschedule _ _), _ | .tasks (.fail _ _), _ => none
    | .outside own, reply =>
      position.map fun holding => { holding with asked := holding.asked ++ [⟨own, reply⟩] }
    | _, _ => position

/-! ### Outcomes -/

namespace Holding

/-- How a run may end: it is done only if the transaction has succeeded, and if there may be a
further run, there is no verdict yet and the hash that is known is kept. -/
structure Concludes (holding : Holding) (outcome : Outcome) : Prop where
  done : outcome.conclusion = .done → holding.Succeeded
  further : outcome.conclusion ≠ .done →
    (∀ failure, outcome.conclusion = .error failure → failure.kind.isRetryable = true) →
      holding.IsOpen outcome.params

variable {holding : Holding} {outcome : Outcome}

/-- A run that is none of a transaction may end in any way. -/
theorem concludes_of_other (other : holding.task.handler ≠ TaskKind.transactionRun.name) :
    holding.Concludes outcome where
  done _ _ pursues := absurd pursues.handler other
  further _ _ _ pursues := absurd pursues.handler other

/-- A run may fail if its round leaves the hash that is known as it was. -/
theorem concludes_failed
    (round : ∀ run, holding.Pursues run → run.Round holding.asked run.txHash none)
    (failure : Failure) : holding.Concludes (.failed failure) where
  done same := nomatch same
  further _ _ run pursues := ⟨_, round run pursues, Or.inl ⟨rfl, rfl⟩⟩

theorem concludes_failed_silent (task : Task) (failure : Failure) :
    Concludes ⟨task, []⟩ (.failed failure) :=
  concludes_failed (fun _ _ => .silent) failure

/-- A run of a task has ended in an outcome. -/
def Ended (task : Task) (position : Option Holding) (outcome : Outcome) : Prop :=
  ∃ asked, position = some ⟨task, asked⟩ ∧ Concludes ⟨task, asked⟩ outcome

theorem ended_failed (task : Task) (failure : Failure) :
    Ended task (some ⟨task, []⟩) (.failed failure) :=
  ⟨[], rfl, concludes_failed_silent task failure⟩

end Holding

namespace TransactionRun

open Holding

theorem isPrompt_handler (poll : Span) (task : Task) (now : Instant) :
    (handler poll task now).IsPrompt := by
  unfold handler Handler.typed
  cases parse task.params with
  | error invalid => trivial
  | ok run =>
    unfold work
    cases known : run.txHash with
    | none =>
      simp only [Run.start, known]
      rintro (failure | hash) <;> trivial
    | some hash =>
      simp only [Run.start, known]
      rintro (failure | verdict)
      · trivial
      · obtain _ | _ | _ := verdict <;> trivial

/-- A run of a transaction asks once at most, and it ends as it may after the reply. -/
theorem follows_handler (poll : Span) (task : Task) (now : Instant) :
    (handler poll task now).Follows pursuit (Ended task) (some ⟨task, []⟩) := by
  unfold handler Handler.typed
  cases parsed : parse task.params with
  | error invalid => exact ended_failed task _
  | ok run =>
    have own {asked : List Exchange} {other : TransactionRun}
        (pursues : Pursues ⟨task, asked⟩ other) : run = other :=
      Except.ok.inj ((readParams_eq_ok.mp parsed).1.symm.trans pursues.params)
    have next {request : OutsideRequest} (same : run.request = request) (holding : Holding)
        (here : some ⟨task, []⟩ = some holding) : holding.MayAsk request := by
      cases here
      intro other pursues
      exact ⟨rfl, own pursues ▸ same.symm⟩
    unfold work
    cases known : run.txHash with
    | none =>
      simp only [Run.start, known]
      refine ⟨next (by rw [request, known]), fun reply => ?_⟩
      cases reply with
      | error failure =>
        refine ⟨_, rfl, concludes_failed (fun other pursues => ?_) failure⟩
        obtain rfl := own pursues
        rw [known]
        exact .unsent known failure
      | ok hash =>
        refine ⟨_, rfl, nofun, fun _ _ other pursues => ?_⟩
        obtain rfl := own pursues
        exact ⟨some hash, .sent known hash, Or.inr rfl⟩
    | some hash =>
      simp only [Run.start, known]
      refine ⟨next (by rw [request, known]), fun reply => ?_⟩
      cases reply with
      | error failure =>
        refine ⟨_, rfl, concludes_failed (fun other pursues => ?_) failure⟩
        obtain rfl := own pursues
        rw [known]
        exact .unanswered hash known failure
      | ok verdict =>
        match verdict with
        | none =>
          refine ⟨_, rfl, nofun, fun _ _ other pursues => ?_⟩
          obtain rfl := own pursues
          exact ⟨some hash, .answered hash known none, Or.inl ⟨rfl, known.symm⟩⟩
        | some true =>
          refine ⟨_, rfl, fun _ other pursues => ?_, fun unfinished => absurd rfl unfinished⟩
          obtain rfl := own pursues
          exact ⟨some hash, .answered hash known (some true)⟩
        | some false =>
          -- A transaction that was reverted fails for good.
          exact ⟨_, rfl, nofun, fun _ retryable => nomatch retryable _ rfl⟩

end TransactionRun

/-! ### Dispatching -/

/-- A dispatcher sees transactions through with the handler for them, if it has any, and no other
handler claims a task, reports on one or takes one back. -/
structure Dispatcher.SeesThrough (dispatcher : Dispatcher) : Prop where
  transactions : ∀ handler, dispatcher.registry.find? .transactionRun = some handler →
    ∃ poll, handler = TransactionRun.handler poll
  others : ∀ kind handler, dispatcher.registry.find? kind = some handler → kind ≠ .transactionRun →
    ∀ task now, (handler task now).Ensures Request.LeavesRuns (fun _ _ => True) fun _ => True

namespace Dispatcher

open Holding

variable {dispatcher : Dispatcher}

/-- A handler for other tasks keeps to the protocol, since nothing is asked of it. -/
theorem follows_other {handler : Handler} {task : Task} {now : Instant}
    (ensures : (handler task now).Ensures Request.LeavesRuns (fun _ _ => True) fun _ => True)
    (other : task.handler ≠ TaskKind.transactionRun.name) (limit : Nat) :
    ((handler task now).within limit).Follows pursuit
      (fun position _ => ∃ asked, position = some ⟨task, asked⟩) (some ⟨task, []⟩) := by
  have within : ((handler task now).within limit).Ensures Request.LeavesRuns (fun _ _ => True)
      fun _ => True := (ensures.within limit).imp fun _ _ => trivial
  refine within.follows ?_ ⟨[], rfl⟩
  rintro _ ⟨asked, rfl⟩ request leaves
  cases leaves with
  | push | purge => exact ⟨trivial, fun _ => ⟨asked, rfl⟩⟩
  | spares request spares =>
    cases request with
    | tasks own => exact absurd rfl (spares own)
    | outside own =>
      refine ⟨?_, fun reply => ⟨_, rfl⟩⟩
      rintro _ ⟨⟩ run pursues
      exact absurd pursues.handler other
    | _ => exact ⟨trivial, fun _ => ⟨asked, rfl⟩⟩

/-- A run ends as it may. -/
theorem SeesThrough.follows_outcome (sees : dispatcher.SeesThrough) (task : Task) (now : Instant) :
    (dispatcher.outcome task now).Follows pursuit (Ended task) (some ⟨task, []⟩) := by
  unfold outcome
  split
  · next kind handler resolved =>
    obtain ⟨named, listed⟩ := find?_of_resolveName resolved
    show Program.Follows pursuit (Ended task) (if _ then _ else _ : Program Outcome) _
    split
    · exact ended_failed task _
    · by_cases own : kind = .transactionRun
      · obtain ⟨poll, rfl⟩ := sees.transactions handler (own ▸ listed)
        refine ((TransactionRun.follows_handler poll task now).within
          (TransactionRun.isPrompt_handler poll task now) _).bind fun position ending known => ?_
        obtain ⟨outcome, rfl, ended⟩ := known
        exact ended
      · have other : task.handler ≠ TaskKind.transactionRun.name := fun same => by
          rw [same] at named
          exact own (Option.some.inj named).symm
        refine (follows_other (sees.others kind handler listed own task now) other _).bind ?_
        rintro _ ending ⟨asked, rfl⟩
        exact ⟨asked, rfl, concludes_of_other other⟩
  · exact ended_failed task _

/-- The decision on a run is written back as it may be. -/
theorem follows_apply {holding : Holding} {outcome : Outcome}
    (concludes : holding.Concludes outcome) (finishedAt : Instant) :
    (apply (report holding.task outcome finishedAt)
      (dispatcher.decider.decide holding.task outcome.conclusion finishedAt)).run.Follows pursuit
        (fun _ _ => True) (some holding) := by
  have decides := dispatcher.decider.decides holding.task outcome.conclusion finishedAt
  generalize dispatcher.decider.decide holding.task outcome.conclusion finishedAt = decision
    at decides
  have putOff (further : holding.IsOpen outcome.params) (time : Instant) (reason : String) :
      (apply (report holding.task outcome finishedAt) (.reschedule time reason)).run.Follows pursuit
        (fun _ _ => True) (some holding) := by
    refine ⟨⟨holding, rfl, ?_, ?_⟩, fun _ => trivial⟩
    · show RunReport.id (if _ then _ else _) = _
      split <;> rfl
    · show holding.IsOpen (RunReport.params (if _ then _ else _))
      split <;> exact further
  generalize concluded : outcome.conclusion = conclusion at decides
  cases decides with
  | done => exact ⟨⟨holding, rfl, rfl, concludes.done concluded⟩, fun _ => trivial⟩
  | gaveUp failure reason final => exact ⟨⟨holding, rfl, rfl⟩, fun _ => trivial⟩
  | later time reason =>
    exact putOff (concludes.further (by simp [concluded]) (by simp [concluded])) time reason
  | retried failure reason more =>
    refine putOff (concludes.further (by simp [concluded]) fun other same => ?_) _ reason
    obtain rfl := Conclusion.error.inj (concluded.symm.trans same)
    exact Bool.of_not_eq_false fun permanent => more (Or.inl permanent)

/-- A dispatcher sees transactions through, whatever replies it gets. -/
theorem SeesThrough.follows_runOnce (sees : dispatcher.SeesThrough) :
    dispatcher.runOnce.run.Follows pursuit (fun _ _ => True) none := by
  refine ⟨trivial, fun now => ⟨rfl, fun reply => ?_⟩⟩
  match reply with
  | .error fault => trivial
  | .ok none => trivial
  | .ok (some task) =>
    refine Work.follows_bind (Work.follows_ofProgram (sees.follows_outcome task now))
      (fun _ _ _ => trivial) fun position outcome known => ?_
    obtain ⟨_, same, asked, rfl, concludes⟩ := known
    cases same
    refine ⟨trivial, fun finishedAt => ?_⟩
    exact Work.follows_bind (follows_apply concludes finishedAt) (fun _ _ _ => trivial)
      fun _ _ _ => trivial

end Dispatcher

/-- The dispatcher of an engine sees transactions through. -/
theorem Engine.seesThrough {known : KnownZones} {config : Config}
    {conditions : List ConditionKind} {actions : List ActionKind} {engine : Engine}
    (assembled : assemble known config conditions actions = .ok engine) :
    engine.dispatcher.SeesThrough where
  transactions handler found := by
    have member := Registry.mem_of_find? found
    rw [registry_of_assemble assembled] at member
    exact ⟨config.automate.transactionPoll, by simpa [handlers] using member⟩
  others kind handler found _ task now :=
    Program.ensures_of_asks fun oracle =>
      leavesRuns assembled Oracle.answer _ (Registry.mem_of_find? found) task now oracle

end TaskAutomation
