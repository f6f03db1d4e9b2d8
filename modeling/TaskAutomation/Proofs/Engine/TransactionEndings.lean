import TaskAutomation.Proofs.Engine.TransactionRounds

/-!
This file says how a dispatcher comes to give up a transaction. A run of it fails because its params
are refused, because there was no answer to what it asked for, or because the transaction was
reverted; and it is given up if no further attempt can mend that, or if there were enough of them. It
also says that nothing but such a run sends a transaction, and that every transaction that is queued
carries the sign of its contract.
-/

namespace TaskAutomation

/-! ### Queueing transactions -/

namespace TransactionRun

variable {run other : TransactionRun}

/-- Transactions of one contract carry one sign, in whatever case its address is written. -/
theorem collisionSign_eq (network : other.network = run.network)
    (automate : Text.lowerCase other.automate = Text.lowerCase run.automate) :
    other.collisionSign = run.collisionSign := by
  unfold collisionSign
  rw [network, automate]

/-- A transaction makes sense if its contract does and no hash that is known of it is blank. -/
theorem verify_eq_ok_iff : run.verify = .ok () ↔
    verify { run with txHash := none } = .ok () ∧ ∀ hash ∈ run.txHash, Text.isBlankText hash = false := by
  obtain ⟨network, automate, hash⟩ := run
  constructor
  · intro sound
    obtain ⟨_, network, sound⟩ := bind_eq_ok.mp sound
    obtain ⟨_, automate, sound⟩ := bind_eq_ok.mp sound
    refine ⟨bind_eq_ok.mpr ⟨_, network, bind_eq_ok.mpr ⟨_, automate, rfl⟩⟩, ?_⟩
    rintro hash ⟨⟩
    refine eq_false_of_ne_true fun blank => ?_
    cases sound.symm.trans (if_pos blank)
  · rintro ⟨sound, visible⟩
    obtain ⟨_, network, sound⟩ := bind_eq_ok.mp sound
    obtain ⟨_, automate, -⟩ := bind_eq_ok.mp sound
    refine bind_eq_ok.mpr ⟨_, network, bind_eq_ok.mpr ⟨_, automate, ?_⟩⟩
    cases hash with
    | none => rfl
    | some hash => exact if_neg (ne_true_of_eq_false (visible hash rfl))

/-- If a transaction is queued this way, it carries the sign of its contract. -/
def Signs (handler : String) (params : Json) (options : PushOptions) : Prop :=
  handler = TaskKind.transactionRun.name → ∃ run : TransactionRun,
    params = run.encode ∧ options.collisionSign = some run.collisionSign

end TransactionRun

/-- The request is one of a handler for other tasks: it has no say in runs, sends no transaction, and
queues none without the sign of its contract. -/
def Request.SparesTransactions : Request → Prop
  | .tasks (.push handler params options) => TransactionRun.Signs handler params options
  | .tasks (.purge _) => True
  | .tasks _ => False
  | .outside (.send _ _) => False
  | _ => True

theorem Request.SparesTransactions.leavesRuns {request : Request}
    (spares : request.SparesTransactions) : request.LeavesRuns := by
  cases request with
  | tasks own =>
    cases own with
    | push handler params options => exact .push handler params options
    | purge before => exact .purge before
    | _ => exact spares.elim
  | _ => exact .spares _ nofun

/-! ### Runs that fail -/

namespace Holding

/-- Why a run of a transaction has failed. -/
inductive FailedAs (holding : Holding) (run : TransactionRun) (failure : Failure) : Prop
  | refused (unasked : holding.asked = []) (unsound : run.verify ≠ .ok ())
      (final : failure.kind.isRetryable = false) : FailedAs holding run failure
  | unanswered (request : OutsideRequest) (asked : holding.asked = [⟨request, .error failure⟩]) :
      FailedAs holding run failure
  | reverted (network hash : String)
      (asked : holding.asked = [⟨.receipt network hash, .ok (some false)⟩])
      (final : failure.kind.isRetryable = false) : FailedAs holding run failure

/-- A transaction in hand may be tried again: the last run got no answer. -/
def MayRetry (holding : Holding) : Prop :=
  ∀ run, holding.Pursues run → ∃ request failure, holding.asked = [⟨request, .error failure⟩]

/-- A transaction in hand may be given up: no further attempt can mend the failure, or there were
enough of them. -/
def MayGiveUp (holding : Holding) (attempts : Nat) : Prop :=
  ∀ run, holding.Pursues run → ∃ failure, holding.FailedAs run failure ∧
    (failure.kind.isRetryable = false ∨ attempts ≤ holding.task.attempt)

/-- A run of a task has ended in an outcome, and if it has failed, then for a reason. -/
def EndedFor (task : Task) (position : Option Holding) (outcome : Outcome) : Prop :=
  ∃ asked, position = some ⟨task, asked⟩ ∧ ∀ failure, outcome.conclusion = .error failure →
    ∀ run, Pursues ⟨task, asked⟩ run → FailedAs ⟨task, asked⟩ run failure

end Holding

/-- How dispatchers that grant a number of attempts at least take care of transactions. -/
def custody (attempts : Nat) : Protocol (Option Holding) where
  allows position
    | .tasks (.push handler params options) => TransactionRun.Signs handler params options
    | .tasks (.reschedule report _) =>
      ∀ holding, position = some holding → report.rearm = false → holding.MayRetry
    | .tasks (.fail _ _) => ∀ holding, position = some holding → holding.MayGiveUp attempts
    | .outside own =>
      (∀ holding run, position = some holding → holding.Pursues run → run.verify = .ok ()) ∧
        ∀ network automate, own = .send network automate →
          ∃ holding run, position = some holding ∧ holding.Pursues run
    | _ => True
  leads := pursuit.leads

namespace TransactionRun

open Holding

variable {attempts : Nat}

/-- A run of a transaction takes care of it, and if it fails, then for a reason. -/
theorem keepsCustody_handler {task : Task} (named : task.handler = TaskKind.transactionRun.name)
    (poll : Span) (now : Instant) :
    (handler poll task now).Follows (custody attempts) (EndedFor task) (some ⟨task, []⟩) := by
  unfold handler Handler.typed
  cases parsed : parse task.params with
  | error invalid =>
    refine ⟨[], rfl, ?_⟩
    rintro _ ⟨⟩ run pursues
    refine .refused rfl (fun sound => ?_) rfl
    cases parsed.symm.trans (readParams_eq_ok.mpr ⟨pursues.params, sound⟩)
  | ok run =>
    obtain ⟨decoded, sound⟩ := readParams_eq_ok.mp parsed
    have pursues : Pursues ⟨task, []⟩ run := ⟨named, decoded⟩
    have asks (own : OutsideRequest) :
        (custody attempts).allows (some ⟨task, []⟩) (.outside own) := by
      refine ⟨?_, fun _ _ _ => ⟨_, run, rfl, pursues⟩⟩
      rintro _ other ⟨⟩ others
      rw [← Except.ok.inj (decoded.symm.trans others.params)]
      exact sound
    unfold work
    cases known : run.txHash with
    | none =>
      simp only [Run.start, known]
      refine ⟨asks _, fun reply => ?_⟩
      cases reply with
      | error failure =>
        refine ⟨_, rfl, ?_⟩
        rintro _ ⟨⟩ other others
        exact .unanswered _ rfl
      | ok hash =>
        refine ⟨_, rfl, ?_⟩
        rintro _ ⟨⟩
    | some hash =>
      simp only [Run.start, known]
      refine ⟨asks _, fun reply => ?_⟩
      cases reply with
      | error failure =>
        refine ⟨_, rfl, ?_⟩
        rintro _ ⟨⟩ other others
        exact .unanswered _ rfl
      | ok verdict =>
        obtain _ | _ | _ := verdict
        · refine ⟨_, rfl, ?_⟩
          rintro _ ⟨⟩
        · refine ⟨_, rfl, ?_⟩
          rintro _ ⟨⟩ other others
          exact .reverted _ hash rfl rfl
        · refine ⟨_, rfl, ?_⟩
          rintro _ ⟨⟩

end TransactionRun

/-! ### Dispatching -/

/-- A dispatcher takes care of transactions: it has the handler for them and gives it time to run, it
grants a number of attempts at least, and no other handler interferes. -/
structure Dispatcher.KeepsCustody (dispatcher : Dispatcher) (attempts : Nat) : Prop where
  transactions : ∃ poll,
    dispatcher.registry.find? .transactionRun = some (TransactionRun.handler poll)
  others : ∀ kind handler, dispatcher.registry.find? kind = some handler → kind ≠ .transactionRun →
    ∀ task now,
      (handler task now).Ensures Request.SparesTransactions (fun _ _ => True) fun _ => True
  limited : dispatcher.handlerTimeout.nanos ≠ 0
  patient : attempts ≤ dispatcher.decider.maxAttempts

namespace Dispatcher

open Holding

variable {dispatcher : Dispatcher} {attempts : Nat}

theorem KeepsCustody.seesThrough (keeps : dispatcher.KeepsCustody attempts) :
    dispatcher.SeesThrough where
  transactions handler found := by
    obtain ⟨poll, listed⟩ := keeps.transactions
    exact ⟨poll, Option.some.inj (found.symm.trans listed)⟩
  others kind handler found other task now :=
    (keeps.others kind handler found other task now).mono
      (fun _ spares => spares.leavesRuns) fun _ _ _ => trivial

/-- A handler for other tasks leaves transactions alone. -/
theorem keepsCustody_other {handler : Handler} {task : Task} {now : Instant}
    (ensures :
      (handler task now).Ensures Request.SparesTransactions (fun _ _ => True) fun _ => True)
    (other : task.handler ≠ TaskKind.transactionRun.name) (limit : Nat) :
    ((handler task now).within limit).Follows (custody attempts)
      (fun position _ => ∃ asked, position = some ⟨task, asked⟩) (some ⟨task, []⟩) := by
  have within : ((handler task now).within limit).Ensures Request.SparesTransactions
      (fun _ _ => True) fun _ => True := (ensures.within limit).imp fun _ _ => trivial
  refine within.follows ?_ ⟨[], rfl⟩
  rintro _ ⟨asked, rfl⟩ request spares
  cases request with
  | tasks own =>
    cases own with
    | push => exact ⟨spares, fun _ => ⟨asked, rfl⟩⟩
    | purge => exact ⟨trivial, fun _ => ⟨asked, rfl⟩⟩
    | _ => exact spares.elim
  | outside own =>
    refine ⟨⟨?_, ?_⟩, fun reply => ⟨_, rfl⟩⟩
    · rintro _ run ⟨⟩ pursues
      exact absurd pursues.handler other
    · rintro _ _ rfl
      exact spares.elim
  | _ => exact ⟨trivial, fun _ => ⟨asked, rfl⟩⟩

/-- A run of a task that is none of a transaction may fail for any reason. -/
theorem endedFor_of_other {task : Task} (other : task.handler ≠ TaskKind.transactionRun.name)
    (asked : List Exchange) (outcome : Outcome) :
    EndedFor task (some ⟨task, asked⟩) outcome :=
  ⟨asked, rfl, fun _ _ _ pursues => absurd pursues.handler other⟩

/-- A run of a transaction fails only for a reason. -/
theorem KeepsCustody.follows_outcome (keeps : dispatcher.KeepsCustody attempts) (task : Task)
    (now : Instant) :
    (dispatcher.outcome task now).Follows (custody attempts) (EndedFor task)
      (some ⟨task, []⟩) := by
  unfold outcome
  cases resolved : dispatcher.registry.resolveName task.handler with
  | error fault =>
    refine endedFor_of_other (fun own => ?_) [] _
    obtain ⟨poll, listed⟩ := keeps.transactions
    rw [own] at resolved
    unfold TaskRegistry.resolveName at resolved
    rw [show TaskKind.ofName? TaskKind.transactionRun.name = some .transactionRun from rfl,
      Option.bind_some, listed] at resolved
    cases resolved
  | ok found =>
    obtain ⟨kind, handler⟩ := found
    obtain ⟨named, listed⟩ := find?_of_resolveName resolved
    show Program.Follows (custody attempts) (EndedFor task) (if _ then _ else _ : Program Outcome) _
    rw [if_neg keeps.limited]
    by_cases own : task.handler = TaskKind.transactionRun.name
    · obtain rfl : kind = .transactionRun := by
        rw [own] at named
        exact (Option.some.inj named).symm
      obtain ⟨poll, stored⟩ := keeps.transactions
      obtain rfl := Option.some.inj (listed.symm.trans stored)
      refine ((TransactionRun.keepsCustody_handler own poll now).within
        (TransactionRun.isPrompt_handler poll task now) _).bind fun position ending known => ?_
      obtain ⟨outcome, rfl, ended⟩ := known
      exact ended
    · have different : kind ≠ .transactionRun := by
        rintro rfl
        unfold TaskKind.ofName? at named
        have spelt := List.find?_some named
        exact own (eq_of_beq spelt).symm
      refine (keepsCustody_other (keeps.others kind handler listed different task now) own _).bind ?_
      rintro _ ending ⟨asked, rfl⟩
      exact endedFor_of_other own asked _

/-- A transaction is given up only for a reason, and it is tried again if there was no answer. -/
theorem KeepsCustody.follows_apply (keeps : dispatcher.KeepsCustody attempts) (holding : Holding)
    {outcome : Outcome} (reasons : ∀ failure, outcome.conclusion = .error failure →
      ∀ run, holding.Pursues run → holding.FailedAs run failure) (finishedAt : Instant) :
    (apply (report holding.task outcome finishedAt)
      (dispatcher.decider.decide holding.task outcome.conclusion finishedAt)).run.Follows
        (custody attempts) (fun _ _ => True) (some holding) := by
  have decides := dispatcher.decider.decides holding.task outcome.conclusion finishedAt
  generalize dispatcher.decider.decide holding.task outcome.conclusion finishedAt = decision
    at decides
  have putOff (retries : outcome.conclusion.isLater = false → holding.MayRetry) (time : Instant)
      (reason : String) :
      (apply (report holding.task outcome finishedAt) (.reschedule time reason)).run.Follows
        (custody attempts) (fun _ _ => True) (some holding) := by
    refine ⟨?_, fun _ => trivial⟩
    rintro _ ⟨⟩ armed
    refine retries (Eq.trans ?_ armed)
    show _ = RunReport.rearm (if _ then _ else _)
    split <;> rfl
  generalize concluded : outcome.conclusion = conclusion at decides
  cases decides with
  | done => exact ⟨trivial, fun _ => trivial⟩
  | gaveUp failure reason final =>
    refine ⟨?_, fun _ => trivial⟩
    rintro _ ⟨⟩ run pursues
    exact ⟨failure, reasons failure concluded run pursues,
      final.imp_right fun spent => keeps.patient.trans spent.2⟩
  | later time reason =>
    refine putOff (fun now => ?_) time reason
    rw [concluded] at now
    cases now
  | retried failure reason more =>
    refine putOff (fun _ run pursues => ?_) _ reason
    have retryable : failure.kind.isRetryable ≠ false := fun final => more (Or.inl final)
    cases reasons failure concluded run pursues with
    | refused unasked unsound final => exact absurd final retryable
    | unanswered request asked => exact ⟨request, failure, asked⟩
    | reverted network hash asked final => exact absurd final retryable

/-- A dispatcher takes care of transactions, whatever replies it gets. -/
theorem KeepsCustody.follows_runOnce (keeps : dispatcher.KeepsCustody attempts) :
    dispatcher.runOnce.run.Follows (custody attempts) (fun _ _ => True) none := by
  refine ⟨trivial, fun now => ⟨trivial, fun reply => ?_⟩⟩
  match reply with
  | .error fault => trivial
  | .ok none => trivial
  | .ok (some task) =>
    refine Work.follows_bind (Work.follows_ofProgram (keeps.follows_outcome task now))
      (fun _ _ _ => trivial) fun position outcome known => ?_
    obtain ⟨_, same, asked, rfl, reasons⟩ := known
    cases same
    refine ⟨trivial, fun finishedAt => ?_⟩
    exact Work.follows_bind (keeps.follows_apply ⟨task, asked⟩ reasons finishedAt)
      (fun _ _ _ => trivial) fun _ _ _ => trivial

end Dispatcher

/-- The dispatcher of an engine takes care of transactions if it gives handlers time to run. -/
theorem Engine.keepsCustody {known : KnownZones} {config : Config}
    {conditions : List ConditionKind} {actions : List ActionKind} {engine : Engine}
    (assembled : assemble known config conditions actions = .ok engine)
    (limited : config.queue.handlerTimeoutSeconds ≠ 0) :
    engine.dispatcher.KeepsCustody config.queue.maxAttempts where
  transactions := by
    refine ⟨config.automate.transactionPoll, ?_⟩
    unfold Registry.find?
    rw [registry_of_assemble assembled]
    rfl
  others kind handler found other task now := by
    refine Program.ensures_of_asks fun oracle => others_ask assembled (fun _ => trivial) trivial
      trivial (fun own steps => ?_) (fun id named => ?_) ?_ _ (Registry.mem_of_find? found) other
      task now oracle
    · cases own <;> trivial
    · exact absurd named (by decide)
    · exact fun run _ _ => ⟨run, rfl, rfl⟩
  limited := by
    rw [dispatcher_of_assemble assembled]
    exact Nat.mul_ne_zero limited (by decide)
  patient := by
    rw [dispatcher_of_assemble assembled]
    exact Nat.le_refl _

end TaskAutomation
