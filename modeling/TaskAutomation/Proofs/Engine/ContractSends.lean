import TaskAutomation.Engine.Simulated
import TaskAutomation.Proofs.Engine.TransactionCustody
import TaskAutomation.Proofs.Engine.Transactions

/-!
This file proves that the transactions of one contract are sent one after the other. As long as the
task of a transaction that was sent is in flight, it carries the sign of the contract, and whoever
sends another one for the contract has a task in process with the same sign. Two tasks in flight do
not carry one sign, so the first one has left the queue before, and there is a reason for that in what
was asked for it.
-/

namespace TaskAutomation

/-- What was asked for a task in a part of a log. -/
def Exchange.askedFor (id : TaskId) (log : List (TaskId × Exchange)) : List Exchange :=
  (log.filter fun entry => entry.1 = id).map Prod.snd

/-- The operation queues no transaction without the sign of its contract. -/
def QueueOperation.SignsTransactions : QueueOperation → Prop
  | push _ _ handler params options => TransactionRun.Signs handler params options
  | _ => True

namespace Workforce

open Exchange Relation StoredTask TransactionRun

/-- What happens next at a queue that any number of workers work on with one dispatcher. -/
inductive Advances (dispatcher : Dispatcher) (force : Workforce) : Workforce → Prop
  /-- A worker begins a run. -/
  | begins (n : Nat) (idle : force.workers n = none) :
      Advances dispatcher force { force with
        workers := Function.update force.workers n (some ⟨none, dispatcher.runOnce.run⟩) }
  /-- A worker goes on. -/
  | goes (n : Nat) (worker next : Worker) (changed : Workforce)
      (found : force.workers n = some worker) (acts : force.Acts worker next changed) :
      Advances dispatcher force
        { changed with workers := Function.update force.workers n (some next) }
  /-- A run is over, or it has been broken off. -/
  | stops (n : Nat) :
      Advances dispatcher force { force with workers := Function.update force.workers n none }
  /-- Something else makes use of the queue, such as an action that queues a transaction. -/
  | used (operation : QueueOperation) (fresh : force.IsFresh operation)
      (silent : operation.settlement? = none) (keeps : ∀ now cutoff, operation ≠ .reap now cutoff)
      (signs : operation.SignsTransactions) : Advances dispatcher force (force.after operation)

variable {dispatcher : Dispatcher} {force later : Workforce} {attempts : Nat} {id : TaskId}
  {run : TransactionRun}

theorem Advances.moves (keeps : dispatcher.KeepsCustody attempts)
    (advances : force.Advances dispatcher later) : force.Moves later := by
  cases advances with
  | begins n idle => exact .begins n dispatcher keeps.seesThrough idle
  | goes n worker next changed found acts => exact .goes n worker next changed found acts
  | stops n => exact .stops n
  | used operation fresh silent spares signs => exact .used operation fresh silent spares

/-! ### Tasks in custody -/

/-- The task of a transaction is in custody: the transaction stands somewhere on its way, its records
carry the sign of its contract, and it is kept in flight as long as there is something to ask. -/
structure InCustody (attempts : Nat) (id : TaskId) (run : TransactionRun)
    (held : Nat → Option Holding) (log : List Exchange) (records : List StoredTask) : Prop where
  standing : run.Standing id held log records
  signed : ∀ record ∈ records, record.id? = some id → record.sign? = some run.collisionSign
  kept : run.Kept attempts id held log records

/-- The task is none of a transaction, and nothing was sent for it. -/
structure Foreign (id : TaskId) (held : Nat → Option Holding) (log : List Exchange)
    (records : List StoredTask) : Prop where
  handler : ∀ record ∈ records, record.id? = some id →
    record.handler? ≠ some TaskKind.transactionRun.name
  inHand : ∀ n holding, held n = some holding →
    holding.task.handler ≠ TaskKind.transactionRun.name
  unsent : ∀ exchange ∈ log, exchange.sent? = none

/-- The queue is as it should be, what the workers have yet to do takes care of transactions, and every
task that is one of a transaction is in custody. -/
structure Guarded (force : Workforce) (attempts : Nat) : Prop extends force.Tidy where
  caring : ∀ n worker, force.workers n = some worker →
    worker.rest.Follows (custody attempts) (fun _ _ => True) worker.holding
  each : ∀ id ∈ force.used, Foreign id (force.held id) (force.asked id) force.queue.records ∨
    ∃ run, InCustody attempts id run (force.held id) (force.asked id) force.queue.records

theorem Guarded.empty (storage : Storage) (attempts : Nat) :
    (Workforce.empty storage).Guarded attempts where
  toTidy := .empty storage
  caring _ _ found := nomatch found
  each _ member := absurd member List.not_mem_nil

section

variable {held : Nat → Option Holding} {log : List Exchange} {records : List StoredTask}

/-- The records of a task that is known come from changes. -/
theorem Tidy.exists_change (tidy : force.Tidy) (known : id ∈ force.used)
    (touches : force.Touches id held log records) {record : StoredTask} (member : record ∈ records)
    (named : record.id? = some id) :
    ∃ operation, ∃ former ∈ force.queue.records, former.id? = some id ∧
      Change operation former record := by
  have unpushed {operation : QueueOperation} (fresh : force.IsFresh operation) :
      operation.pushedId? ≠ some id := fun pushed => fresh id pushed known
  cases touches with
  | stays | stopped | asks => exact ⟨.counts, record, member, named, .kept record⟩
  | aside operation fresh =>
    exact ⟨operation, tidy.queue.exists_change fresh (unpushed fresh) member named⟩
  | reports n worker holding request new now report apply found has own next fresh =>
    exact ⟨_, tidy.queue.exists_change fresh (unpushed fresh) member named⟩
  | claims n topics now former task inside own due read =>
    obtain rfl | ⟨before, -⟩ :=
      (tidy.queue.distinct.mem_replace_iff inside own record).mp member
    · exact ⟨.claim topics now, former, inside, own, .claimed topics now former rfl due⟩
    · exact ⟨.counts, record, before, named, .kept record⟩

namespace Guarded

variable (guarded : force.Guarded attempts) (known : id ∈ force.used)
  (touches : force.Touches id held log records)

include guarded known touches

/-- A task stays in custody, whatever touches it. -/
theorem inCustody_of_touches
    (inCustody : InCustody attempts id run (force.held id) (force.asked id) force.queue.records) :
    InCustody attempts id run held log records := by
  obtain ⟨standing, signed, kept⟩ := inCustody
  refine ⟨Pursuing.standing_of_touches ⟨guarded.toTidy, known, standing⟩ touches,
    fun record member named => ?_, ?_⟩
  · obtain ⟨operation, former, before, same, change⟩ :=
      guarded.toTidy.exists_change known touches member named
    exact change.sign?_eq.trans (signed former before same)
  cases touches with
  | stays => exact kept
  | stopped n => exact kept.stopped n
  | aside operation fresh silent keeps =>
    refine kept.aside standing (fun record member named => ?_) fun former member named flies => ?_
    · obtain ⟨former, before, same, change⟩ := guarded.queue.exists_change fresh
        (fun pushed => fresh id pushed known) member named
      exact ⟨former, before, same, change.aside silent keeps same⟩
    · obtain ⟨record, inside, same, change⟩ := guarded.queue.exists_changed fresh member flies
      exact ⟨record, inside, same.trans named, change.aside silent keeps named⟩
  | asks n worker holding own reply found has named next =>
    have allowed := (guarded.caring n worker found).allows_next next
    rw [has] at allowed
    exact kept.asks standing (held_of_inHand found has named)
      (fun current => allowed.1 holding current rfl) _
  | claims n topics now record task member named due read =>
    exact kept.claimed standing guarded.queue.distinct member named due read n
  | reports n worker holding request new now report apply found has named next fresh settles =>
    have pursuing := (guarded.workers n worker found).follows.allows_next next
    have caring := (guarded.caring n worker found).allows_next next
    rw [has] at pursuing caring
    exact kept.reported standing guarded.queue (held_of_inHand found has named) pursuing caring fresh
      settles

/-- A task stays one that is none of a transaction, whatever touches it. -/
theorem foreign_of_touches
    (foreign : Foreign id (force.held id) (force.asked id) force.queue.records) :
    Foreign id held log records := by
  obtain ⟨handler, inHand, unsent⟩ := foreign
  have same : ∀ record ∈ records, record.id? = some id →
      record.handler? ≠ some TaskKind.transactionRun.name := by
    intro record member named
    obtain ⟨operation, former, before, own, change⟩ :=
      guarded.toTidy.exists_change known touches member named
    rw [change.sameOrigin.handler?_eq]
    exact handler former before own
  cases touches with
  | stays => exact ⟨same, inHand, unsent⟩
  | aside => exact ⟨same, inHand, unsent⟩
  | stopped | reports =>
    exact ⟨same, forall_update_some (by rintro _ ⟨⟩) fun m _ => inHand m, unsent⟩
  | claims n topics now record task member named due read =>
    refine ⟨same, forall_update_some ?_ fun m _ => inHand m, unsent⟩
    rintro _ ⟨⟩ own
    have change : Change (.claim topics now) record (record.claimed now) :=
      .claimed topics now record rfl due
    refine handler record member named ?_
    rw [← change.sameOrigin.handler?_eq, (read_content read).1]
    exact congrArg some own
  | asks n worker holding own reply found has named next =>
    have allowed := (guarded.caring n worker found).allows_next next
    have other := inHand n holding (held_of_inHand found has named)
    refine ⟨same, forall_update_some ?_ fun m _ => inHand m, fun exchange member => ?_⟩
    · rintro _ ⟨⟩
      exact other
    · obtain before | new := List.mem_append.mp member
      · exact unsent exchange before
      · obtain rfl := List.mem_singleton.mp new
        cases own with
        | send network automate =>
          obtain ⟨_, run, same, pursues⟩ := allowed.2 network automate rfl
          cases has.symm.trans same
          exact absurd pursues.handler other
        | _ => rfl

end Guarded

end

/-- A task that is pushed is one of a transaction and in custody, or it is none. -/
theorem Tidy.guarded_of_pushed (tidy : force.Tidy) (unused : id ∉ force.used) {now : Instant}
    {handler : String} {params : Json} {options : PushOptions}
    (signs : TransactionRun.Signs handler params options) :
    Foreign id (force.held id) (force.asked id)
        (force.after (.push id now handler params options)).queue.records ∨
      ∃ run, InCustody attempts id run (force.held id) (force.asked id)
        (force.after (.push id now handler params options)).queue.records := by
  have free := tidy.held_of_unused unused
  have quiet := tidy.asked_of_unused unused
  have idle : ∀ n holding, force.held id n = some holding → False := fun n holding found => by
    cases (free n).symm.trans found
  by_cases own : handler = TaskKind.transactionRun.name
  · obtain ⟨run, rfl, signed⟩ := signs own
    subst own
    refine Or.inr ⟨run, ?_, fun record member named => ?_, ?_, fun record member named pending => ?_,
      fun n holding found => (idle n holding found).elim, ?_⟩
    · exact (tidy.pursuing_of_decoded unused run.valid_encode run.decode_encode now options).standing
    · obtain ⟨task, stored, origin⟩ := tidy.record_of_pushed unused member named
      rw [sign?_of_isOf stored]
      obtain rfl | ⟨existing, rfl⟩ := origin <;> exact signed
    · exact fun asked => absurd quiet asked
    · obtain ⟨task, stored, origin⟩ := tidy.record_of_pushed unused member named
      refine triedAtMost_of_isOf stored ?_
      obtain rfl | ⟨existing, rfl⟩ := origin <;> exact Nat.zero_le _
    · refine Or.inl (.unsent ?_)
      rw [quiet]
      rfl
  · refine Or.inl ⟨fun record member named => ?_, fun n holding found => (idle n holding found).elim,
      fun exchange member => ?_⟩
    · obtain ⟨task, stored, origin⟩ := tidy.record_of_pushed unused member named
      rw [handler?_of_isOf stored]
      obtain rfl | ⟨existing, rfl⟩ := origin <;> exact fun same => own (Option.some.inj same)
    · rw [quiet] at member
      exact absurd member List.not_mem_nil

/-- Nothing touches a task whose identifier has not been used, unless it is pushed just now. -/
theorem Tidy.untouched_of_unused (tidy : force.Tidy) (unused : id ∉ force.used)
    {held : Nat → Option Holding} {log : List Exchange} {records : List StoredTask}
    (touches : force.Touches id held log records) :
    held = force.held id ∧ log = force.asked id := by
  have strange {n : Nat} {worker : Worker} {holding : Holding}
      (found : force.workers n = some worker) (has : worker.holding = some holding) :
      holding.task.id ≠ id := fun own =>
    unused (own ▸ (tidy.workers n worker found).known holding has)
  cases touches with
  | stays | aside => exact ⟨rfl, rfl⟩
  | stopped n => exact ⟨by rw [← tidy.held_of_unused unused n, Function.update_eq_self], rfl⟩
  | asks n worker holding own reply found has named => exact absurd named (strange found has)
  | reports n worker holding request new now report apply found has named =>
    exact absurd named (strange found has)
  | claims n topics now record task member named =>
    obtain ⟨other, known, same⟩ := tidy.queue.known record member
    obtain rfl := Option.some.inj (named.symm.trans same)
    exact absurd known unused

namespace Guarded

variable (guarded : force.Guarded attempts) (advances : force.Advances dispatcher later)

include guarded advances

/-- A move leaves the queue as it is, or makes one operation that queues no transaction without its
sign. -/
theorem operates :
    later.used = force.used ∨ ∃ operation, operation.SignsTransactions ∧
      later.used = operation.pushedId?.toList ++ force.used ∧
      later.queue = (force.after operation).queue := by
  cases advances with
  | begins | stops => exact Or.inl rfl
  | used operation fresh silent keeps signs => exact Or.inr ⟨operation, signs, rfl, rfl⟩
  | goes n worker next changed found acts =>
    have follows := guarded.caring n worker found
    have signs {request : TaskRequest} {new : TaskId} {now : Instant}
        (asks : worker.rest.next? = some (.tasks request)) :
        (request.operation new now).SignsTransactions := by
      cases request with
      | push handler params options => exact follows.allows_next asks
      | _ => trivial
    cases acts with
    | refused | waits => exact Or.inl rfl
    | served holding request new now => exact Or.inr ⟨request.operation new now, signs rfl, rfl, rfl⟩
    | lost holding request new now => exact Or.inr ⟨request.operation new now, signs rfl, rfl, rfl⟩
    | learns holding request =>
      left
      cases request <;> rfl

variable (keeps : dispatcher.KeepsCustody attempts)

include keeps

/-- The workers go on to take care of transactions. -/
theorem caring_of_advances : ∀ n worker, later.workers n = some worker →
    worker.rest.Follows (custody attempts) (fun _ _ => True) worker.holding := by
  cases advances with
  | begins n idle =>
    refine forall_update_some ?_ fun m _ => guarded.caring m
    rintro _ ⟨⟩
    exact keeps.follows_runOnce
  | stops n => exact forall_update_some (by rintro _ ⟨⟩) fun m _ => guarded.caring m
  | used => exact guarded.caring
  | goes n worker next changed found acts =>
    have follows := guarded.caring n worker found
    refine forall_update_some ?_ fun m _ => guarded.caring m
    rintro _ ⟨⟩
    cases acts with
    | waits => exact follows
    | refused | served | lost | learns => exact follows.2 _

/-- Whatever happens next, every task that is one of a transaction stays in custody. -/
theorem of_advances : later.Guarded attempts := by
  have moves := advances.moves keeps
  refine ⟨guarded.toTidy.moves moves, guarded.caring_of_advances advances keeps, fun id used => ?_⟩
  have touches : force.Touches id _ _ _ := guarded.toTidy.touches moves
  by_cases known : id ∈ force.used
  · exact (guarded.each id known).imp (guarded.foreign_of_touches known touches)
      fun ⟨run, inCustody⟩ => ⟨run, guarded.inCustody_of_touches known touches inCustody⟩
  · obtain ⟨held, log⟩ := guarded.toTidy.untouched_of_unused known touches
    rw [held, log]
    obtain same | ⟨operation, signs, ids, queue⟩ := guarded.operates advances
    · exact absurd (same ▸ used) known
    · rw [ids] at used
      have pushed := (List.mem_append.mp used).resolve_right known
      cases operation with
      | push other now handler params options =>
        obtain rfl := List.mem_singleton.mp pushed
        rw [queue]
        exact guarded.toTidy.guarded_of_pushed known signs
      | _ => cases pushed

end Guarded

theorem guarded_of_reached (keeps : dispatcher.KeepsCustody attempts) {storage : Storage}
    (reached : ReflTransGen (Advances dispatcher) (Workforce.empty storage) force) :
    force.Guarded attempts := by
  induction reached with
  | refl => exact .empty storage attempts
  | tail earlier advances inductionHypothesis => exact inductionHypothesis.of_advances advances keeps

/-! ### Transactions in turn -/

/-- The transactions of a contract are sent in turn: between two of them, what was asked for the task
of the first one lets go of the contract. Addresses are compared without regard to case. -/
def SendsInTurn (attempts : Nat) (log : List (TaskId × Exchange)) : Prop :=
  ∀ before id network automate hash later other again reply rest,
    log = before ++ (id, ⟨.send network automate, .ok hash⟩) ::
      (later ++ (other, ⟨.send network again, reply⟩) :: rest) →
    Text.lowerCase again = Text.lowerCase automate →
      Releases attempts network hash (askedFor id later)

/-- Who sends a transaction has its task in hand, and the contract was let go after the last one. -/
theorem Guarded.releases (guarded : force.Guarded attempts) {n : Nat} {worker : Worker}
    {holding : Holding} {network automate again hash : String}
    (found : force.workers n = some worker) (has : worker.holding = some holding)
    (next : worker.rest.next? = some (.outside (.send network again)))
    {before after : List (TaskId × Exchange)}
    (split : force.log = before ++ (id, ⟨.send network automate, .ok hash⟩) :: after)
    (same : Text.lowerCase again = Text.lowerCase automate) :
    Releases attempts network hash (askedFor id after) := by
  have allowed := (guarded.workers n worker found).follows.allows_next next
  have caring := (guarded.caring n worker found).allows_next next
  rw [has] at allowed caring
  obtain ⟨_, current, ⟨⟩, pursues⟩ := caring.2 network again rfl
  obtain ⟨unasked, asks⟩ := allowed holding rfl current pursues
  have held := held_of_inHand found has rfl
  obtain foreign | ⟨other, own⟩ :=
    guarded.each _ ((guarded.workers n worker found).known holding has)
  · exact absurd pursues.handler (foreign.inHand n holding held)
  obtain ⟨former, known, -, pursued, log, pursues', process⟩ := own.standing.of_held held
  obtain rfl := Except.ok.inj (pursues.params.symm.trans pursues'.params)
  obtain rfl : known = none := by
    cases known with
    | none => rfl
    | some hash => cases asks
  cases asks
  -- The transaction that was sent before is in custody as well.
  have asked : force.asked id = askedFor id before ++ ⟨.send other.network automate, .ok hash⟩ ::
      askedFor id after := by
    unfold Workforce.asked
    rw [split]
    simp [askedFor]
  have entry : (id, ⟨.send other.network automate, .ok hash⟩) ∈ force.log := by
    rw [split]
    exact List.mem_append_right _ List.mem_cons_self
  obtain foreign | ⟨run, first⟩ := guarded.each id (guarded.log _ entry)
  · have unsent := foreign.unsent ⟨.send other.network automate, .ok hash⟩ (by simp [asked])
    cases unsent
  obtain ⟨last, verdict, way, -⟩ := first.standing.rests
  obtain finished | ⟨record, member, named, flies⟩ := first.kept.flies
  · exact way.releases (first.kept.sound (by simp [asked])) finished asked
  · exfalso
    obtain ⟨-, network, rfl⟩ := way.of_sent asked
    obtain ⟨-, -, -, ⟨mine, inside, signed⟩, -⟩ := own.kept.inHand n holding held
    have sign : other.collisionSign = run.collisionSign := collisionSign_eq network.symm same
    have one := guarded.queue.exclusive run.collisionSign record member mine inside
      ⟨first.signed record member named, flies⟩
      ⟨(own.signed mine inside signed).trans (congrArg some sign), Or.inr (process mine inside signed)⟩
    obtain rfl : id = holding.task.id := Option.some.inj ((named.symm.trans one).trans signed)
    -- Then the task in hand knows the hash, and nothing is sent for it.
    have unknown := pursued.hashes_eq
    rw [unasked, List.append_nil, asked] at log
    rw [← log, hashes_append] at unknown
    simp [Exchange.sent?] at unknown

theorem Guarded.sendsInTurn (guarded : force.Guarded attempts)
    (advances : force.Advances dispatcher later) (inTurn : SendsInTurn attempts force.log) :
    SendsInTurn attempts later.log := by
  cases advances with
  | begins | stops | used => exact inTurn
  | goes n worker next changed found acts =>
    cases acts with
    | refused | served | lost | waits => exact inTurn
    | learns holding request reply next spares =>
      cases request with
      | outside own =>
        cases holding with
        | none =>
          show SendsInTurn attempts (force.log ++ [])
          rw [List.append_nil]
          exact inTurn
        | some holding =>
          intro before id network automate hash after other again reply' rest split same
          change force.log ++ [(holding.task.id, ⟨own, reply⟩)] = _ at split
          obtain rfl | ⟨front, last, rfl⟩ := List.eq_nil_or_concat' rest
          · rw [← List.cons_append, ← List.append_assoc] at split
            obtain ⟨log, entry⟩ := List.append_inj' split rfl
            cases entry
            exact guarded.releases found rfl rfl log same
          · rw [← List.cons_append, ← List.append_assoc, ← List.cons_append, ← List.append_assoc]
              at split
            refine inTurn before id network automate hash after other again reply' front ?_ same
            rw [(List.append_inj' split rfl).1, List.append_assoc, List.cons_append]
      | _ => exact inTurn

theorem sendsInTurn_of_reached (keeps : dispatcher.KeepsCustody attempts) {storage : Storage}
    (reached : ReflTransGen (Advances dispatcher) (Workforce.empty storage) force) :
    SendsInTurn attempts force.log := by
  induction reached with
  | refl =>
    intro before id network automate hash after other again reply rest split
    cases before <;> cases split
  | tail earlier advances inductionHypothesis =>
    exact (guarded_of_reached keeps earlier).sendsInTurn advances inductionHypothesis

end Workforce

namespace Engine

open Relation Workforce

variable {known : KnownZones} {config : Config} {conditions : List ConditionKind}
  {actions : List ActionKind} {engine : Engine}

/-- The workers of an engine that gives handlers time to run send the transactions of every contract
in turn, whatever the world outside replies, whatever the queue refuses and wherever runs are broken
off, as long as no task is taken back. -/
theorem sends_in_turn (assembled : assemble known config conditions actions = .ok engine)
    (limited : config.queue.handlerTimeoutSeconds ≠ 0) {storage : Storage} {force : Workforce}
    (reached : ReflTransGen (Advances engine.dispatcher) (.empty storage) force) :
    SendsInTurn config.queue.maxAttempts force.log :=
  sendsInTurn_of_reached (keepsCustody assembled limited) reached

/-! ### A receipt that cannot be got -/

/-- A transaction of a contract is queued the way the action does it. -/
def contractPush (n : Nat) (automate : String) : QueueOperation :=
  .push ⟨.ofNat n⟩ ⟨0, 0⟩ TaskKind.transactionRun.name (TransactionRun.encode ⟨"main", automate, none⟩)
    { collisionSign := some (TransactionRun.collisionSign ⟨"main", automate, none⟩) }

/-- The task of the transaction when it is claimed for the first time. -/
def contractTask (n : Nat) (automate : String) (now : Instant) : Task :=
  (Task.new ⟨.ofNat n⟩ TaskKind.transactionRun.name
    (TransactionRun.encode ⟨"main", automate, none⟩)
    { collisionSign := some (TransactionRun.collisionSign ⟨"main", automate, none⟩) } ⟨0, 0⟩).claimed
      now

/-- The task after the transaction was sent. -/
def contractSent : Task :=
  ((contractTask 1 "0xab" ⟨1, 0⟩).absorb sentReport).reschedule ⟨16, 0⟩ true

/-- The report on the run in which the receipt could not be got. -/
def prunedReport : RunReport := .bare ⟨.ofNat 1⟩ ⟨63, 0⟩

/-- What is asked of the queue when a contract is run again after its receipt could not be got. -/
def contractOperations : List QueueOperation :=
  [contractPush 1 "0xab", .claim [defaultTopic] ⟨1, 0⟩, .reschedule sentReport ⟨16, 0⟩,
    .claim [defaultTopic] ⟨62, 0⟩, .fail prunedReport "pruned", contractPush 2 "0xAB",
    .claim [defaultTopic] ⟨64, 0⟩]

/-- The queue after some of these operations. -/
def contractQueue (n : Nat) : Backend :=
  ((contractOperations.take n).foldl after (empty .memory)).queue

/-- A contract is run, its receipt cannot be got for good, and it is run again. -/
theorem sends_in_turn_pruned :
    assemble Zone.ofName? .default ConditionKind.all ActionKind.all = .ok default ∧
      Config.default.queue.handlerTimeoutSeconds ≠ 0 ∧
      ∃ force, ReflTransGen (Advances default.dispatcher) (empty .memory) force ∧
        force.log = [(⟨.ofNat 1⟩, ⟨.send "main" "0xab", .ok "0x1"⟩),
          (⟨.ofNat 1⟩, ⟨.receipt "main" "0x1", .error (.permanent "pruned")⟩),
          (⟨.ofNat 2⟩, ⟨.send "main" "0xAB", .ok "0x2"⟩)] ∧
        SendsInTurn 5 force.log := by
  have claims : ((contractQueue 1).step (.claim [defaultTopic] ⟨1, 0⟩)).1 =
      .ok (.claimed (some (contractTask 1 "0xab" ⟨1, 0⟩))) := rfl
  have putsOff : ((contractQueue 2).step (.reschedule sentReport ⟨16, 0⟩)).1 =
      .ok (.settled contractSent) := rfl
  have claimsAgain : ((contractQueue 3).step (.claim [defaultTopic] ⟨62, 0⟩)).1 =
      .ok (.claimed (some (contractSent.claimed ⟨62, 0⟩))) := rfl
  have givesUp : ((contractQueue 4).step (.fail prunedReport "pruned")).1 =
      .ok (.settled (((contractSent.claimed ⟨62, 0⟩).absorb prunedReport).markError "pruned")) := rfl
  have claimsOther : ((contractQueue 6).step (.claim [defaultTopic] ⟨64, 0⟩)).1 =
      .ok (.claimed (some (contractTask 2 "0xAB" ⟨64, 0⟩))) := rfl
  have pushed : ReflTransGen (Advances default.dispatcher) (empty .memory) _ :=
    .single (.used (contractPush 1 "0xab") nofun rfl nofun fun _ => ⟨_, rfl, rfl⟩)
  have timed := (pushed.tail (.begins 0 rfl)).tail
    (.goes 0 _ _ _ rfl (.learns _ .now ⟨1, 0⟩ _ nofun))
  have claimed := timed.tail (.goes 0 _ _ _ rfl (.served _ (.claim [defaultTopic] ⟨1, 0⟩)
    ⟨.ofNat 0⟩ ⟨1, 0⟩ (.ok (some (contractTask 1 "0xab" ⟨1, 0⟩))) _ nofun claims))
  have sent := (claimed.tail (.goes 0 _ _ _ rfl (.waits _ _ _))).tail (.goes 0 _ _ _ rfl
    (.learns _ (.outside (.send "main" "0xab")) (.ok "0x1") _ nofun))
  have ended := (sent.tail (.goes 0 _ _ _ rfl (.waits _ _ _))).tail
    (.goes 0 _ _ _ rfl (.learns _ .now ⟨2, 0⟩ _ nofun))
  have putOff := (ended.tail (.goes 0 _ _ _ rfl (.served _ (.reschedule sentReport ⟨16, 0⟩)
    ⟨.ofNat 0⟩ ⟨2, 0⟩ (.ok contractSent) _ nofun putsOff))).tail (.stops 0)
  have timedAgain := (putOff.tail (.begins 0 rfl)).tail
    (.goes 0 _ _ _ rfl (.learns _ .now ⟨62, 0⟩ _ nofun))
  have claimedAgain := timedAgain.tail (.goes 0 _ _ _ rfl (.served _ (.claim [defaultTopic] ⟨62, 0⟩)
    ⟨.ofNat 0⟩ ⟨62, 0⟩ (.ok (some (contractSent.claimed ⟨62, 0⟩))) _ nofun claimsAgain))
  have pruned := (claimedAgain.tail (.goes 0 _ _ _ rfl (.waits _ _ _))).tail (.goes 0 _ _ _ rfl
    (.learns _ (.outside (.receipt "main" "0x1")) (.error (.permanent "pruned")) _ nofun))
  have endedAgain := (pruned.tail (.goes 0 _ _ _ rfl (.waits _ _ _))).tail
    (.goes 0 _ _ _ rfl (.learns _ .now ⟨63, 0⟩ _ nofun))
  have gaveUp := (endedAgain.tail (.goes 0 _ _ _ rfl (.served _ (.fail prunedReport "pruned")
    ⟨.ofNat 0⟩ ⟨63, 0⟩ (.ok _) _ nofun givesUp))).tail (.stops 0)
  have other : (⟨.ofNat 2⟩ : TaskId) ∉ [⟨.ofNat 1⟩] := by decide
  have pushedOther := gaveUp.tail (.used (contractPush 2 "0xAB")
    (fun _ own => Option.some.inj own ▸ other) rfl nofun fun _ => ⟨_, rfl, rfl⟩)
  have timedOther := (pushedOther.tail (.begins 1 rfl)).tail
    (.goes 1 _ _ _ rfl (.learns _ .now ⟨64, 0⟩ _ nofun))
  have claimedOther := timedOther.tail (.goes 1 _ _ _ rfl (.served _ (.claim [defaultTopic] ⟨64, 0⟩)
    ⟨.ofNat 0⟩ ⟨64, 0⟩ (.ok (some (contractTask 2 "0xAB" ⟨64, 0⟩))) _ nofun claimsOther))
  have sentOther := (claimedOther.tail (.goes 1 _ _ _ rfl (.waits _ _ _))).tail (.goes 1 _ _ _ rfl
    (.learns _ (.outside (.send "main" "0xAB")) (.ok "0x2") _ nofun))
  have limited : Config.default.queue.handlerTimeoutSeconds ≠ 0 := by decide
  exact ⟨assemble_default, limited, _, sentOther, rfl,
    sends_in_turn assemble_default limited sentOther⟩

/-- A simulated world in which the receipt that is asked for first cannot be got for good, and in which
no transaction is ever settled. -/
def prunedWorld : World Simulated :=
  .start ⟨1, 0⟩ (.empty .memory) id ⟨fun _ _ => .ofNat 0, fun _ => 0⟩
    { Simulated.empty with faults := FaultPlan.none.set .receipt [some (.permanent "pruned")] }

/-- The action that runs a contract. -/
def contractAction (automate : String) : Action :=
  ⟨⟨.ofNat 1⟩, ⟨.ofNat 1⟩, .automateRun, AutomateRunParams.encode ⟨"main", automate⟩, 0, ⟨0, 0⟩,
    ⟨0, 0⟩⟩

/-- Does the action, and then runs the next task. -/
def actAndRun (engine : Engine) (automate : String) (world : World Simulated) : World Simulated :=
  (World.perform engine.dispatcher.runOnce.run
    (World.perform (engine.runner.actions.execute (contractAction automate)).run world).2).2

/-- A contract is run, its receipt is asked for a minute later, and then it is run again. -/
def runTwice (engine : Engine) : World Simulated :=
  engine.actAndRun "0xAB" (World.perform engine.dispatcher.runOnce.run
    (World.answer (.elapse ⟨60000000000⟩) (engine.actAndRun "0xab" prunedWorld)).2).2

/-- The transaction of the contract is sent for a second time while the first one is not settled. -/
theorem sends_again_unsettled :
    default.runTwice.outside.requests.map OutsideRequest.words =
        [["send", "main", "0xab"], ["receipt", "main", "0xhash-1"], ["send", "main", "0xAB"]] ∧
      default.runTwice.outside.receipts = [] := by
  decide +kernel

end Engine

end TaskAutomation
