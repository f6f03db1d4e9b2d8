import TaskAutomation.Proofs.Engine.Pursuit
import Mathlib.Logic.Relation

/-!
This file proves that a transaction is sent once. Any number of dispatchers work on one queue side
by side, a run may be broken off anywhere, any request to the queue may be refused or its answer
lost, and the world outside may give any replies. As long as no task in process is taken back,
nobody but the dispatcher that has claimed a task asks for anything in its name, and it does so by
the hash that the task holds.
-/

namespace TaskAutomation

/-! ### Dispatchers side by side -/

/-- A dispatcher in the middle of a run: the task that it has in hand, and the rest of its work. -/
structure Worker where
  holding : Option Holding
  rest : Program (Except StoreFault (Option Task))

/-- What is in hand, if it is about a task. -/
def Holding.about (id : TaskId) : Option Holding → Option Holding
  | some holding => if holding.task.id = id then some holding else none
  | none => none

theorem Holding.about_of_eq {id : TaskId} {holding : Holding} (own : holding.task.id = id) :
    about id (some holding) = some holding := if_pos own

theorem Holding.about_of_ne {id : TaskId} {holding : Holding} (other : holding.task.id ≠ id) :
    about id (some holding) = none := if_neg other

theorem Holding.eq_of_about {id : TaskId} {position : Option Holding} {holding : Holding}
    (own : about id position = some holding) : position = some holding := by
  cases position with
  | none => cases own
  | some other =>
    by_cases same : other.task.id = id
    · rwa [about_of_eq same] at own
    · rw [about_of_ne same] at own
      cases own

theorem Holding.id_of_about {id : TaskId} {position : Option Holding} {holding : Holding}
    (own : about id position = some holding) : holding.task.id = id := by
  by_contra other
  rw [eq_of_about own, about_of_ne other] at own
  cases own

/-- The task is the same after something was asked. -/
theorem Holding.about_map_asked (id : TaskId) (position : Option Holding) (exchange : Exchange) :
    about id (position.map fun holding => { holding with asked := holding.asked ++ [exchange] }) =
      (about id position).map fun holding =>
        { holding with asked := holding.asked ++ [exchange] } := by
  cases position with
  | none => rfl
  | some holding =>
    show (if _ then _ else _) = Option.map _ (if _ then _ else _)
    split <;> rfl

/-- The rest of the work keeps to the protocol, and the task in hand is one that is known. -/
structure Worker.Keeps (worker : Worker) (known : List TaskId) : Prop where
  follows : worker.rest.Follows pursuit (fun _ _ => True) worker.holding
  known : ∀ holding, worker.holding = some holding → holding.task.id ∈ known

/-- The task that is handed out by a request to the queue. -/
def TaskRequest.handedOut? :
    (request : TaskRequest) → Except StoreFault request.Result → Option Task
  | .claim _ _, .ok task => task
  | _, _ => none

/-- After a request to the queue a dispatcher has the same task in hand as before, or the one that
it was handed out. -/
theorem task_of_leads {position : Option Holding} {request : TaskRequest}
    {reply : Except StoreFault request.Result} {holding : Holding}
    (led : pursuit.leads position (.tasks request) reply = some holding) :
    position = some holding ∨ request.handedOut? reply = some holding.task := by
  cases request with
  | push | reap | purge => exact Or.inl led
  | complete | fail | reschedule => cases led
  | claim topics now =>
    match reply with
    | .error fault => exact Or.inl led
    | .ok none => exact Or.inl led
    | .ok (some task) =>
      cases led
      exact Or.inr rfl

/-- A queue with dispatchers at work on it. -/
structure Workforce where
  queue : Backend
  /-- The identifiers that have been given to tasks. -/
  used : List TaskId
  /-- The dispatchers that are in the middle of a run, by number. -/
  workers : Nat → Option Worker
  /-- What was asked of the world outside, and for which task. -/
  log : List (TaskId × Exchange)

namespace Workforce

/-- A queue without tasks and without dispatchers. -/
def empty (storage : Storage) : Workforce := ⟨.empty storage, [], fun _ => none, []⟩

variable (force : Workforce)

/-- An operation has been carried out. -/
def after (operation : QueueOperation) : Workforce :=
  { force with
    queue := (force.queue.step operation).2
    used := operation.pushedId?.toList ++ force.used }

/-- The operation pushes no task under an identifier that has been used. -/
def IsFresh (operation : QueueOperation) : Prop := ∀ id ∈ operation.pushedId?, id ∉ force.used

/-- A dispatcher with a task in hand has got a reply. -/
def noted (holding : Option Holding) : (request : Request) → request.Reply → Workforce
  | .outside own, reply =>
    { force with
      log := force.log ++ holding.toList.map fun holding => (holding.task.id, ⟨own, reply⟩) }
  | _, _ => force

/-- What was asked of the world outside for a task. -/
def asked (id : TaskId) : List Exchange :=
  (force.log.filter fun entry => entry.1 = id).map Prod.snd

/-- What the dispatchers have in hand of a task. -/
def held (id : TaskId) (n : Nat) : Option Holding :=
  (force.workers n).bind fun worker => Holding.about id worker.holding

/-- What a dispatcher does next. A request to the queue may be refused before anything is done, and
the answer may be lost after it was done. Every other request may be answered in whichever way. -/
inductive Acts : Worker → Worker → Workforce → Prop
  | refused (holding : Option Holding) (request : TaskRequest) (fault : StoreFault)
      (next : Request.Reply (.tasks request) → Program (Except StoreFault (Option Task))) :
      Acts ⟨holding, .call (.tasks request) next⟩
        ⟨pursuit.leads holding (.tasks request) (.error fault), next (.error fault)⟩ force
  | served (holding : Option Holding) (request : TaskRequest) (id : TaskId) (now : Instant)
      (reply : Request.Reply (.tasks request))
      (next : Request.Reply (.tasks request) → Program (Except StoreFault (Option Task)))
      (fresh : force.IsFresh (request.operation id now))
      (answer : (force.queue.step (request.operation id now)).1 = reply.map request.toAnswer) :
      Acts ⟨holding, .call (.tasks request) next⟩
        ⟨pursuit.leads holding (.tasks request) reply, next reply⟩
        (force.after (request.operation id now))
  | lost (holding : Option Holding) (request : TaskRequest) (id : TaskId) (now : Instant)
      (fault : StoreFault)
      (next : Request.Reply (.tasks request) → Program (Except StoreFault (Option Task)))
      (fresh : force.IsFresh (request.operation id now)) :
      Acts ⟨holding, .call (.tasks request) next⟩
        ⟨pursuit.leads holding (.tasks request) (.error fault), next (.error fault)⟩
        (force.after (request.operation id now))
  | learns (holding : Option Holding) (request : Request) (reply : request.Reply)
      (next : request.Reply → Program (Except StoreFault (Option Task)))
      (spares : request.SparesQueue) :
      Acts ⟨holding, .call request next⟩ ⟨pursuit.leads holding request reply, next reply⟩
        (force.noted holding request reply)
  | waits (holding : Option Holding) (delay : Delay)
      (next : Program (Except StoreFault (Option Task))) :
      Acts ⟨holding, .sleep delay next⟩ ⟨holding, next⟩ force

/-- What happens next at a queue. -/
inductive Moves : Workforce → Prop
  /-- A dispatcher begins a run. -/
  | begins (n : Nat) (dispatcher : Dispatcher) (sees : dispatcher.SeesThrough)
      (idle : force.workers n = none) :
      Moves { force with
        workers := Function.update force.workers n (some ⟨none, dispatcher.runOnce.run⟩) }
  /-- A dispatcher goes on. -/
  | goes (n : Nat) (worker next : Worker) (changed : Workforce)
      (found : force.workers n = some worker) (acts : Acts force worker next changed) :
      Moves { changed with workers := Function.update force.workers n (some next) }
  /-- A run is over, or it has been broken off. -/
  | stops (n : Nat) : Moves { force with workers := Function.update force.workers n none }
  /-- Something else makes use of the queue: a push, a purge, a look at it, or a claim without a
  report. -/
  | used (operation : QueueOperation) (fresh : force.IsFresh operation)
      (silent : operation.settlement? = none) (keeps : ∀ now cutoff, operation ≠ .reap now cutoff) :
      Moves (force.after operation)

variable {force} {start changed later : Workforce} {id : TaskId} {run : TransactionRun}

/-- Identifiers that have been used stay so. -/
theorem Acts.used_subset {worker next : Worker} (acts : force.Acts worker next changed) :
    force.used ⊆ changed.used := by
  cases acts with
  | served | lost => exact List.subset_append_right _ _
  | learns holding request reply =>
    cases request <;> exact List.Subset.refl _
  | _ => exact List.Subset.refl _

theorem Moves.used_subset (moves : force.Moves later) : force.used ⊆ later.used := by
  cases moves with
  | goes n worker next changed found acts => exact acts.used_subset
  | used => exact List.subset_append_right _ _
  | _ => exact List.Subset.refl _

/-- The transaction of a task is sent once. -/
structure SendsOnce (force : Workforce) (id : TaskId) (run : TransactionRun) : Prop where
  /-- At most one hash is known: one that was given, or one under which the transaction was sent. -/
  once : (run.hashes (force.asked id)).length ≤ 1
  /-- As long as no hash is known, the transaction is sent, and from then on nothing but the receipt
  of the hash is asked for, on the network of the transaction. -/
  asks : ∀ former exchange, former ++ [exchange] <+: force.asked id →
    exchange.request = TransactionRun.request { run with txHash := (run.hashes former).head? }
  /-- The task is done only if the receipt of the hash was good. -/
  done : ∀ record ∈ force.queue.records, record.id? = some id → record.status? = some .done →
    ∃ hash, run.hashes (force.asked id) = [hash] ∧
      ⟨.receipt run.network hash, .ok (some true)⟩ ∈ force.asked id
  /-- After a verdict the task is not pending any more. -/
  settled : ∀ exchange ∈ force.asked id, exchange.verdict? ≠ none →
    ∀ record ∈ force.queue.records, record.id? = some id → record.status? ≠ some .pending

/-! ### Between the runs -/

/-- The queue is as it should be, the dispatchers keep to the protocol, and nothing is about a task
that is not known. -/
structure Tidy (force : Workforce) : Prop where
  queue : force.queue.Orderly force.used
  workers : ∀ n worker, force.workers n = some worker → worker.Keeps force.used
  log : ∀ entry ∈ force.log, entry.1 ∈ force.used

theorem Tidy.empty (storage : Storage) : (Workforce.empty storage).Tidy where
  queue := .empty storage
  workers _ _ found := nomatch found
  log _ member := absurd member List.not_mem_nil

/-- A task that is handed out is known. -/
theorem Tidy.known_of_handedOut (tidy : force.Tidy) {request : TaskRequest} {new : TaskId}
    {now : Instant} {reply : Except StoreFault request.Result} {task : Task}
    (fresh : force.IsFresh (request.operation new now))
    (answer : (force.queue.step (request.operation new now)).1 = reply.map request.toAnswer)
    (handed : request.handedOut? reply = some task) : task.id ∈ force.used := by
  cases request with
  | claim topics at_ =>
    match reply, answer with
    | .ok (some own), answer =>
      obtain rfl := Option.some.inj handed
      have effect := tidy.queue.effect fresh
      rw [answer] at effect
      obtain ⟨record, member, named, -⟩ := effect.claim_inv
      obtain ⟨other, known, same⟩ := tidy.queue.known record member
      obtain rfl := Option.some.inj (named.symm.trans same)
      exact known
  | _ => cases reply <;> cases handed

theorem Tidy.after (tidy : force.Tidy) {operation : QueueOperation}
    (fresh : force.IsFresh operation) : (force.after operation).Tidy where
  queue := tidy.queue.step fresh
  workers n worker found := by
    obtain ⟨follows, known⟩ := tidy.workers n worker found
    exact ⟨follows, fun holding has => List.mem_append_right _ (known holding has)⟩
  log entry member := List.mem_append_right _ (tidy.log entry member)

/-- A dispatcher that goes on keeps to the protocol. -/
theorem Tidy.acts (tidy : force.Tidy) {worker next : Worker} (keeps : worker.Keeps force.used)
    (acts : force.Acts worker next changed) :
    next.Keeps changed.used ∧ changed.workers = force.workers ∧ changed.Tidy := by
  obtain ⟨follows, known⟩ := keeps
  cases acts with
  | refused holding request fault next =>
    refine ⟨⟨follows.2 _, fun own led => ?_⟩, rfl, tidy⟩
    obtain same | handed := task_of_leads led
    · exact known own same
    · cases request <;> cases handed
  | served holding request new now reply next fresh answer =>
    refine ⟨⟨follows.2 _, fun own led => List.mem_append_right _ ?_⟩, rfl, tidy.after fresh⟩
    obtain same | handed := task_of_leads led
    · exact known own same
    · exact tidy.known_of_handedOut fresh answer handed
  | lost holding request new now fault next fresh =>
    refine ⟨⟨follows.2 _, fun own led => List.mem_append_right _ ?_⟩, rfl, tidy.after fresh⟩
    obtain same | handed := task_of_leads led
    · exact known own same
    · cases request <;> cases handed
  | waits holding delay next => exact ⟨⟨follows, known⟩, rfl, tidy⟩
  | learns holding request reply next spares =>
    cases request with
    | tasks own => exact absurd rfl (spares own)
    | outside own =>
      refine ⟨⟨follows.2 _, fun held led => ?_⟩, rfl, tidy.queue, tidy.workers,
        fun entry member => ?_⟩
      · obtain ⟨former, has, rfl⟩ := Option.map_eq_some_iff.mp led
        exact known former has
      · obtain before | new := List.mem_append.mp member
        · exact tidy.log entry before
        · obtain ⟨former, has, rfl⟩ := List.mem_map.mp new
          exact known former (Option.mem_toList.mp has)
    | _ => exact ⟨⟨follows.2 _, known⟩, rfl, tidy⟩

/-- A dispatcher is replaced by one that keeps to the protocol, or it is gone. -/
theorem Tidy.update (tidy : force.Tidy) (n : Nat) {worker : Option Worker}
    (keeps : ∀ own, worker = some own → own.Keeps force.used) :
    Tidy { force with workers := Function.update force.workers n worker } where
  queue := tidy.queue
  workers := forall_update_some keeps fun m _ => tidy.workers m
  log := tidy.log

theorem Tidy.moves (tidy : force.Tidy) (moves : force.Moves later) : later.Tidy := by
  cases moves with
  | begins n dispatcher sees idle =>
    refine tidy.update n ?_
    rintro _ ⟨⟩
    exact ⟨sees.follows_runOnce, fun _ has => nomatch has⟩
  | goes n worker next changed found acts =>
    obtain ⟨keeps, same, changed⟩ := tidy.acts (tidy.workers n worker found) acts
    rw [← same]
    refine changed.update n ?_
    rintro _ ⟨⟩
    exact keeps
  | stops n => exact tidy.update n fun _ none => nomatch none
  | used operation fresh => exact tidy.after fresh

/-! ### What moves do to one task -/

/-- What a move may do to one task: what the dispatchers have in hand of it after that, what was
asked for it by then, and the records. -/
inductive Touches (force : Workforce) (id : TaskId) :
    (Nat → Option Holding) → List Exchange → List StoredTask → Prop
  | stays : Touches force id (force.held id) (force.asked id) force.queue.records
  /-- An operation makes no report on the task and takes none back. -/
  | aside (operation : QueueOperation) (fresh : force.IsFresh operation)
      (silent : ∀ report apply, operation.settlement? = some (report, apply) → report.id ≠ id)
      (keeps : ∀ now cutoff, operation ≠ .reap now cutoff) :
      Touches force id (force.held id) (force.asked id) (force.after operation).queue.records
  | stopped (n : Nat) :
      Touches force id (Function.update (force.held id) n none) (force.asked id) force.queue.records
  | asks (n : Nat) (worker : Worker) (holding : Holding) (own : OutsideRequest)
      (reply : Except Failure own.Result) (found : force.workers n = some worker)
      (has : worker.holding = some holding) (named : holding.task.id = id)
      (next : worker.rest.next? = some (.outside own)) :
      Touches force id
        (Function.update (force.held id) n
          (some { holding with asked := holding.asked ++ [⟨own, reply⟩] }))
        (force.asked id ++ [⟨own, reply⟩]) force.queue.records
  | claims (n : Nat) (topics : List String) (now : Instant) (record : StoredTask) (task : Task)
      (member : record ∈ force.queue.records) (named : record.id? = some id)
      (due : record.isDue topics now = true) (read : (record.claimed now).read = .ok task) :
      Touches force id (Function.update (force.held id) n (some ⟨task, []⟩)) (force.asked id)
        (StoredTask.replace force.queue.records id (record.claimed now))
  | reports (n : Nat) (worker : Worker) (holding : Holding) (request : TaskRequest) (new : TaskId)
      (now : Instant) (report : RunReport) (apply : Task → Task)
      (found : force.workers n = some worker) (has : worker.holding = some holding)
      (named : holding.task.id = id) (next : worker.rest.next? = some (.tasks request))
      (fresh : force.IsFresh (request.operation new now))
      (settles : (request.operation new now).settlement? = some (report, apply)) :
      Touches force id (Function.update (force.held id) n none) (force.asked id)
        (force.after (request.operation new now)).queue.records

theorem held_update (workers : Nat → Option Worker) (n : Nat) (worker : Option Worker) :
    held { force with workers := Function.update workers n worker } id =
      Function.update (held { force with workers } id) n
        (worker.bind fun worker => Holding.about id worker.holding) := by
  funext m
  by_cases same : m = n
  · subst same
    simp [held]
  · simp [held, Function.update_of_ne same]

theorem held_of_found {n : Nat} {worker : Worker} (found : force.workers n = some worker) :
    force.held id n = Holding.about id worker.holding := by
  rw [held, found]
  rfl

theorem held_of_inHand {n : Nat} {worker : Worker} {holding : Holding}
    (found : force.workers n = some worker) (has : worker.holding = some holding)
    (named : holding.task.id = id) : force.held id n = some holding := by
  rw [held_of_found found, has, Holding.about_of_eq named]

/-- What a dispatcher asks for is asked for the task that it has in hand. -/
theorem asked_noted (holding : Option Holding) (own : OutsideRequest)
    (reply : Except Failure own.Result) :
    (force.noted holding (.outside own) reply).asked id =
      force.asked id ++ ((Holding.about id holding).map fun _ => ⟨own, reply⟩).toList := by
  cases holding with
  | none => simp [noted, asked, Holding.about]
  | some holding =>
    by_cases same : holding.task.id = id <;> simp [noted, asked, Holding.about, same]

section

variable {worker next : Worker} {n : Nat} {held : Nat → Option Holding} {log : List Exchange}
  {records : List StoredTask}

/-- A dispatcher that has the same in hand as before has nothing else in hand of a task either. -/
theorem Touches.keeps (touches : force.Touches id (force.held id) log records)
    {own : Option Holding} (same : force.held id n = own) :
    force.Touches id (Function.update (force.held id) n own) log records := by
  rw [← same, Function.update_eq_self]
  exact touches

/-- A report is one on the task, or it leaves the task alone. -/
theorem touches_reported {holding : Holding} {request : TaskRequest} {new : TaskId} {now : Instant}
    {report : RunReport} {apply : Task → Task} (found : force.workers n = some worker)
    (has : worker.holding = some holding) (asks : worker.rest.next? = some (.tasks request))
    (fresh : force.IsFresh (request.operation new now))
    (settles : (request.operation new now).settlement? = some (report, apply))
    (own : report.id = holding.task.id) :
    force.Touches id (Function.update (force.held id) n none) (force.asked id)
      (force.after (request.operation new now)).queue.records := by
  by_cases same : holding.task.id = id
  · exact .reports n worker holding request new now report apply found has same asks fresh settles
  · have free : force.held id n = none := by
      rw [held_of_found found, has]
      exact Holding.about_of_ne same
    refine (Touches.aside _ fresh (fun other apply' settles' => ?_) fun at_ cutoff reaps => ?_).keeps
      free
    · cases settles.symm.trans settles'
      rwa [own]
    · rw [reaps] at settles
      cases settles

/-- A claim is one of the task, or it leaves the task alone. -/
theorem Tidy.touches_claimed (tidy : force.Tidy) {topics : List String} {now : Instant}
    {reply : Except StoreFault (Option Task)} (free : force.held id n = none)
    (fresh : force.IsFresh (.claim topics now))
    (answer : (force.queue.step (.claim topics now)).1 =
        reply.map (TaskRequest.claim topics now).toAnswer ∨ ∃ fault, reply = .error fault) :
    force.Touches id
      (Function.update (force.held id) n
        (Holding.about id (pursuit.leads none (.tasks (.claim topics now)) reply)))
      (force.asked id) (force.after (.claim topics now)).queue.records := by
  have aside := (Touches.aside (.claim topics now) fresh (by rintro _ _ ⟨⟩)
    fun _ _ same => nomatch same).keeps free
  match reply, answer with
  | .error fault, _ => exact aside
  | .ok none, _ => exact aside
  | .ok (some task), answer =>
    show force.Touches id (Function.update _ n (Holding.about id (some ⟨task, []⟩))) _ _
    by_cases same : task.id = id
    · subst same
      obtain claimed | ⟨fault, lost⟩ := answer
      · have effect := tidy.queue.effect fresh
        rw [claimed] at effect
        obtain ⟨record, member, named, due, read, records⟩ := effect.claim_inv
        have own : Holding.about task.id (some ⟨task, []⟩) = some ⟨task, []⟩ :=
          Holding.about_of_eq rfl
        rw [own]
        show force.Touches _ _ _ (force.queue.step _).2.records
        rw [records]
        exact .claims n topics now record task member named due read
      · cases lost
    · have other : Holding.about id (some ⟨task, []⟩) = none := Holding.about_of_ne same
      rw [other]
      exact aside

/-- A request to the queue that keeps to the protocol is carried out, whether the answer to it gets
through or not. -/
theorem Tidy.touches_carriedOut (tidy : force.Tidy) {request : TaskRequest} {new : TaskId}
    {now : Instant} {reply : Except StoreFault request.Result}
    (found : force.workers n = some worker) (asks : worker.rest.next? = some (.tasks request))
    (allowed : pursuit.allows worker.holding (.tasks request))
    (fresh : force.IsFresh (request.operation new now))
    (answer : (force.queue.step (request.operation new now)).1 = reply.map request.toAnswer ∨
      ∃ fault, reply = .error fault) :
    force.Touches id
      (Function.update (force.held id) n
        (Holding.about id (pursuit.leads worker.holding (.tasks request) reply)))
      (force.asked id) (force.after (request.operation new now)).queue.records := by
  cases request with
  | push | purge =>
    exact (Touches.aside _ fresh (by rintro _ _ ⟨⟩) fun _ _ same => nomatch same).keeps
      (held_of_found found)
  | reap => exact allowed.elim
  | complete report =>
    obtain ⟨own, has, about, -⟩ := allowed
    exact touches_reported found has asks fresh rfl about
  | fail report =>
    obtain ⟨own, has, about⟩ := allowed
    exact touches_reported found has asks fresh rfl about
  | reschedule report =>
    obtain ⟨own, has, about, -⟩ := allowed
    exact touches_reported found has asks fresh rfl about
  | claim topics at_ =>
    have none : worker.holding = none := allowed
    rw [none]
    exact tidy.touches_claimed ((held_of_found found).trans (congrArg _ none)) fresh answer

/-- What a dispatcher does next touches a task in one of these ways. -/
theorem Tidy.touches_acts (tidy : force.Tidy) (found : force.workers n = some worker)
    (acts : force.Acts worker next changed) :
    force.Touches id (Function.update (force.held id) n (Holding.about id next.holding))
      (changed.asked id) changed.queue.records := by
  have held : force.held id n = _ := held_of_found found
  have follows := (tidy.workers n worker found).follows
  cases acts with
  | refused holding request fault next =>
    cases request with
    | complete | fail | reschedule => exact .stopped n
    | push | claim | reap | purge => exact Touches.stays.keeps held
  | served holding request new now reply next fresh answer =>
    exact tidy.touches_carriedOut found rfl follows.1 fresh (Or.inl answer)
  | lost holding request new now fault next fresh =>
    exact tidy.touches_carriedOut found rfl follows.1 fresh (Or.inr ⟨fault, rfl⟩)
  | learns holding request reply next spares =>
    cases request with
    | tasks own => exact absurd rfl (spares own)
    | outside own =>
      show force.Touches id (Function.update _ n (Holding.about id (holding.map _))) _ _
      rw [asked_noted, Holding.about_map_asked]
      cases has : Holding.about id holding with
      | none =>
        rw [Option.map_none, Option.map_none, Option.toList_none, List.append_nil]
        exact Touches.stays.keeps (held.trans has)
      | some inHand =>
        have own' := Holding.eq_of_about has
        exact .asks n _ inHand own reply found own' (Holding.id_of_about has) rfl
    | _ => exact Touches.stays.keeps held
  | waits holding delay next => exact Touches.stays.keeps held

/-- Whatever happens next touches a task in one of these ways. -/
theorem Tidy.touches (tidy : force.Tidy) (moves : force.Moves later) :
    force.Touches id (later.held id) (later.asked id) later.queue.records := by
  cases moves with
  | begins n dispatcher sees idle =>
    rw [held_update]
    refine Touches.stays.keeps ?_
    rw [Workforce.held, idle]
    rfl
  | goes n worker next changed found acts =>
    rw [held_update]
    have touched : force.Touches id _ _ _ := tidy.touches_acts found acts
    exact touched
  | stops n =>
    rw [held_update]
    exact .stopped n
  | used operation fresh silent keeps =>
    refine .aside operation fresh (fun report apply reports => ?_) keeps
    cases silent.symm.trans reports

end

/-! ### The way of a transaction -/

/-- The transaction of a task stands somewhere on its way. -/
structure Pursuing (force : Workforce) (id : TaskId) (run : TransactionRun) : Prop
    extends force.Tidy where
  known : id ∈ force.used
  standing : run.Standing id (force.held id) (force.asked id) force.queue.records

namespace Pursuing

variable (pursuing : force.Pursuing id run)

include pursuing

/-- Whatever touches the task leads the transaction on. -/
theorem standing_of_touches {held : Nat → Option Holding} {log : List Exchange}
    {records : List StoredTask} (touches : force.Touches id held log records) :
    run.Standing id held log records := by
  cases touches with
  | stays => exact pursuing.standing
  | aside operation fresh silent keeps =>
    exact pursuing.standing.aside fun _ member named => pursuing.queue.aside fresh silent keeps
      (fun pushed => fresh id pushed pursuing.known) member named
  | stopped n => exact pursuing.standing.stopped n
  | asks n worker holding own reply found has named next =>
    have allowed := (pursuing.workers n worker found).follows.allows_next next
    rw [has] at allowed
    exact pursuing.standing.asks (held_of_inHand found has named) (allowed holding rfl) reply
  | claims n topics now record task member named due read =>
    exact pursuing.standing.claimed pursuing.queue.distinct member named due read n
  | reports n worker holding request new now report apply found has named next fresh settles =>
    have allowed := (pursuing.workers n worker found).follows.allows_next next
    rw [has] at allowed
    exact pursuing.standing.reported pursuing.queue (held_of_inHand found has named) allowed settles

/-- Whatever happens next leads the transaction on. -/
theorem moves (moves : force.Moves later) : later.Pursuing id run :=
  ⟨pursuing.toTidy.moves moves, moves.used_subset pursuing.known,
    pursuing.standing_of_touches (pursuing.toTidy.touches moves)⟩

/-- Of a transaction that stands somewhere on its way is known that it is sent once. -/
theorem sendsOnce : force.SendsOnce id run := by
  obtain ⟨known, verdict, pursued, rests⟩ := pursuing.standing.rests
  refine ⟨?_, fun former exchange inside => pursued.asks inside, fun record member named done => ?_,
    fun exchange member reported record inside named pending => ?_⟩
  · rw [pursued.hashes_eq]
    exact Option.length_toList_le
  · obtain ⟨hash, rfl, good⟩ := pursued.answered ((rests record member named).done done)
    exact ⟨hash, pursued.hashes_eq, good⟩
  · obtain ⟨good, verdicts⟩ := Option.ne_none_iff_exists'.mp reported
    have found : good ∈ (force.asked id).filterMap Exchange.verdict? :=
      List.mem_filterMap.mpr ⟨exchange, member, verdicts⟩
    rw [pursued.verdicts_eq, ((rests record inside named).pending pending).1] at found
    exact absurd found List.not_mem_nil

end Pursuing

open Relation StoredTask

theorem tidy_of_past {storage : Storage} (past : ReflTransGen Moves (empty storage) start) :
    start.Tidy := by
  induction past with
  | refl => exact .empty storage
  | tail earlier moves inductionHypothesis => exact inductionHypothesis.moves moves

/-- Nobody has a task in hand whose identifier has not been used. -/
theorem Tidy.held_of_unused (tidy : start.Tidy) (unused : id ∉ start.used) (n : Nat) :
    start.held id n = none := by
  unfold held
  cases found : start.workers n with
  | none => rfl
  | some worker =>
    have known := (tidy.workers n worker found).known
    show Holding.about id worker.holding = none
    cases has : worker.holding with
    | none => rfl
    | some holding => exact Holding.about_of_ne fun own => unused (own ▸ known holding has)

/-- Nothing was asked for a task whose identifier has not been used. -/
theorem Tidy.asked_of_unused (tidy : start.Tidy) (unused : id ∉ start.used) :
    start.asked id = [] := by
  refine List.map_eq_nil_iff.mpr (List.filter_eq_nil_iff.mpr fun entry member own => unused ?_)
  rw [← of_decide_eq_true own]
  exact tidy.log entry member

/-- The record of a task that is pushed is that of the new task, be it queued or kept as a collision. -/
theorem Tidy.record_of_pushed (tidy : start.Tidy) (unused : id ∉ start.used) {now : Instant}
    {handler : String} {params : Json} {options : PushOptions} {record : StoredTask}
    (member : record ∈ (start.after (.push id now handler params options)).queue.records)
    (named : record.id? = some id) :
    ∃ task, record.IsOf task ∧ (task = Task.new id handler params options now ∨
      ∃ existing, task = (Task.new id handler params options now).collide existing) := by
  have fresh : start.IsFresh (.push id now handler params options) := by
    rintro _ ⟨⟩
    exact unused
  obtain ⟨task, added, records, stored, origin⟩ := (tidy.queue.effect fresh).push_adds
  change record ∈ (start.queue.step _).2.records at member
  rw [records] at member
  obtain before | new := List.mem_append.mp member
  · obtain ⟨other, known, same⟩ := tidy.queue.known record before
    obtain rfl := Option.some.inj (named.symm.trans same)
    exact absurd known unused
  · rw [List.mem_singleton.mp new]
    exact ⟨task, stored, origin⟩

/-- A task that is pushed for a transaction starts it on its way, even if it is only kept as a
collision, and even if the transaction makes no sense. -/
theorem Tidy.pursuing_of_decoded (tidy : start.Tidy) (unused : id ∉ start.used) {params : Json}
    (valid : params.Valid) (decoded : TransactionRun.decode params = .ok run) (now : Instant)
    (options : PushOptions) :
    (start.after (.push id now TaskKind.transactionRun.name params options)).Pursuing id run := by
  have fresh : start.IsFresh (.push id now TaskKind.transactionRun.name params options) := by
    rintro _ ⟨⟩
    exact unused
  refine ⟨tidy.after fresh, List.mem_append_left _ List.mem_cons_self,
    .resting run.txHash none (tidy.held_of_unused unused) ?_ fun record member named => ?_⟩
  · show run.Pursued (start.asked id) _ _
    rw [tidy.asked_of_unused unused]
    exact .start
  · obtain ⟨task, stored, origin⟩ := tidy.record_of_pushed unused member named
    obtain rfl | ⟨existing, rfl⟩ := origin
    · exact ⟨fun _ => ⟨rfl, carries_of_isOf stored rfl valid decoded⟩,
        fun done => nomatch (status?_of_isOf stored).symm.trans done⟩
    · exact rests_of_status (status?_of_isOf stored) nofun nofun _ _

theorem Tidy.pursuing_of_pushed (tidy : start.Tidy) (unused : id ∉ start.used) {params : Json}
    (valid : params.Valid) (parsed : TransactionRun.parse params = .ok run) (now : Instant)
    (options : PushOptions) :
    (start.after (.push id now TaskKind.transactionRun.name params options)).Pursuing id run :=
  tidy.pursuing_of_decoded unused valid (readParams_eq_ok.mp parsed).1 now options

/-- A transaction for which a task is pushed is sent once, whatever has happened and happens at the
queue, as long as no task is taken back. -/
theorem sends_once {storage : Storage} {params : Json} {now : Instant} {options : PushOptions}
    (past : ReflTransGen Moves (empty storage) start) (unused : id ∉ start.used)
    (valid : params.Valid) (parsed : TransactionRun.parse params = .ok run)
    (future : ReflTransGen Moves
      (start.after (.push id now TaskKind.transactionRun.name params options)) later) :
    later.SendsOnce id run := by
  have pursuing := (tidy_of_past past).pursuing_of_pushed unused valid parsed now options
  have followed : later.Pursuing id run := by
    induction future with
    | refl => exact pursuing
    | tail earlier moves inductionHypothesis => exact inductionHypothesis.moves moves
  exact followed.sendsOnce

/-! ### A transaction that is sent and mined -/

def payment : TransactionRun := ⟨"main", "0xab", none⟩

/-- The payment is queued in an empty queue. -/
def paymentPush : QueueOperation :=
  .push ⟨.ofNat 1⟩ ⟨0, 0⟩ TaskKind.transactionRun.name payment.encode {}

/-- The task of the payment when it is claimed for the first time. -/
def unsentTask : Task :=
  (Task.new ⟨.ofNat 1⟩ TaskKind.transactionRun.name payment.encode {} ⟨0, 0⟩).claimed ⟨1, 0⟩

/-- The report on the run in which the payment was sent. -/
def sentReport : RunReport :=
  { RunReport.bare ⟨.ofNat 1⟩ ⟨2, 0⟩ with
    params := some (TransactionRun.encode { payment with txHash := some "0x1" })
    info := ["sent 0x1"]
    rearm := true }

def sentTask : Task := (unsentTask.absorb sentReport).reschedule ⟨16, 0⟩ true

/-- The report on the run in which the payment was found to be mined. -/
def minedReport : RunReport := { RunReport.bare ⟨.ofNat 1⟩ ⟨63, 0⟩ with info := ["mined 0x1"] }

/-- What is asked of the queue, one operation after the other. -/
def paymentOperations : List QueueOperation :=
  [paymentPush, .claim [defaultTopic] ⟨1, 0⟩, .reschedule sentReport ⟨16, 0⟩,
    .claim [defaultTopic] ⟨62, 0⟩, .complete minedReport]

/-- The queue after some of these operations. -/
def paymentQueue (n : Nat) : Backend :=
  ((paymentOperations.take n).foldl after (empty .memory)).queue

/-- The payment is sent in a first run, and in a second one its receipt is good. -/
theorem sends_once_payment :
    (⟨.ofNat 1⟩ : TaskId) ∉ (empty .memory).used ∧ payment.encode.Valid ∧
      TransactionRun.parse payment.encode = .ok payment ∧
      ∃ later, ReflTransGen Moves ((empty .memory).after paymentPush) later ∧
        later.asked ⟨.ofNat 1⟩ =
          [⟨.send "main" "0xab", .ok "0x1"⟩, ⟨.receipt "main" "0x1", .ok (some true)⟩] ∧
        later.queue.records.map StoredTask.status? = [some .done] ∧
        later.SendsOnce ⟨.ofNat 1⟩ payment := by
  have claims : ((paymentQueue 1).step (.claim [defaultTopic] ⟨1, 0⟩)).1 =
      .ok (.claimed (some unsentTask)) := rfl
  have putsOff : ((paymentQueue 2).step (.reschedule sentReport ⟨16, 0⟩)).1 =
      .ok (.settled sentTask) := rfl
  have claimsAgain : ((paymentQueue 3).step (.claim [defaultTopic] ⟨62, 0⟩)).1 =
      .ok (.claimed (some (sentTask.claimed ⟨62, 0⟩))) := rfl
  have completes : ((paymentQueue 4).step (.complete minedReport)).1 =
      .ok (.settled (((sentTask.claimed ⟨62, 0⟩).absorb minedReport).markDone)) := rfl
  have state : (paymentQueue 5).records.map StoredTask.status? = [some .done] := rfl
  have sees := Engine.seesThrough Engine.assemble_default
  have begun : ReflTransGen Moves ((empty .memory).after paymentPush) _ :=
    .single (.begins 0 Engine.default.dispatcher sees rfl)
  have timed := begun.tail (.goes 0 _ _ _ rfl (.learns _ .now ⟨1, 0⟩ _ nofun))
  have claimed := timed.tail (.goes 0 _ _ _ rfl (.served _ (.claim [defaultTopic] ⟨1, 0⟩)
    ⟨.ofNat 0⟩ ⟨1, 0⟩ (.ok (some unsentTask)) _ nofun claims))
  have sent := (claimed.tail (.goes 0 _ _ _ rfl (.waits _ _ _))).tail (.goes 0 _ _ _ rfl
    (.learns _ (.outside (.send "main" "0xab")) (.ok "0x1") _ nofun))
  have ended := (sent.tail (.goes 0 _ _ _ rfl (.waits _ _ _))).tail
    (.goes 0 _ _ _ rfl (.learns _ .now ⟨2, 0⟩ _ nofun))
  have putOff := (ended.tail (.goes 0 _ _ _ rfl (.served _ (.reschedule sentReport ⟨16, 0⟩)
    ⟨.ofNat 0⟩ ⟨2, 0⟩ (.ok sentTask) _ nofun putsOff))).tail (.stops 0)
  have timedAgain := (putOff.tail (.begins 1 Engine.default.dispatcher sees rfl)).tail
    (.goes 1 _ _ _ rfl (.learns _ .now ⟨62, 0⟩ _ nofun))
  have claimedAgain := timedAgain.tail (.goes 1 _ _ _ rfl (.served _ (.claim [defaultTopic] ⟨62, 0⟩)
    ⟨.ofNat 0⟩ ⟨62, 0⟩ (.ok (some (sentTask.claimed ⟨62, 0⟩))) _ nofun claimsAgain))
  have mined := (claimedAgain.tail (.goes 1 _ _ _ rfl (.waits _ _ _))).tail (.goes 1 _ _ _ rfl
    (.learns _ (.outside (.receipt "main" "0x1")) (.ok (some true)) _ nofun))
  have endedAgain := (mined.tail (.goes 1 _ _ _ rfl (.waits _ _ _))).tail
    (.goes 1 _ _ _ rfl (.learns _ .now ⟨63, 0⟩ _ nofun))
  have done := endedAgain.tail (.goes 1 _ _ _ rfl (.served _ (.complete minedReport)
    ⟨.ofNat 0⟩ ⟨63, 0⟩ (.ok _) _ nofun completes))
  have parsed : TransactionRun.parse payment.encode = .ok payment := rfl
  exact ⟨List.not_mem_nil, payment.valid_encode, parsed, _, done, rfl, state,
    sends_once .refl List.not_mem_nil payment.valid_encode parsed done⟩

end Workforce

end TaskAutomation
