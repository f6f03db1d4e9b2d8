import TaskAutomation.Engine.Request

/-!
This file defines programs: work that makes requests one after the other, may wait in between, and
may also never end or break off. A program says nothing about how its requests are answered, so the
same program can be run in any world, alone or between the steps of others.
-/

namespace TaskAutomation

/-- Work that gives a value in the end. -/
inductive Program (α : Type) where
  /-- The work is done. -/
  | pure (a : α)
  /-- A request, and how the work goes on with the reply. -/
  | call (request : Request) (next : request.Reply → Program α)
  /-- A wait; one of no length lets others go first. -/
  | sleep (delay : Delay) (next : Program α)
  /-- The work never goes on. -/
  | hang
  /-- The work breaks off. -/
  | panic (message : String)

namespace Program

variable {α β : Type}

/-- Goes on with the value of a program. -/
def bind : Program α → (α → Program β) → Program β
  | pure a, f => f a
  | call request next, f => call request fun reply => (next reply).bind f
  | sleep delay next, f => sleep delay (next.bind f)
  | hang, _ => hang
  | panic message, _ => panic message

instance : Monad Program where
  pure := pure
  bind := bind

theorem bind_assoc {γ : Type} (program : Program α) (f : α → Program β) (g : β → Program γ) :
    (program.bind f).bind g = program.bind fun a => (f a).bind g := by
  induction program with
  | pure => rfl
  | call request next inductionHypothesis => simp [bind, inductionHypothesis]
  | sleep delay next inductionHypothesis => simp [bind, inductionHypothesis]
  | hang => rfl
  | panic => rfl

/-- The reply to a request. -/
def ask (request : Request) : Program request.Reply := call request pure

/-- Lets others go first. -/
def yield : Program Unit := sleep Delay.zero (pure ())

/-! ### Running within a limit -/

/-- How a program with a limit ended. -/
inductive Ending (α : Type) where
  | finished (a : α)
  | panicked (message : String)
  | timedOut

/-- The program with a limit on the time it waits. A program that would wait up to the limit or
beyond it is given up at the limit. -/
def within (limit : Nat) : Program α → Program (Ending α)
  | pure a => pure (.finished a)
  | call request next => call request fun reply => within limit (next reply)
  | sleep delay next =>
    if delay.nanos < limit then sleep delay (within (limit - delay.nanos) next)
    else sleep ⟨limit⟩ (pure .timedOut)
  | hang => sleep ⟨limit⟩ (pure .timedOut)
  | panic message => pure (.panicked message)

/-! ### Running in a world -/

/-- A program up to where it waits. -/
inductive Pause (α : Type) where
  | finished (a : α)
  | sleeping (delay : Delay) (rest : Program α)
  | hanging
  | panicked (message : String)

variable {State : Type}

/-- Runs a program up to its next wait. -/
def advance (answer : (request : Request) → State → request.Reply × State) :
    Program α → State → Pause α × State
  | pure a, state => (.finished a, state)
  | call request next, state =>
    let (reply, state) := answer request state
    advance answer (next reply) state
  | sleep delay next, state => (.sleeping delay next, state)
  | hang, state => (.hanging, state)
  | panic message, state => (.panicked message, state)

/-- Runs a program to its end, when nothing else goes on: waits take no time. A program that never
ends has no value. -/
def run (answer : (request : Request) → State → request.Reply × State) :
    Program α → State → Option α × State
  | pure a, state => (some a, state)
  | call request next, state =>
    let (reply, state) := answer request state
    run answer (next reply) state
  | sleep _ next, state => run answer next state
  | hang, state => (none, state)
  | panic _, state => (none, state)

end Program

/-- Work that may fail. -/
abbrev Work (Fault : Type) := ExceptT Fault Program

namespace Work

variable {Fault α : Type}

/-- The value of a reply that may be a fault. -/
def ofReply (program : Program (Except Fault α)) : Work Fault α := ExceptT.mk program

/-- Work that cannot fail. -/
def ofProgram (program : Program α) : Work Fault α := ExceptT.lift program

/-- A value or a fault that is already known. -/
def ofExcept (result : Except Fault α) : Work Fault α := ExceptT.mk (Program.pure result)

/-- The same work with its faults seen in another way. -/
def mapFault {Other : Type} (f : Fault → Other) (work : Work Fault α) : Work Other α :=
  ExceptT.mk (work.run.bind fun result => Program.pure (result.mapError f))

end Work

/-! ### Requests by name -/

namespace Request

/-- The time on the clock. -/
def time {Fault : Type} : Work Fault Instant := Work.ofProgram (Program.ask .now)

/-- An identifier that no record has. -/
def freshId {Fault : Type} (kind : IdKind) : Work Fault (Id kind) :=
  Work.ofProgram ((Program.ask (.fresh kind)).bind fun ulid => Program.pure ⟨ulid⟩)

end Request

/-- An operation on the task queue. -/
def TaskRequest.ask (request : TaskRequest) : Work StoreFault request.Result :=
  Work.ofReply (Program.ask (.tasks request))

/-- An operation on the automation store. -/
def AutomateRequest.ask (request : AutomateRequest) : Work StoreFault request.Result :=
  Work.ofReply (Program.ask (.automate request))

/-- A request to the world outside. -/
def OutsideRequest.ask (request : OutsideRequest) : Work Failure request.Result :=
  Work.ofReply (Program.ask (.outside request))

/-- A fault of a store as a failure of the work that needed it. -/
def Work.needingStore {α : Type} (work : Work StoreFault α) : Work Failure α :=
  work.mapFault StoreFault.failure

end TaskAutomation
