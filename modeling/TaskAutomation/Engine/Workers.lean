import TaskAutomation.Engine.Dispatcher
import TaskAutomation.Engine.World

/-!
This file lets several workers take turns in one world. Whoever is ready goes first come, first
served, and goes on up to its next wait; when nobody is ready, time jumps to the end of the shortest
wait. The time that passes here is that of the waits, not that of the clock of the world. At the
order to stop, a worker ends the task it has in hand and takes no other.
-/

namespace TaskAutomation

/-- What a worker does when it is its turn. -/
inductive Turn where
  /-- Looks for a task. -/
  | look
  /-- Goes on with a task. -/
  | resume (rest : Program (Except StoreFault (Option Task)))

/-- The turn belongs to a worker with a task in hand. -/
def Turn.isBusy : Turn → Bool
  | look => false
  | resume _ => true

/-- Workers in a world. -/
structure Crew (State : Type) where
  world : World State
  /-- The time since the start, in nanoseconds. -/
  elapsed : Nat
  ready : List Turn
  /-- Those that wait, in the order of the ends of their waits. -/
  waiting : List (Nat × Turn)
  /-- The order to stop was given. -/
  stopping : Bool

namespace Crew

variable {State : Type}

/-- A number of workers at the start. -/
def start (world : World State) (size : Nat) : Crew State :=
  ⟨world, 0, List.replicate size .look, [], false⟩

/-- Puts a turn among those that wait, behind all that wait no longer than it. -/
def insertWait (due : Nat) (turn : Turn) : List (Nat × Turn) → List (Nat × Turn)
  | [] => [(due, turn)]
  | (other, held) :: rest =>
    if due < other then (due, turn) :: (other, held) :: rest
    else (other, held) :: insertWait due turn rest

/-- A turn that comes after a wait; after one of no length it comes once all others have had theirs.
Once the order to stop was given, a worker without a task does not wait any more. -/
def wait (crew : Crew State) (delay : Delay) (turn : Turn) : Crew State :=
  if crew.stopping && !turn.isBusy then crew
  else if delay.nanos = 0 then { crew with ready := crew.ready ++ [turn] }
  else { crew with waiting := insertWait (crew.elapsed + delay.nanos) turn crew.waiting }

/-- The order to stop. -/
def stop (crew : Crew State) : Crew State :=
  { crew with
    stopping := true
    ready := crew.ready.filter Turn.isBusy
    waiting := crew.waiting.filter fun entry => entry.2.isBusy }

/-- After a task the worker looks for the next one at once, and if there was none or a fault, after
a while. A worker that hangs or breaks off is lost. -/
def settle (dispatcher : Dispatcher) (crew : Crew State) :
    Program.Pause (Except StoreFault (Option Task)) → Crew State
  | .finished (.ok (some _)) =>
    if crew.stopping then crew else { crew with ready := .look :: crew.ready }
  | .finished _ => crew.wait dispatcher.pollInterval .look
  | .sleeping delay rest => crew.wait delay (.resume rest)
  | .hanging => crew
  | .panicked _ => crew

/-- Takes a turn up to the next wait. -/
def take [Outside State] (dispatcher : Dispatcher) (crew : Crew State) (turn : Turn) : Crew State :=
  let program :=
    match turn with
    | .look => dispatcher.runOnce.run
    | .resume rest => rest
  let (pause, world) := program.advance World.answer crew.world
  settle dispatcher { crew with world } pause

/-- Lets time pass until the end of the shortest wait. -/
def pass (crew : Crew State) (due : Nat) : Crew State :=
  { crew with
    elapsed := due
    ready := (crew.waiting.takeWhile fun entry => entry.1 ≤ due).map Prod.snd
    waiting := crew.waiting.dropWhile fun entry => entry.1 ≤ due }

/-- The workers take turns until all have stopped. The order to stop comes at a given time, before
anything else that happens then. There are at most so many turns. -/
def run [Outside State] (dispatcher : Dispatcher) (stopAt : Nat) : Nat → Crew State → World State
  | 0, crew => crew.world
  | turns + 1, crew =>
    if !crew.stopping && stopAt ≤ crew.elapsed then run dispatcher stopAt turns crew.stop
    else
      match crew.ready with
      | turn :: rest =>
        run dispatcher stopAt turns (take dispatcher { crew with ready := rest } turn)
      | [] =>
        let due := crew.waiting.head?.map Prod.fst
        if crew.stopping then
          match due with
          | some due => run dispatcher stopAt turns (crew.pass due)
          | none => crew.world
        else
          run dispatcher stopAt turns (crew.pass (min stopAt (due.getD stopAt)))

end Crew

/-- A number of workers work for a while. -/
def Dispatcher.work {State : Type} [Outside State] (dispatcher : Dispatcher) (workers : Nat)
    (span : Delay) (turns : Nat) (world : World State) : World State :=
  Crew.run dispatcher span.nanos turns (.start world workers)

end TaskAutomation
