import TaskAutomation.Proofs.Engine.Running
import Mathlib.Logic.Function.Basic

/-!
This file reasons about a program without a world. All that is known of the replies is that they are
sound in some sense; then every request that the program can make is allowed and every value that it
can come to has a property, whatever else happens between its requests. That is still so when the
program is slowed down: when it waits longer, never goes on or breaks off before a request.
-/

namespace TaskAutomation

namespace Program

variable {α β : Type} {allowed : Request → Prop}
  {sound : (request : Request) → request.Reply → Prop} {property : α → Prop}

/-- As long as all replies are sound, every request of a program is allowed and every value of it
has a property. -/
def Ensures (allowed : Request → Prop) (sound : (request : Request) → request.Reply → Prop)
    (property : α → Prop) : Program α → Prop
  | pure a => property a
  | call request next =>
    allowed request ∧ ∀ reply, sound request reply → (next reply).Ensures allowed sound property
  | sleep _ next => next.Ensures allowed sound property
  | hang => True
  | panic _ => True

theorem Ensures.bind {program : Program α} {f : α → Program β} {later : β → Prop}
    (first : program.Ensures allowed sound property)
    (second : ∀ a, property a → (f a).Ensures allowed sound later) :
    (program.bind f).Ensures allowed sound later := by
  induction program with
  | pure a => exact second a first
  | call request next inductionHypothesis =>
    exact ⟨first.1, fun reply replied => inductionHypothesis reply (first.2 reply replied)⟩
  | sleep delay next inductionHypothesis => exact inductionHypothesis first
  | hang => trivial
  | panic message => trivial

theorem Ensures.imp {program : Program α} {weaker : α → Prop}
    (ensures : program.Ensures allowed sound property) (implied : ∀ a, property a → weaker a) :
    program.Ensures allowed sound weaker := by
  induction program with
  | pure a => exact implied a ensures
  | call request next inductionHypothesis =>
    exact ⟨ensures.1, fun reply replied => inductionHypothesis reply (ensures.2 reply replied)⟩
  | sleep delay next inductionHypothesis => exact inductionHypothesis ensures
  | hang => trivial
  | panic message => trivial

/-- More requests are allowed, and more is known of the replies. -/
theorem Ensures.mono {program : Program α} {more : Request → Prop}
    {surer : (request : Request) → request.Reply → Prop}
    (ensures : program.Ensures allowed sound property)
    (wider : ∀ request, allowed request → more request)
    (known : ∀ request reply, surer request reply → sound request reply) :
    program.Ensures more surer property := by
  induction program with
  | pure a => exact ensures
  | call request next inductionHypothesis =>
    exact ⟨wider request ensures.1, fun reply replied =>
      inductionHypothesis reply (ensures.2 reply (known request reply replied))⟩
  | sleep delay next inductionHypothesis => exact inductionHypothesis ensures
  | hang => trivial
  | panic message => trivial

/-- A program with a limit makes no other requests, and if it comes to a value, it is one that the
program can come to. -/
theorem Ensures.within {program : Program α} (ensures : program.Ensures allowed sound property)
    (limit : Nat) :
    (program.within limit).Ensures allowed sound fun ending =>
      ∀ a, ending = .finished a → property a := by
  induction program generalizing limit with
  | pure a =>
    rintro _ ⟨⟩
    exact ensures
  | call request next inductionHypothesis =>
    exact ⟨ensures.1, fun reply replied =>
      inductionHypothesis reply (ensures.2 reply replied) limit⟩
  | sleep delay next inductionHypothesis =>
    unfold Program.within
    split
    · exact inductionHypothesis ensures _
    · rintro _ ⟨⟩
  | hang => rintro _ ⟨⟩
  | panic message => rintro _ ⟨⟩

/-- A run that gives a value gives one that has the property. -/
theorem Ensures.run {State : Type} {answer : (request : Request) → State → request.Reply × State}
    {program : Program α} {state changed : State} {a : α}
    (ensures : program.Ensures allowed sound property)
    (replies : ∀ request state, sound request (answer request state).1)
    (ran : program.run answer state = (some a, changed)) : property a := by
  induction program generalizing state with
  | pure b =>
    cases ran
    exact ensures
  | call request next inductionHypothesis =>
    exact inductionHypothesis _ (ensures.2 _ (replies request state)) ran
  | sleep delay next inductionHypothesis => exact inductionHypothesis ensures ran
  | hang => cases ran
  | panic message => cases ran

end Program

/-! ### Foretold replies -/

/-- What the reply to any request will be, one time after the other. -/
abbrev Oracle := Nat → (request : Request) → request.Reply

namespace Oracle

/-- The answers are as they were foretold. -/
def answer (request : Request) (oracle : Oracle) : request.Reply × Oracle :=
  (oracle 0 request, fun n => oracle (n + 1))

open Classical in
/-- One request gets a given reply, and what was foretold comes later. -/
noncomputable def foretell (oracle : Oracle) (request : Request) (reply : request.Reply) : Oracle
  | 0 => Function.update (oracle 0) request reply
  | n + 1 => oracle n

theorem answer_foretell (oracle : Oracle) (request : Request) (reply : request.Reply) :
    answer request (oracle.foretell request reply) = (reply, oracle) := by
  simp only [answer, foretell, Function.update_self]

instance : Nonempty Oracle :=
  ⟨fun _ request =>
    match request with
    | .now => ⟨0, 0⟩
    | .elapse _ => ()
    | .fresh _ => .ofNat 0
    | .tasks _ | .automate _ => .error (.backend "")
    | .outside _ => .error (.transient "")⟩

end Oracle

namespace Program

/-- If a program makes only requests of a kind whatever is foretold, it does so whatever it is
replied. -/
theorem ensures_of_asks {α : Type} {kind : Request → Prop} {program : Program α}
    (asks : ∀ oracle, program.Asks Oracle.answer kind oracle) :
    program.Ensures kind (fun _ _ => True) fun _ => True := by
  induction program with
  | pure a => trivial
  | call request next inductionHypothesis =>
    refine ⟨(asks (Classical.arbitrary Oracle)).1, fun reply _ => ?_⟩
    refine inductionHypothesis reply fun oracle => ?_
    have later := (asks (oracle.foretell request reply)).2
    rw [Oracle.answer_foretell] at later
    exact later
  | sleep delay next inductionHypothesis => exact inductionHypothesis asks
  | hang => trivial
  | panic message => trivial

/-! ### Slow programs -/

variable {α : Type} {allowed : Request → Prop}
  {sound : (request : Request) → request.Reply → Prop} {property : α → Prop}

/-- A program does what another one does, but it may wait at any time, and it may never go on or
break off. -/
inductive Slowed : Program α → Program α → Prop
  | pure (a : α) : Slowed (pure a) (pure a)
  | call (request : Request) (next slow : request.Reply → Program α)
      (later : ∀ reply, Slowed (next reply) (slow reply)) :
      Slowed (call request next) (call request slow)
  | sleep (delay : Delay) (next slow : Program α) (later : Slowed next slow) :
      Slowed (sleep delay next) (sleep delay slow)
  | waits (delay : Delay) (program slow : Program α) (later : Slowed program slow) :
      Slowed program (sleep delay slow)
  | hangs (program : Program α) : Slowed program hang
  | panics (program : Program α) (message : String) : Slowed program (panic message)

theorem Slowed.refl (program : Program α) : Slowed program program := by
  induction program with
  | pure a => exact .pure a
  | call request next inductionHypothesis => exact .call request next next inductionHypothesis
  | sleep delay next inductionHypothesis => exact .sleep delay next next inductionHypothesis
  | hang => exact .hangs _
  | panic message => exact .panics _ message

theorem Ensures.slowed {program slow : Program α}
    (ensures : program.Ensures allowed sound property) (slowed : Slowed program slow) :
    slow.Ensures allowed sound property := by
  induction slowed with
  | pure a => exact ensures
  | call request next slow later inductionHypothesis =>
    exact ⟨ensures.1, fun reply replied => inductionHypothesis reply (ensures.2 reply replied)⟩
  | sleep delay next slow later inductionHypothesis => exact inductionHypothesis ensures
  | waits delay program slow later inductionHypothesis => exact inductionHypothesis ensures
  | hangs program => trivial
  | panics program message => trivial

end Program

namespace Work

variable {Fault α β : Type} {allowed : Request → Prop}
  {sound : (request : Request) → request.Reply → Prop}

/-- Work after other work goes on with a value that has the property of the values of the other
work. -/
theorem ensures_bind {work : Work Fault α} {f : α → Work Fault β}
    {property : Except Fault α → Prop} {later : Except Fault β → Prop}
    (first : work.run.Ensures allowed sound property)
    (failed : ∀ fault, property (.error fault) → later (.error fault))
    (second : ∀ a, property (.ok a) → (f a).run.Ensures allowed sound later) :
    (work >>= f).run.Ensures allowed sound later :=
  Program.Ensures.bind (f := ExceptT.bindCont f) first fun result known =>
    match result, known with
    | .ok a, known => second a known
    | .error fault, known => failed fault known

theorem ensures_ofProgram {program : Program α} {property : α → Prop}
    (ensures : program.Ensures allowed sound property) :
    (ofProgram program : Work Fault α).run.Ensures allowed sound fun result =>
      ∀ a, result = .ok a → property a :=
  Program.Ensures.bind (f := fun a => .pure (Except.ok a)) ensures fun _ known => by
    rintro _ ⟨⟩
    exact known

end Work

end TaskAutomation
