import TaskAutomation.Proofs.Engine.Ensures

/-!
This file says when a program keeps to a protocol. A protocol knows of positions: in each of them it
allows some requests, and every reply leads to a position. Unlike the property of all requests alike
this tells apart what a program has learned before it asks again, and nothing is assumed of the
replies.
-/

namespace TaskAutomation

/-- What may be asked for in which position, and the position to which a reply leads. -/
structure Protocol (Position : Type) where
  allows : Position → Request → Prop
  leads : Position → (request : Request) → request.Reply → Position

namespace Program

variable {Position α β : Type} {protocol : Protocol Position} {ends : Position → α → Prop}

/-- From a position on a program asks for what the protocol allows, and when it comes to a value, a
property holds of that and of the position it is in then. -/
def Follows (protocol : Protocol Position) (ends : Position → α → Prop) :
    Program α → Position → Prop
  | pure a, position => ends position a
  | call request next, position =>
    protocol.allows position request ∧
      ∀ reply, (next reply).Follows protocol ends (protocol.leads position request reply)
  | sleep _ next, position => next.Follows protocol ends position
  | hang, _ => True
  | panic _, _ => True

/-- The first request of a program, if it does not wait before it. -/
def next? : Program α → Option Request
  | call request _ => some request
  | _ => none

/-- What a program asks for next is allowed. -/
theorem Follows.allows_next {program : Program α} {position : Position} {request : Request}
    (follows : program.Follows protocol ends position) (next : program.next? = some request) :
    protocol.allows position request := by
  cases program with
  | call own rest =>
    cases next
    exact follows.1
  | _ => cases next

theorem Follows.bind {program : Program α} {f : α → Program β} {later : Position → β → Prop}
    {position : Position} (first : program.Follows protocol ends position)
    (second : ∀ next a, ends next a → (f a).Follows protocol later next) :
    (program.bind f).Follows protocol later position := by
  induction program generalizing position with
  | pure a => exact second position a first
  | call request next inductionHypothesis =>
    exact ⟨first.1, fun reply => inductionHypothesis reply (first.2 reply)⟩
  | sleep delay next inductionHypothesis => exact inductionHypothesis first
  | hang => trivial
  | panic message => trivial

/-- A program keeps to a protocol as long as its requests are of a kind that is allowed in a group
of positions and leads to no other. -/
theorem Ensures.follows {program : Program α} {allowed : Request → Prop} {group : Position → Prop}
    {position : Position} (ensures : program.Ensures allowed (fun _ _ => True) fun _ => True)
    (stays : ∀ position, group position → ∀ request, allowed request →
      protocol.allows position request ∧ ∀ reply, group (protocol.leads position request reply))
    (here : group position) :
    program.Follows protocol (fun position _ => group position) position := by
  induction program generalizing position with
  | pure a => exact here
  | call request next inductionHypothesis =>
    obtain ⟨fits, remains⟩ := stays position here request ensures.1
    exact ⟨fits, fun reply => inductionHypothesis reply (ensures.2 reply trivial) (remains reply)⟩
  | sleep delay next inductionHypothesis => exact inductionHypothesis ensures here
  | hang => trivial
  | panic message => trivial

/-- A program comes to a value without a wait. -/
def IsPrompt : Program α → Prop
  | pure _ => True
  | call _ next => ∀ reply, (next reply).IsPrompt
  | sleep _ _ | hang | panic _ => False

/-- A limit does nothing to a program that does not wait. -/
theorem Follows.within {program : Program α} {position : Position} (prompt : program.IsPrompt)
    (follows : program.Follows protocol ends position) (limit : Nat) :
    (program.within limit).Follows protocol
      (fun position ending => ∃ a, ending = .finished a ∧ ends position a) position := by
  induction program generalizing position with
  | pure a => exact ⟨a, rfl, follows⟩
  | call request next inductionHypothesis =>
    exact ⟨follows.1, fun reply => inductionHypothesis reply (prompt reply) (follows.2 reply)⟩
  | sleep | hang | panic => exact prompt.elim

end Program

namespace Work

variable {Position Fault α β : Type} {protocol : Protocol Position}

theorem follows_bind {work : Work Fault α} {f : α → Work Fault β}
    {ends : Position → Except Fault α → Prop} {later : Position → Except Fault β → Prop}
    {position : Position} (first : work.run.Follows protocol ends position)
    (failed : ∀ next fault, ends next (.error fault) → later next (.error fault))
    (second : ∀ next a, ends next (.ok a) → (f a).run.Follows protocol later next) :
    (work >>= f).run.Follows protocol later position :=
  Program.Follows.bind (f := ExceptT.bindCont f) first fun next result known =>
    match result, known with
    | .ok a, known => second next a known
    | .error fault, known => failed next fault known

theorem follows_ofProgram {program : Program α} {ends : Position → α → Prop} {position : Position}
    (follows : program.Follows protocol ends position) :
    (ofProgram program : Work Fault α).run.Follows protocol
      (fun position result => ∃ a, result = .ok a ∧ ends position a) position :=
  Program.Follows.bind (f := fun a => .pure (Except.ok a)) follows fun _ a known => ⟨a, rfl, known⟩

end Work

end TaskAutomation
