import TaskAutomation.Proofs.Engine.AutomateHost
import TaskAutomation.Proofs.Engine.Tally
import TaskAutomation.Proofs.Queue.Orderly

/-!
This file says what becomes of the parts of a world when a request is answered. A request to the task
queue is refused, or it does to the queue what the operation does that it stands for; no other
request touches the queue, only the passing of time moves the clock, and every queue and every store
that requests have led to is as it should be.
-/

namespace TaskAutomation

/-! ### Requests and operations -/

namespace TaskRequest

/-- The operation on a queue that a request asks for, with the identifier of a new task and the time
on the clock. -/
def operation (id : TaskId) (now : Instant) : TaskRequest → QueueOperation
  | push handler params options => .push id now handler params options
  | claim topics at_ => .claim topics at_
  | complete report => .complete report
  | fail report why => .fail report why
  | reschedule report startAt => .reschedule report startAt
  | reap cutoff => .reap now cutoff
  | purge before => .purge before

/-- The result of a request as the answer to its operation. -/
def toAnswer : (request : TaskRequest) → request.Result → QueueAnswer
  | push .., pushed => .pushed pushed
  | claim .., task => .claimed task
  | complete .., task | fail .., task | reschedule .., task => .settled task
  | reap _, rows | purge _, rows => .changed rows

/-- What a request is answered at a time, with the queue and the identifiers of all pushed tasks after
it. -/
inductive Answers (now : Instant) (queue : Backend) (used : List TaskId) (request : TaskRequest) :
    Except StoreFault request.Result → Backend → List TaskId → Prop
  | refused (fault : StoreFault) : Answers now queue used request (.error fault) queue used
  | served (id : TaskId) (reply : Except StoreFault request.Result)
      (answer : (queue.step (request.operation id now)).1 = reply.map request.toAnswer) :
      Answers now queue used request reply (queue.step (request.operation id now)).2
        (used ++ (request.operation id now).pushedId?.toList)

/-- An operation that pushes nothing leaves the identifiers of the pushed tasks as they are. -/
theorem Answers.of_unpushed {now : Instant} {queue : Backend} {used : List TaskId}
    {request : TaskRequest} {id : TaskId} {reply : Except StoreFault request.Result}
    (unpushed : (request.operation id now).pushedId? = none)
    (answer : (queue.step (request.operation id now)).1 = reply.map request.toAnswer) :
    Answers now queue used request reply (queue.step (request.operation id now)).2 used := by
  have same : used ++ (request.operation id now).pushedId?.toList = used := by
    rw [unpushed]
    exact List.append_nil used
  have served : Answers now queue used request reply (queue.step (request.operation id now)).2
      (used ++ (request.operation id now).pushedId?.toList) := .served id reply answer
  rw [same] at served
  exact served

end TaskRequest

/-- A push that is refused leaves a queue as it is. -/
theorem Backend.push_eq_of_error {backend : Backend} {id : TaskId} {now : Instant} {handler : String}
    {params : Json} {options : PushOptions} {fault : StoreFault}
    (refused : (backend.push id now handler params options).1 = .error fault) :
    (backend.push id now handler params options).2 = backend := by
  cases backend with
  | memory queue => cases refused
  | table kept =>
    have refused : (kept.push id now handler params options).1 = .error fault := refused
    show Backend.table (kept.push id now handler params options).2 = _
    simp only [TableQueue.push] at refused ⊢
    cases inserted : kept.insert (Row.ofTask (Task.new id handler params options now)) with
    | ok changed =>
      rw [inserted] at refused
      cases refused
    | error why =>
      simp only [inserted] at refused ⊢
      cases signed : (Task.new id handler params options now).collisionSign with
      | none => rfl
      | some sign =>
        simp only [signed] at refused ⊢
        cases collided : kept.pushCollision (Task.new id handler params options now) sign with
        | ok pushed =>
          rw [collided] at refused
          cases refused
        | error fault => rfl

/-- A store keeps its triggers in order, whatever is asked of it. -/
theorem AutomateRequest.ascends_onStore (request : AutomateRequest) {store : AutomateStore}
    (ascends : AutomateStore.Ascends store.triggers) :
    AutomateStore.Ascends (request.onStore store).2.triggers := by
  cases request with
  | saveTrigger trigger => exact AutomateStore.ascends_insertTrigger trigger ascends
  | deleteTrigger id =>
    show AutomateStore.Ascends (store.deleteTrigger id).2.triggers
    unfold AutomateStore.deleteTrigger
    split
    · exact ascends
    · exact ascends.filter _
  | _ => exact ascends

namespace World

open StoredTask

variable {State : Type}

theorem answers_answerTasks (world : World State) (request : TaskRequest) :
    request.Answers world.clock world.backend world.pushed (world.answerTasks request).1
      (world.answerTasks request).2.backend (world.answerTasks request).2.pushed := by
  cases request with
  | push handler params options =>
    have served (id : TaskId) : (TaskRequest.push handler params options).Answers world.clock
        world.backend world.pushed (world.backend.push id world.clock handler params options).1
        (world.backend.push id world.clock handler params options).2 (world.pushed ++ [id]) :=
      .served id _ rfl
    simp only [answerTasks]
    split
    · next accepted => exact served _
    · next refused =>
      cases replied : (world.backend.push ⟨(world.ids.issue world.clock
          (world.draws world.drawn)).1⟩ world.clock handler params options).1 with
      | error fault =>
        rw [Backend.push_eq_of_error replied]
        exact .refused fault
      | ok pushed =>
        rw [replied] at refused
        exact absurd rfl refused
  | claim | complete | fail | reschedule | reap | purge =>
    exact @TaskRequest.Answers.of_unpushed _ _ _ _ default _ rfl rfl

theorem fresh_of_nodup {world : World State} {operation : QueueOperation}
    (unique : (world.pushed ++ operation.pushedId?.toList).Nodup) :
    ∀ id ∈ operation.pushedId?, id ∉ world.pushed := fun _ pushed used =>
  List.disjoint_of_nodup_append unique used (Option.mem_toList.mpr pushed)

variable [Outside State]

theorem answers_tasks (request : TaskRequest) (world : World State) :
    request.Answers world.clock world.backend world.pushed (answer (.tasks request) world).1
      (answer (.tasks request) world).2.backend (answer (.tasks request) world).2.pushed := by
  simp only [answer]
  split
  · next why changed verdict =>
    obtain rfl : changed = (world.takeFault request.gate).2 := (congrArg Prod.snd verdict).symm
    exact .refused _
  · next changed verdict =>
    obtain rfl : changed = (world.takeFault request.gate).2 := (congrArg Prod.snd verdict).symm
    exact answers_answerTasks (world.takeFault request.gate).2 request

/-- A request to a queue that is as it should be is refused, or its operation has its effect on the
records. -/
theorem effect_tasks {world : World State} (orderly : world.backend.Orderly world.pushed)
    (own : TaskRequest) (unique : (answer (.tasks own) world).2.pushed.Nodup) :
    (∃ fault, (answer (.tasks own) world).1 = .error fault ∧
      (answer (.tasks own) world).2.backend = world.backend) ∨
    ∃ id, (∀ new ∈ (own.operation id world.clock).pushedId?, new ∉ world.pushed) ∧
      (answer (.tasks own) world).2.backend =
        (world.backend.step (own.operation id world.clock)).2 ∧
      (answer (.tasks own) world).2.pushed =
        world.pushed ++ (own.operation id world.clock).pushedId?.toList ∧
      Effect world.backend.records (own.operation id world.clock)
        ((answer (.tasks own) world).1.map own.toAnswer)
        (answer (.tasks own) world).2.backend.records := by
  have answers := answers_tasks own world
  generalize (answer (.tasks own) world).1 = reply,
    (answer (.tasks own) world).2.backend = queue,
    (answer (.tasks own) world).2.pushed = pushed at answers unique
  cases answers with
  | refused fault => exact Or.inl ⟨fault, rfl, rfl⟩
  | served id reply answer =>
    have fresh := fresh_of_nodup unique
    exact Or.inr ⟨id, fresh, rfl, rfl, answer ▸ orderly.effect fresh⟩

/-- Whatever is asked for leaves the queue as it is, or it is an operation that has its effect on the
records. -/
theorem effect_answer {request : Request} {world : World State}
    (orderly : world.backend.Orderly world.pushed)
    (unique : (answer request world).2.pushed.Nodup) :
    (answer request world).2.backend = world.backend ∨
      ∃ own id reply, request = .tasks own ∧
        Effect world.backend.records (own.operation id world.clock) reply
          (answer request world).2.backend.records := by
  by_cases own : ∃ own, request = .tasks own
  · obtain ⟨own, rfl⟩ := own
    obtain ⟨fault, -, same⟩ | ⟨id, -, -, -, effect⟩ := effect_tasks orderly own unique
    · exact Or.inl same
    · exact Or.inr ⟨own, id, _, rfl, effect⟩
  · exact Or.inl (sameQueue_answer (fun other same => own ⟨other, same⟩) world).backend

/-- Only the passing of time moves the clock. -/
theorem clock_answer (request : Request) (world : World State)
    (still : ∀ span, request ≠ .elapse span) :
    (answer request world).2.clock = world.clock := by
  cases request with
  | now | fresh | outside => rfl
  | elapse span => exact absurd rfl (still span)
  | tasks own =>
    simp only [answer]
    split
    · next verdict => exact (congrArg (fun taken => taken.2.clock) verdict).symm
    · next changed verdict =>
      have same := (congrArg (fun taken => taken.2.clock) verdict).symm
      cases own <;> exact same
  | automate own =>
    simp only [answer]
    split
    · next verdict => exact (congrArg (fun taken => taken.2.clock) verdict).symm
    · next changed verdict =>
      have same := (congrArg (fun taken => taken.2.clock) verdict).symm
      cases own <;> exact same

/-- Only a push adds to the identifiers of the pushed tasks. -/
theorem pushed_answer (request : Request) (world : World State) (spares : request.SparesQueue) :
    (answer request world).2.pushed = world.pushed := by
  cases request with
  | now | fresh | outside | elapse => rfl
  | tasks own => exact absurd rfl (spares own)
  | automate own =>
    simp only [answer]
    split
    · next verdict => exact (congrArg (fun taken => taken.2.pushed) verdict).symm
    · next changed verdict =>
      have same := (congrArg (fun taken => taken.2.pushed) verdict).symm
      cases own <;> exact same

/-- A request leaves a queue as it should be, as long as no identifier is used twice. -/
theorem orderly_answer {request : Request} {world : World State}
    (orderly : world.backend.Orderly world.pushed)
    (unique : (answer request world).2.pushed.Nodup) :
    (answer request world).2.backend.Orderly (answer request world).2.pushed := by
  by_cases own : ∃ own, request = .tasks own
  · obtain ⟨own, rfl⟩ := own
    have used := (pushed_prefix_answer (.tasks own) world).subset
    obtain ⟨fault, -, same⟩ | ⟨id, fresh, served, pushed, -⟩ := effect_tasks orderly own unique
    · rw [same]
      exact orderly.mono used
    · rw [served, pushed]
      exact (orderly.step fresh).mono fun id used => List.mem_append.mpr (List.mem_append.mp used).symm
  · have spares : request.SparesQueue := fun other same => own ⟨other, same⟩
    rw [(sameQueue_answer spares world).backend, pushed_answer request world spares]
    exact orderly

/-! ### Worlds that requests have led to -/

/-- Some requests have led to a world from one without tasks and triggers. -/
inductive Reached : World State → Prop
  | blank (world : World State) (storage : Storage) (queue : world.backend = .empty storage)
      (unused : world.pushed = []) (store : world.automate = .empty) : Reached world
  | answered (request : Request) (world : World State) (reached : Reached world) :
      Reached (answer request world).2

variable {world : World State}

theorem Reached.perform {α : Type} (program : Program α) (reached : world.Reached) :
    (perform program world).2.Reached := by
  unfold World.perform
  induction program generalizing world with
  | call request next inductionHypothesis => exact inductionHypothesis _ (.answered request _ reached)
  | sleep delay next inductionHypothesis => exact inductionHypothesis reached
  | pure | hang | panic => exact reached

/-- As long as no identifier was used twice, the queue is as it should be. -/
theorem Reached.orderly (reached : world.Reached) (unique : world.pushed.Nodup) :
    world.backend.Orderly world.pushed := by
  induction reached with
  | blank world storage queue unused store =>
    rw [queue, unused]
    exact .empty storage
  | answered request world reached inductionHypothesis =>
    have before := inductionHypothesis (unique.sublist (pushed_prefix_answer request world).sublist)
    exact orderly_answer before unique

theorem ascends_answer (request : Request) (world : World State)
    (ascends : AutomateStore.Ascends world.automate.triggers) :
    AutomateStore.Ascends (answer request world).2.automate.triggers := by
  by_cases own : ∃ own, request = .automate own
  · obtain ⟨own, rfl⟩ := own
    obtain ⟨-, served⟩ | ⟨fault, -, same, -⟩ := answers_automate own world
    · rw [served]
      exact own.ascends_onStore ascends
    · rw [same]
      exact ascends
  · rw [(answer_foreign (fun other same => own ⟨other, same⟩) world).1]
    exact ascends

theorem Reached.ascends (reached : world.Reached) :
    AutomateStore.Ascends world.automate.triggers := by
  induction reached with
  | blank world storage queue unused store =>
    rw [store]
    exact List.Pairwise.nil
  | answered request world reached inductionHypothesis =>
    exact ascends_answer request world inductionHypothesis

end World

end TaskAutomation
