import TaskAutomation.Proofs.Queue.Claiming
import TaskAutomation.Proofs.Queue.Fault

/-!
This file says which reports of which workers count. A worker that has been handed a task holds it
until a report on it is accepted or it is taken back. A report names the task and not the claim, so
what it meets is whoever holds the task at that moment: while nobody does, every report is refused
and changes nothing, and while somebody does, a report is accepted whoever makes it. So a worker
whose task was taken back is shut out only until the task is claimed again. What a task keeps of its
runs comes from reports that were accepted in this way and from nothing else.
-/

namespace TaskAutomation

open StoredTask

/-! ### Holding a task -/

/-- An operation that a worker asks for. -/
structure WorkerCall where
  worker : Nat
  operation : QueueOperation

/-- The operations that workers ask for, in order. -/
def WorkerCall.operations (calls : List WorkerCall) : List QueueOperation :=
  calls.map WorkerCall.operation

/-- The worker that holds each task. -/
abbrev Holders := TaskId → Option Nat

/-- The holders behind an operation: a claim that is handed out makes its worker the holder, an
accepted report and a reap that takes the task back leave the task without one. -/
def Holders.after (holders : Holders) (worker : Nat) (before after : List StoredTask)
    (operation : QueueOperation) (reply : QueueReply) : Holders := fun id =>
  if claimCount id reply ≠ 0 then some worker
  else if reportCount id reply ≠ 0 ∨ reapCount id before after operation ≠ 0 then none
  else holders id

/-- The holders behind the calls of workers. -/
def Backend.holders (backend : Backend) (holders : Holders) : List WorkerCall → Holders
  | [] => holders
  | call :: rest =>
    let (reply, changed) := backend.step call.operation
    changed.holders
      (holders.after call.worker backend.records changed.records call.operation reply) rest

namespace StoredTask

variable {records newRecords : List StoredTask} {operation : QueueOperation} {reply : QueueReply}
  {record new : StoredTask} {id other : TaskId} {holders : Holders} {worker : Nat}

/-- The record reads as a task in process. -/
def Running (record : StoredTask) : Prop :=
  ∃ task, record.read = .ok task ∧ task.status = .process

theorem Running.status?_eq (running : record.Running) : record.status? = some .process := by
  obtain ⟨task, read, process⟩ := running
  rw [(read_eq_ok read).2.1, process]

theorem not_running (state : record.status? ≠ some .process) : ¬ record.Running :=
  fun running => state running.status?_eq

theorem running_claimed {now : Instant} {task : Task} (read : (record.claimed now).read = .ok task) :
    (record.claimed now).Running := by
  have state := (read_eq_ok read).2.1
  rw [status?_claimed] at state
  exact ⟨task, read, (Option.some.inj state).symm⟩

/-- A task has a holder if and only if it is stored as one in process. -/
def Agree (holders : Holders) (records : List StoredTask) : Prop :=
  ∀ id, (holders id).isSome = true ↔ Has Running records id

/-! ### The holders behind one operation -/

theorem after_of_claim (claimed : claimCount id reply ≠ 0) :
    holders.after worker records newRecords operation reply id = some worker := if_pos claimed

theorem after_of_end (unclaimed : claimCount id reply = 0)
    (ended : reportCount id reply ≠ 0 ∨ reapCount id records newRecords operation ≠ 0) :
    holders.after worker records newRecords operation reply id = none := by
  rw [Holders.after, if_neg (not_not_intro unclaimed), if_pos ended]

theorem after_of_quiet (unclaimed : claimCount id reply = 0)
    (unreported : reportCount id reply = 0)
    (unreaped : reapCount id records newRecords operation = 0) :
    holders.after worker records newRecords operation reply id = holders id := by
  rw [Holders.after, unclaimed, unreported, unreaped]
  rfl

theorem after_eq_none (unclaimed : claimCount id reply = 0) (free : holders id = none) :
    holders.after worker records newRecords operation reply id = none := by
  rw [Holders.after, if_neg (not_not_intro unclaimed), free, ite_self]

theorem Agree.quiet (agree : Agree holders records) (unclaimed : claimCount id reply = 0)
    (unreported : reportCount id reply = 0)
    (unreaped : reapCount id records newRecords operation = 0)
    (same : Has Running newRecords id ↔ Has Running records id) :
    (holders.after worker records newRecords operation reply id).isSome = true ↔
      Has Running newRecords id := by
  rw [after_of_quiet unclaimed unreported unreaped, agree id, same]

theorem agree_claimed (agree : Agree holders records) (distinct : Distinct records)
    (member : record ∈ records) (named : record.id? = some other) {topics : List String}
    {now : Instant} (due : record.isDue topics now = true) :
    Agree (holders.after worker records (replace records other (record.claimed now))
        (.claim topics now) ((record.claimed now).read.map fun task => .claimed (some task)))
      (replace records other (record.claimed now)) := by
  intro id
  have renamed := (id?_claimed record now).trans named
  by_cases same : other = id
  · rw [same] at named renamed ⊢
    rw [has_replace_self distinct member named renamed]
    cases read : (record.claimed now).read with
    | ok task =>
      have taskId : task.id = id := Option.some.inj ((read_eq_ok read).1.symm.trans renamed)
      have claimed : claimCount id (.ok (.claimed (some task))) ≠ 0 := by
        show (if task.id = id then 1 else 0) ≠ 0
        rw [if_pos taskId]
        exact Nat.one_ne_zero
      exact iff_of_true (by rw [Except.map, after_of_claim claimed]; rfl) (running_claimed read)
    | error fault =>
      have pending : ¬ record.Running := not_running (by rw [status?_of_isDue due]; exact nofun)
      rw [Except.map, after_of_quiet rfl rfl rfl, agree id, distinct.has_iff member named]
      refine iff_of_false pending ?_
      rintro ⟨task, reads, -⟩
      cases read.symm.trans reads
  · have others : Has Running (replace records other (record.claimed now)) id ↔
        Has Running records id := has_replace_other distinct member named renamed same
    cases read : (record.claimed now).read with
    | ok task =>
      have taskId : task.id = other := Option.some.inj ((read_eq_ok read).1.symm.trans renamed)
      exact agree.quiet (if_neg (taskId ▸ same)) rfl rfl others
    | error fault => exact agree.quiet rfl rfl rfl others

theorem agree_settled (agree : Agree holders records) (distinct : Distinct records)
    {report : RunReport} {apply : Task → Task}
    (reports : operation.settlement? = some (report, apply)) (member : record ∈ records)
    (named : record.id? = some report.id) {task : Task} (read : record.read = .ok task) :
    Agree (holders.after worker records
        (replace records report.id (record.settled (apply (task.absorb report)))) operation
        (.ok (.settled (apply (task.absorb report)))))
      (replace records report.id (record.settled (apply (task.absorb report)))) := by
  intro id
  have origin := QueueOperation.sameOrigin_settlement reports task
  have renamed := (id?_settled read origin.id).trans named
  have taskId : (apply (task.absorb report)).id = report.id :=
    origin.id.trans (Option.some.inj ((read_eq_ok read).1.symm.trans named))
  by_cases same : report.id = id
  · have reported : reportCount id (.ok (.settled (apply (task.absorb report)))) ≠ 0 := by
      show (if (apply (task.absorb report)).id = id then 1 else 0) ≠ 0
      rw [if_pos (taskId.trans same)]
      exact Nat.one_ne_zero
    rw [after_of_end rfl (Or.inl reported), ← same,
      has_replace_self distinct member named renamed]
    refine iff_of_false Bool.false_ne_true (not_running ?_)
    rw [status?_settled]
    exact fun stays => QueueOperation.status_settlement_ne reports task (Option.some.inj stays)
  · exact agree.quiet rfl (if_neg (taskId ▸ same)) (reapCount_of_settlement reports)
      (has_replace_other distinct member named renamed same)

theorem agree_reaped (agree : Agree holders records) (distinct : Distinct records)
    (now cutoff : Instant) (rows : Nat) :
    Agree (holders.after worker records
        (records.map fun record => if record.isStale cutoff then record.reaped now else record)
        (.reap now cutoff) (.ok (.changed rows)))
      (records.map fun record => if record.isStale cutoff then record.reaped now else record) := by
  intro id
  by_cases taken : InProcess records id ∧ ¬ InProcess (records.map fun record =>
      if record.isStale cutoff then record.reaped now else record) id
  · rw [after_of_end rfl (Or.inr (by rw [reapCount, if_pos taken]; exact Nat.one_ne_zero))]
    refine iff_of_false Bool.false_ne_true ?_
    rintro ⟨record, member, named, running⟩
    exact taken.2 ⟨record, member, named, running.status?_eq⟩
  · refine agree.quiet rfl rfl (if_neg taken) ⟨has_of_reaped fun record => not_running ?_, ?_⟩
    · rw [status?_reaped]
      exact nofun
    · rintro ⟨record, member, named, running⟩
      rw [distinct.has_reaped_iff member named]
      split
      · next stale =>
        refine absurd ⟨⟨record, member, named, running.status?_eq⟩, fun after => ?_⟩ taken
        have state := (distinct.has_reaped_iff member named).mp after
        rw [if_pos stale, status?_reaped] at state
        cases state
      · exact running

/-- Every operation keeps the holders in step with the records. -/
theorem Effect.agree (effect : Effect records operation reply newRecords)
    (distinct : Distinct records) (agree : Agree holders records) (worker : Nat) :
    Agree (holders.after worker records newRecords operation reply) newRecords := by
  cases effect with
  | queued own now handler params options record free stored =>
    refine fun id => agree.quiet rfl rfl rfl (has_append (not_running ?_))
    rw [status?_of_isOf stored]
    exact nofun
  | collided own now handler params options sign holder existing record signed member holds named
      stored =>
    refine fun id => agree.quiet rfl rfl rfl (has_append (not_running ?_))
    rw [status?_of_isOf stored]
    exact nofun
  | claimed topics now own record member named due =>
    exact agree_claimed agree distinct member named due
  | settled operation report apply record task reports member named read process =>
    exact agree_settled agree distinct reports member named read
  | reaped now cutoff => exact agree_reaped agree distinct now cutoff _
  | purged before rows reported =>
    exact fun id => agree.quiet rfl rfl rfl (has_purged fun _ running => Or.inr running.status?_eq)
  | found own record member named =>
    refine fun id => agree.quiet ?_ ?_ rfl Iff.rfl <;> cases record.read <;> rfl
  | absent _ report apply reports | unreadable _ report apply _ _ reports
  | unheld _ report apply _ _ reports =>
    exact fun id => agree.quiet rfl rfl (reapCount_of_settlement reports) Iff.rfl
  | unclaimed | notFound | counted => exact fun id => agree.quiet rfl rfl rfl Iff.rfl

/-! ### What a task keeps of its runs -/

/-- Two records of a task agree in what it keeps of its runs. -/
def SameResult : StoredTask → StoredTask → Prop
  | task a, task b =>
    b.params = a.params ∧ b.startAt = a.startAt ∧ b.executionMillis = a.executionMillis ∧
      b.error = a.error
  | row a, row b =>
    b.params = a.params ∧ b.startAt = a.startAt ∧ b.executionMillis = a.executionMillis ∧
      b.error = a.error
  | _, _ => False

/-- A record is as before in what it keeps of its runs, and it has not become one of a task that is
over. -/
structure Unreported (before after : StoredTask) : Prop where
  result : SameResult before after
  state : after.status? = before.status? ∨ after.IsInFlight

theorem SameResult.refl (record : StoredTask) : SameResult record record := by
  cases record <;> exact ⟨rfl, rfl, rfl, rfl⟩

theorem unreported_claimed (record : StoredTask) (now : Instant) :
    Unreported record (record.claimed now) :=
  ⟨by cases record <;> exact ⟨rfl, rfl, rfl, rfl⟩, Or.inr (Or.inr (status?_claimed record now))⟩

theorem unreported_reaped (record : StoredTask) (now : Instant) :
    Unreported record (record.reaped now) :=
  ⟨by cases record <;> exact ⟨rfl, rfl, rfl, rfl⟩, Or.inr (Or.inl (status?_reaped record now))⟩

end StoredTask

namespace Backend

open QueueOperation StoredTask WorkerCall

variable {backend : Backend} {holders : Holders} {past future calls : List WorkerCall}
  {operation : QueueOperation} {rest : List QueueOperation}

theorem Sound.agree (sound : backend.Sound (operations calls ++ rest))
    (agree : Agree holders backend.records) :
    Agree (backend.holders holders calls) (backend.run (operations calls)).2.records := by
  induction calls generalizing backend holders with
  | nil => exact agree
  | cons call calls inductionHypothesis =>
    exact inductionHypothesis sound.step (sound.effect.agree sound.distinct agree call.worker)

theorem holders_cons (backend : Backend) (holders : Holders) (call : WorkerCall)
    (rest : List WorkerCall) :
    backend.holders holders (call :: rest) =
      (backend.step call.operation).2.holders
        (holders.after call.worker backend.records (backend.step call.operation).2.records
          call.operation (backend.step call.operation).1) rest := rfl

theorem holders_append (backend : Backend) (holders : Holders) (past future : List WorkerCall) :
    backend.holders holders (past ++ future) =
      (backend.run (operations past)).2.holders (backend.holders holders past) future := by
  induction past generalizing backend holders with
  | nil => rfl
  | cons call calls inductionHypothesis => exact inductionHypothesis _ _

/-- Without a claim on it a task that nobody holds gets no holder. -/
theorem holders_eq_none {id : TaskId} (free : holders id = none)
    (unclaimed : backend.claims id (operations calls) = 0) :
    backend.holders holders calls id = none := by
  induction calls generalizing backend holders with
  | nil => exact free
  | cons call calls inductionHypothesis =>
    obtain ⟨now, later⟩ := Nat.add_eq_zero_iff.mp unclaimed
    exact inductionHypothesis (after_eq_none now free) later

/-- A worker loses its task to a reap. -/
def TakesBack (backend : Backend) (id : TaskId) (operation : QueueOperation) : Prop :=
  reapCount id backend.records (backend.step operation).2.records operation ≠ 0

theorem TakesBack.claimCount_eq_zero {id : TaskId} (taken : backend.TakesBack id operation) :
    claimCount id (backend.step operation).1 = 0 := by
  cases operation with
  | reap now cutoff => rfl
  | _ => exact absurd rfl taken

/-- What holds of reports from a state on in which workers hold tasks. -/
structure FencingLaws (backend : Backend) (holders : Holders) (future : List QueueOperation) :
    Prop where
  /-- A report on a task that nobody holds is refused, and nothing changes. -/
  refused : ∀ operation rest report apply, future = operation :: rest →
    operation.settlement? = some (report, apply) → holders report.id = none →
      ∃ fault, backend.step operation = (.error fault, backend) ∧
        Refusal backend.records report.id fault
  /-- A report on a task that somebody holds is taken, whoever makes it. -/
  taken : ∀ operation rest report apply worker, future = operation :: rest →
    operation.settlement? = some (report, apply) → holders report.id = some worker →
      ∃ record ∈ backend.records, ∃ task, record.id? = some report.id ∧ record.read = .ok task ∧
        (backend.step operation).1 = .ok (.settled (apply (task.absorb report))) ∧
        (backend.step operation).2.records =
          replace backend.records report.id (record.settled (apply (task.absorb report)))
  /-- What a task keeps of its runs changes by nothing but a report on a task that is held, and a
  purge takes away only tasks that are over. -/
  reported : ∀ operation rest, future = operation :: rest → ∀ record ∈ backend.records,
    (∃ before, operation = .purge before ∧ ¬ record.IsInFlight) ∨
      ∃ changed ∈ (backend.step operation).2.records, changed.id? = record.id? ∧
        (Unreported record changed ∨
          ∃ report apply task worker, operation.settlement? = some (report, apply) ∧
            record.id? = some report.id ∧ record.read = .ok task ∧
            holders report.id = some worker ∧
            changed = record.settled (apply (task.absorb report)))

theorem Sound.fencingLaws {future : List QueueOperation} (sound : backend.Sound future)
    (agree : Agree holders backend.records) : backend.FencingLaws holders future := by
  refine ⟨?_, ?_, ?_⟩
  · rintro operation rest report apply rfl reports none
    obtain ⟨record, member, task, named, read, process, -⟩ | ⟨fault, failed, -, refusal⟩ :=
      sound.effect.settlement_inv reports
    · have held := (agree report.id).mpr ⟨record, member, named, task, read, process⟩
      rw [none] at held
      cases held
    · obtain ⟨-, same⟩ | ⟨topics, now, table, row, changed, rfl, -⟩ := step_of_error failed
      · exact ⟨fault, Prod.ext failed same, refusal⟩
      · cases reports
  · rintro operation rest report apply worker rfl reports held
    obtain ⟨record, member, named, task, read, process⟩ := (agree report.id).mp (by rw [held]; rfl)
    obtain ⟨other, inside, own, same, reads, -, answer, records⟩ | ⟨fault, -, -, refusal⟩ :=
      sound.effect.settlement_inv reports
    · exact ⟨other, inside, own, same, reads, answer, records⟩
    · exfalso
      cases refusal with
      | absent missing => exact missing record member named
      | unreadable other inside same _ unread =>
        obtain rfl := sound.distinct.eq_of_id?_eq member inside (named.trans same.symm)
        cases read.symm.trans unread
      | unheld other inside same own reads unheld =>
        obtain rfl := sound.distinct.eq_of_id?_eq member inside (named.trans same.symm)
        obtain rfl := Except.ok.inj (read.symm.trans reads)
        exact unheld process
  · rintro operation rest rfl record member
    obtain ⟨changed, inside, change⟩ | ⟨before, purge, expired⟩ :=
      sound.effect.forward sound.distinct member
    · refine Or.inr ⟨changed, inside, change.id?_eq, ?_⟩
      cases change with
      | kept => exact Or.inl ⟨.refl record, Or.inl rfl⟩
      | claimed topics now => exact Or.inl (unreported_claimed record now)
      | reaped now cutoff => exact Or.inl (unreported_reaped record now)
      | settled report apply _ task reports named read process =>
        have held := (agree report.id).mpr ⟨record, member, named, task, read, process⟩
        obtain ⟨worker, holds⟩ := Option.isSome_iff_exists.mp held
        exact Or.inr ⟨report, apply, task, worker, reports, named, read, holds, rfl⟩
    · exact Or.inl ⟨before, purge, not_isInFlight_of_isExpired expired⟩

/-- A report is refused and changes nothing as long as nobody holds its task, and nobody does from
a reap that took the task back until the task is claimed again; while somebody holds it, a report is
taken whoever makes it, and nothing else changes what the task keeps of its runs. -/
theorem reports_fenced (storage : Storage) (calls : List WorkerCall)
    (future : List QueueOperation) (unique : (pushedIds (operations calls ++ future)).Nodup) :
    ((empty storage).run (operations calls)).2.FencingLaws
        ((empty storage).holders (fun _ => none) calls) future ∧
      ∀ past reaper since id, calls = past ++ reaper :: since →
        ((empty storage).run (operations past)).2.TakesBack id reaper.operation →
        ((((empty storage).run (operations past)).2.step reaper.operation).2.claims id
          (operations since)) = 0 →
          (empty storage).holders (fun _ => none) calls id = none := by
  have sound : (empty storage).Sound (operations calls ++ future) := .empty storage unique
  refine ⟨sound.run.fencingLaws (sound.agree fun id => ?_), ?_⟩
  · refine iff_of_false Bool.false_ne_true ?_
    rintro ⟨record, member, -⟩
    exact not_mem_records_empty storage record member
  · rintro past reaper since id rfl taken unclaimed
    rw [holders_append, holders_cons]
    exact holders_eq_none (after_of_end taken.claimCount_eq_zero (Or.inr taken)) unclaimed

/-- A task is pushed, claimed by one worker and taken back from it. -/
def recallCalls : List WorkerCall :=
  [⟨0, .push ⟨.ofNat 1⟩ ⟨0, 0⟩ "mail" (.list []) {}⟩,
    ⟨1, .claim [defaultTopic] ⟨1, 0⟩⟩,
    ⟨0, .reap ⟨3, 0⟩ ⟨2, 0⟩⟩]

/-- The report of the worker that the task was taken back from. -/
def lateReport : QueueOperation := .complete (.bare ⟨.ofNat 1⟩ ⟨5, 0⟩)

theorem reports_fenced_recall :
    (pushedIds (operations recallCalls ++ [lateReport])).Nodup ∧
      (empty .table).holders (fun _ => none) recallCalls ⟨.ofNat 1⟩ = none ∧
      ∃ fault, ((empty .table).run (operations recallCalls)).2.step lateReport =
        (.error fault, ((empty .table).run (operations recallCalls)).2) := by
  have unique : (pushedIds (operations recallCalls ++ [lateReport])).Nodup := by decide
  obtain ⟨laws, recalled⟩ := reports_fenced .table recallCalls [lateReport] unique
  have free := recalled (recallCalls.take 2) ⟨0, .reap ⟨3, 0⟩ ⟨2, 0⟩⟩ [] ⟨.ofNat 1⟩ rfl
    (by unfold TakesBack; decide) (by decide)
  obtain ⟨fault, refused, -⟩ := laws.refused lateReport [] _ _ rfl rfl free
  exact ⟨unique, free, fault, refused⟩

/-- A worker whose task was taken back reports on it while another worker holds it, and the report
is taken. -/
structure LateReportTaken (storage : Storage) : Prop where
  held : (empty storage).holders (fun _ => none) (recallCalls.take 2) ⟨.ofNat 1⟩ = some 1
  lost : ((empty storage).run (operations (recallCalls.take 2))).2.TakesBack ⟨.ofNat 1⟩
    (.reap ⟨3, 0⟩ ⟨2, 0⟩)
  heldAgain : (empty storage).holders (fun _ => none)
    (recallCalls ++ [⟨2, .claim [defaultTopic] ⟨4, 0⟩⟩]) ⟨.ofNat 1⟩ = some 2
  taken : (((empty storage).run
    (operations (recallCalls ++ [⟨2, .claim [defaultTopic] ⟨4, 0⟩⟩]))).2.step lateReport).2.counts =
      .ok { done := 1 }

theorem late_report_taken : LateReportTaken .memory ∧ LateReportTaken .table :=
  ⟨⟨by decide, by unfold TakesBack; decide, by decide, by with_unfolding_all rfl⟩,
    ⟨by with_unfolding_all rfl, by unfold TakesBack; decide, by with_unfolding_all rfl,
      by with_unfolding_all rfl⟩⟩

end Backend

end TaskAutomation
