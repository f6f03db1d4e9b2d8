import TaskAutomation.Proofs.Engine.Pursuit
import TaskAutomation.Proofs.Engine.TransactionEndings
import Mathlib.Data.List.DropRight

/-!
This file says why the task of a transaction is not in flight any more once the transaction was sent.
As long as there is no such reason, there is a record of the task in flight that carries the sign of
its contract, so no other task with that sign is queued. The number of attempts in the record is at
most that of the requests at the end that have failed, since every answer starts the count again.
-/

namespace TaskAutomation

/-! ### Requests that have failed -/

namespace Exchange

/-- There was no answer. -/
def isFailed : Exchange → Bool
  | ⟨_, .error _⟩ => true
  | _ => false

/-- The number of requests at the end that have failed. -/
def failedAtEnd (log : List Exchange) : Nat := (log.rtakeWhile isFailed).length

theorem failedAtEnd_concat_failed (log : List Exchange) (request : OutsideRequest)
    (failure : Failure) :
    failedAtEnd (log ++ [⟨request, .error failure⟩]) = failedAtEnd log + 1 := by
  unfold failedAtEnd
  rw [List.rtakeWhile_concat_pos isFailed log _ rfl, List.length_append]
  rfl

/-- What was asked before an answer does not count. -/
theorem rtakeWhile_isFailed_append {exchange : Exchange} (answered : exchange.isFailed = false)
    (former later : List Exchange) :
    (former ++ exchange :: later).rtakeWhile isFailed = later.rtakeWhile isFailed := by
  induction later using List.reverseRecOn with
  | nil => rw [List.rtakeWhile_concat, answered]; rfl
  | append_singleton rest last inductionHypothesis =>
    rw [← List.cons_append, ← List.append_assoc, List.rtakeWhile_concat, List.rtakeWhile_concat,
      inductionHypothesis]

end Exchange

open Exchange

/-- The cell holds a number of attempts up to a given one, or none that is read as such. -/
def Cell.CountsUpTo (most : Nat) : Cell → Prop
  | integer n => n ≤ most
  | text _ => False
  | null | real _ => True

theorem Cell.CountsUpTo.increment {cell : Cell} {most : Nat} (counts : cell.CountsUpTo most) :
    cell.increment.CountsUpTo (most + 1) := by
  cases cell with
  | integer n =>
    rw [Cell.increment]
    split
    · exact Int.add_le_add_right counts 1
    · trivial
  | text value => exact counts.elim
  | null | real => trivial

namespace StoredTask

variable {record : StoredTask} {held : Task} {most : Nat}

/-- If a record holds a number of attempts, it is at most another number. -/
def TriedAtMost (record : StoredTask) (most : Nat) : Prop :=
  match record with
  | task held => held.attempt ≤ most
  | row cells => cells.attempt.CountsUpTo most

theorem triedAtMost_of_isOf (stored : record.IsOf held) (few : held.attempt ≤ most) :
    record.TriedAtMost most := by
  obtain rfl | rfl := stored
  · exact few
  · exact Int.ofNat_le.mpr few

theorem TriedAtMost.claimed (tried : record.TriedAtMost most) (now : Instant) :
    (record.claimed now).TriedAtMost (most + 1) := by
  cases record with
  | task held => exact Nat.add_le_add_right tried 1
  | row cells => exact Cell.CountsUpTo.increment tried

theorem triedAtMost_settled (record : StoredTask) (few : held.attempt ≤ most) :
    (record.settled held).TriedAtMost most := by
  cases record with
  | task own => exact few
  | row cells => exact Int.ofNat_le.mpr few

theorem TriedAtMost.of_read (tried : record.TriedAtMost most) (read : record.read = .ok held) :
    held.attempt ≤ most := by
  cases record with
  | task own =>
    cases read
    exact tried
  | row cells =>
    have attempts := (Row.reads_of_task_eq_ok read).attempt
    simp only [attempt?] at attempts
    split at attempts
    · next n cell =>
      cases attempts
      have counts : cells.attempt.CountsUpTo most := tried
      rw [cell] at counts
      exact Int.ofNat_le.mp counts
    · cases attempts

end StoredTask

/-! ### Why a transaction is not in flight any more -/

namespace TransactionRun

variable {run : TransactionRun} {attempts : Nat} {log former later : List Exchange}
  {network automate hash : String}

/-- Why nothing is asked for a transaction any more: it was never sent, its params are refused, there
was a verdict, or the last request has failed for good or after enough others. -/
inductive Over (run : TransactionRun) (attempts : Nat) (log : List Exchange) : Prop
  | unsent (silent : log.filterMap Exchange.sent? = []) : Over run attempts log
  | refused (unsound : verify { run with txHash := (run.hashes log).head? } ≠ .ok ()) :
      Over run attempts log
  | answered (former : List Exchange) (network hash : String) (good : Bool)
      (last : log = former ++ [⟨.receipt network hash, .ok (some good)⟩]) : Over run attempts log
  | unanswered (former : List Exchange) (request : OutsideRequest) (failure : Failure)
      (last : log = former ++ [⟨request, .error failure⟩])
      (final : failure.kind.isRetryable = false ∨ attempts ≤ failedAtEnd log) :
      Over run attempts log

/-- What was asked after a transaction was sent under a hash lets go of its contract: there was a
verdict on the hash, the request for its receipt has failed for good, or it has failed at the end as
often as attempts are granted. For a hash that is blank nothing is asked. -/
inductive Releases (attempts : Nat) (network hash : String) (later : List Exchange) : Prop
  | blank (unseen : Text.isBlankText hash = true) : Releases attempts network hash later
  | answered (good : Bool) (answered : ⟨.receipt network hash, .ok (some good)⟩ ∈ later) :
      Releases attempts network hash later
  | refused (failure : Failure) (final : failure.kind.isRetryable = false)
      (refused : ⟨.receipt network hash, .error failure⟩ ∈ later) :
      Releases attempts network hash later
  | exhausted (failures : List Exchange) (last : failures <:+ later) (any : failures ≠ [])
      (enough : attempts ≤ failures.length)
      (each : ∀ exchange ∈ failures, ∃ failure, exchange = ⟨.receipt network hash, .error failure⟩) :
      Releases attempts network hash later

/-- A transaction that is sent had no hash before, and is sent to its contract. -/
theorem Pursued.of_sent {known : Option String} {verdict : Option Bool}
    (pursued : run.Pursued log known verdict)
    (split : log = former ++ ⟨.send network automate, .ok hash⟩ :: later) :
    run.hashes former = [] ∧ run.network = network ∧ run.automate = automate := by
  have inside : former ++ [⟨.send network automate, .ok hash⟩] <+: log :=
    ⟨later, by rw [split, List.append_assoc]; rfl⟩
  have asks := pursued.asks inside
  unfold request at asks
  cases head : (run.hashes former).head? with
  | none =>
    rw [head] at asks
    cases asks
    exact ⟨List.head?_eq_none_iff.mp head, rfl, rfl⟩
  | some other =>
    rw [head] at asks
    cases asks

theorem hashes_append (run : TransactionRun) (former later : List Exchange) :
    run.hashes (former ++ later) = run.hashes former ++ later.filterMap Exchange.sent? := by
  unfold hashes
  rw [List.filterMap_append, List.append_assoc]

/-- After a transaction was sent nothing but the receipt of its hash is asked for. -/
theorem Pursued.asks_receipt {known : Option String} {verdict : Option Bool}
    (pursued : run.Pursued log known verdict)
    (split : log = former ++ ⟨.send network automate, .ok hash⟩ :: later) {exchange : Exchange}
    (member : exchange ∈ later) : exchange.request = .receipt network hash := by
  obtain ⟨unknown, rfl, -⟩ := pursued.of_sent split
  obtain ⟨front, back, rfl⟩ := List.append_of_mem member
  have inside : (former ++ ⟨.send run.network automate, .ok hash⟩ :: front) ++ [exchange] <+: log :=
    ⟨back, by rw [split, List.append_assoc, List.append_assoc, List.cons_append]; rfl⟩
  have asks := pursued.asks inside
  rw [hashes_append, unknown] at asks
  exact asks

/-- When nothing is asked any more for a transaction that was sent, its contract is let go. -/
theorem Pursued.releases {known : Option String} {verdict : Option Bool}
    (pursued : run.Pursued log known verdict)
    (sound : verify { run with txHash := none } = .ok ()) (finished : run.Over attempts log)
    (split : log = former ++ ⟨.send network automate, .ok hash⟩ :: later) :
    Releases attempts network hash later := by
  have asks {exchange : Exchange} (member : exchange ∈ later) :=
    pursued.asks_receipt split member
  have last_mem {front : List Exchange} {last : Exchange} (ends : log = front ++ [last])
      (other : last ≠ ⟨.send network automate, .ok hash⟩) : last ∈ later := by
    obtain rfl | ⟨rest, own, rfl⟩ := List.eq_nil_or_concat' later
    · exact absurd (List.append_inj' (ends.symm.trans split) rfl).2 (by simpa using other)
    · rw [split, ← List.cons_append, ← List.append_assoc] at ends
      rw [← List.singleton_inj.mp (List.append_inj' ends rfl).2]
      exact List.mem_append_right _ List.mem_cons_self
  obtain ⟨unknown, -, -⟩ := pursued.of_sent split
  cases finished with
  | unsent silent =>
    rw [split, List.filterMap_append, List.append_eq_nil_iff] at silent
    cases silent.2
  | refused unsound =>
    rw [split, hashes_append, unknown] at unsound
    refine .blank (by_contra fun visible => unsound (verify_eq_ok_iff.mpr ⟨sound, ?_⟩))
    rintro _ ⟨⟩
    exact eq_false_of_ne_true visible
  | answered front other own good ends =>
    have member := last_mem ends nofun
    cases asks member
    exact .answered good member
  | unanswered front request failure ends final =>
    have member := last_mem ends nofun
    cases asks member
    obtain final | enough := final
    · exact .refused failure final member
    · have same : log.rtakeWhile isFailed = later.rtakeWhile isFailed := by
        rw [split, rtakeWhile_isFailed_append rfl]
      refine .exhausted (log.rtakeWhile isFailed) ?_ ?_ enough ?_
      · rw [same]
        exact List.rtakeWhile_suffix isFailed later
      · rw [ends, List.rtakeWhile_concat_pos isFailed front _ rfl]
        exact List.concat_ne_nil _ _
      · rintro ⟨request, reply⟩ failed
        rw [same] at failed
        have inside := (List.rtakeWhile_suffix isFailed later).subset failed
        cases asks inside
        cases reply with
        | error failure => exact ⟨failure, rfl⟩
        | ok verdict => cases List.mem_rtakeWhile_imp failed

end TransactionRun

open StoredTask

/-! ### How a task is kept -/

namespace TransactionRun

/-- What is known beside where a transaction stands: it makes sense if something was asked for it, its
attempts are at most the requests at the end that have failed and the run under way, and its task is
in flight unless nothing is asked for it any more. -/
structure Kept (run : TransactionRun) (attempts : Nat) (id : TaskId) (held : Nat → Option Holding)
    (log : List Exchange) (records : List StoredTask) : Prop where
  sound : log ≠ [] → verify { run with txHash := none } = .ok ()
  waits : ∀ record ∈ records, record.id? = some id → record.status? = some .pending →
    record.TriedAtMost (failedAtEnd log)
  inHand : ∀ n holding, held n = some holding → ∃ former, log = former ++ holding.asked ∧
    holding.task.attempt ≤ failedAtEnd former + 1 ∧
    (∃ record ∈ records, record.id? = some id) ∧
    ∀ record ∈ records, record.id? = some id → record.TriedAtMost (failedAtEnd former + 1)
  flies : run.Over attempts log ∨ ∃ record ∈ records, record.id? = some id ∧ record.IsInFlight

variable {run : TransactionRun} {attempts : Nat} {id : TaskId} {held : Nat → Option Holding}
  {log : List Exchange} {records changed : List StoredTask} {n : Nat} {holding : Holding}

/-- What is known of a transaction that a dispatcher has in hand. -/
theorem Standing.of_held (standing : run.Standing id held log records)
    (found : held n = some holding) :
    ∃ former known, (∀ m, m ≠ n → held m = none) ∧ run.Pursued former known none ∧
      log = former ++ holding.asked ∧ holding.Pursues { run with txHash := known } ∧
      ∀ record ∈ records, record.id? = some id → record.status? = some .process := by
  cases standing with
  | resting _ _ free => cases found.symm.trans (free n)
  | inHand k own former known found' alone pursued asked round pursues carries =>
    obtain rfl : n = k := by
      by_contra other
      cases found.symm.trans (alone n other)
    obtain rfl := Option.some.inj (found.symm.trans found')
    exact ⟨former, known, alone, pursued, asked, pursues, fun record member named =>
      (carries record member named).1⟩

namespace Kept

/-- A dispatcher goes on with what it has in hand. -/
theorem keeps (kept : run.Kept attempts id held log records) {own : Option Holding}
    (same : held n = own) : run.Kept attempts id (Function.update held n own) log records := by
  rw [← same, Function.update_eq_self]
  exact kept

/-- A dispatcher has nothing in hand any more. -/
theorem stopped (kept : run.Kept attempts id held log records) (n : Nat) :
    run.Kept attempts id (Function.update held n none) log records where
  sound := kept.sound
  waits := kept.waits
  inHand := forall_update_some (by rintro _ ⟨⟩) fun m _ => kept.inHand m
  flies := kept.flies

/-- The task is kept as long as its record is left alone. -/
theorem aside (kept : run.Kept attempts id held log records)
    (standing : run.Standing id held log records)
    (backward : ∀ record ∈ changed, record.id? = some id →
      ∃ former ∈ records, former.id? = some id ∧ former.Aside record)
    (forward : ∀ former ∈ records, former.id? = some id → former.IsInFlight →
      ∃ record ∈ changed, record.id? = some id ∧ former.Aside record) :
    run.Kept attempts id held log changed where
  sound := kept.sound
  waits record member named pending := by
    obtain ⟨former, before, same, aside⟩ := backward record member named
    obtain rfl := aside.eq_of_pending pending
    exact kept.waits record before same pending
  inHand m own found := by
    obtain ⟨former, asked, few, ⟨record, member, named⟩, tried⟩ := kept.inHand m own found
    obtain ⟨-, -, -, -, -, -, process⟩ := standing.of_held found
    refine ⟨former, asked, few, ?_, fun other inside same => ?_⟩
    · obtain ⟨next, inside, same, -⟩ :=
        forward record member named (Or.inr (process record member named))
      exact ⟨next, inside, same⟩
    · obtain ⟨before, known, own, aside⟩ := backward other inside same
      obtain rfl := aside.eq_of_process (process before known own)
      exact tried other known own
  flies := kept.flies.imp_right fun ⟨former, before, named, flies⟩ => by
    obtain ⟨record, member, same, aside⟩ := forward former before named flies
    exact ⟨record, member, same, aside.isInFlight flies⟩

/-- A dispatcher asks for something in the name of a transaction that makes sense. -/
theorem asks (kept : run.Kept attempts id held log records)
    (standing : run.Standing id held log records) (found : held n = some holding)
    (sound : ∀ current, holding.Pursues current → current.verify = .ok ()) (exchange : Exchange) :
    run.Kept attempts id
      (Function.update held n (some { holding with asked := holding.asked ++ [exchange] }))
      (log ++ [exchange]) records := by
  obtain ⟨former, asked, few, ⟨record, member, named⟩, tried⟩ := kept.inHand n holding found
  obtain ⟨-, known, alone, -, -, pursues, process⟩ := standing.of_held found
  have makesSense := (verify_eq_ok_iff.mp (sound _ pursues)).1
  refine ⟨fun _ => makesSense, fun other inside own pending => ?_,
    forall_update_some ?_ fun m other own held => ?_,
    Or.inr ⟨record, member, named, Or.inr (process record member named)⟩⟩
  · cases (process other inside own).symm.trans pending
  · rintro _ ⟨⟩
    exact ⟨former, by rw [asked, List.append_assoc], few, ⟨record, member, named⟩, tried⟩
  · cases (alone m other).symm.trans held

/-- A dispatcher claims the task, which counts an attempt. -/
theorem claimed (kept : run.Kept attempts id held log records)
    (standing : run.Standing id held log records) (distinct : Distinct records)
    {topics : List String} {now : Instant} {record : StoredTask} {task : Task}
    (member : record ∈ records) (named : record.id? = some id)
    (due : record.isDue topics now = true) (read : (record.claimed now).read = .ok task) (n : Nat) :
    run.Kept attempts id (Function.update held n (some ⟨task, []⟩)) log
      (replace records id (record.claimed now)) := by
  have tried := (kept.waits record member named (status?_of_isDue due)).claimed now
  have process := status?_claimed record now
  have same : (record.claimed now).id? = some id := (id?_claimed record now).trans named
  have inside := distinct.mem_replace_self member named (record.claimed now)
  refine ⟨kept.sound, fun other inside own pending => ?_,
    forall_update_some ?_ fun m _ own found => ?_, Or.inr ⟨_, inside, same, Or.inr process⟩⟩
  · rw [distinct.eq_of_mem_replace member named inside own, process] at pending
    cases pending
  · rintro _ ⟨⟩
    refine ⟨log, (List.append_nil log).symm, tried.of_read read, ⟨_, inside, same⟩,
      fun other inside own => ?_⟩
    rw [distinct.eq_of_mem_replace member named inside own]
    exact tried
  · obtain ⟨-, -, -, -, -, -, held⟩ := standing.of_held found
    cases (status?_of_isDue due).symm.trans (held record member named)

end Kept

/-- A transaction that is given up for a reason is over. -/
theorem over_of_mayGiveUp {former : List Exchange} {known : Option String}
    (pursued : run.Pursued former known none) (asked : log = former ++ holding.asked)
    (pursues : holding.Pursues { run with txHash := known })
    (few : holding.task.attempt ≤ failedAtEnd former + 1) (gives : holding.MayGiveUp attempts) :
    run.Over attempts log := by
  obtain ⟨failure, failed, final⟩ := gives _ pursues
  cases failed with
  | refused unasked unsound =>
    rw [unasked, List.append_nil] at asked
    subst asked
    refine .refused ?_
    rw [pursued.hashes_eq, Option.head?_toList]
    exact unsound
  | unanswered request alone =>
    rw [alone] at asked
    refine .unanswered former request failure asked (final.imp_right fun enough => ?_)
    rw [asked, failedAtEnd_concat_failed]
    exact enough.trans few
  | reverted network hash alone =>
    rw [alone] at asked
    exact .answered former network hash false asked

/-- A transaction that has succeeded is over. -/
theorem over_of_succeeded {former : List Exchange} {known : Option String}
    (asked : log = former ++ holding.asked)
    (pursues : holding.Pursues { run with txHash := known }) (succeeded : holding.Succeeded) :
    run.Over attempts log := by
  obtain ⟨hash, round⟩ := succeeded _ pursues
  generalize same : holding.asked = exchanges at round asked
  cases round with
  | answered hash given => exact .answered former _ hash true asked

/-- A task that is put off has as many attempts as requests at the end have failed, or it starts the
count again. -/
theorem attempt_of_putOff {former : List Exchange} {known : Option String} {report : RunReport}
    {task : Task} (asked : log = former ++ holding.asked)
    (pursues : holding.Pursues { run with txHash := known })
    (retries : report.rearm = false → holding.MayRetry)
    (few : task.attempt ≤ failedAtEnd former + 1) (startAt : Instant) :
    ((task.absorb report).reschedule startAt report.rearm).attempt ≤ failedAtEnd log := by
  show (if report.rearm then 0 else (task.absorb report).attempt) ≤ _
  split
  · exact Nat.zero_le _
  · next unarmed =>
    obtain ⟨request, failure, only⟩ := retries (eq_false_of_ne_true unarmed) _ pursues
    rw [only] at asked
    rw [task.attempt_absorb, asked, failedAtEnd_concat_failed]
    exact few

/-- A record in process is still in flight if its task is put off. -/
theorem isInFlight_of_putOff {record changed : StoredTask} {report : RunReport} {startAt : Instant}
    (process : record.status? = some .process)
    (change : Change (.reschedule report startAt) record changed) : changed.IsInFlight := by
  cases change with
  | kept => exact Or.inr process
  | settled _ _ _ task reports =>
    cases reports
    exact Or.inl (status?_settled record _)
  | claimed _ _ _ claims => cases claims
  | reaped _ _ _ reaps => cases reaps

/-- A report on a transaction leaves its task in flight, or the transaction is over. -/
theorem Kept.reported {new : TaskId} {backend : Backend} {used : List TaskId}
    {request : TaskRequest} {now : Instant} {report : RunReport} {apply : Task → Task}
    (kept : run.Kept attempts id held log backend.records)
    (standing : run.Standing id held log backend.records) (orderly : backend.Orderly used)
    (found : held n = some holding) (pursuing : pursuit.allows (some holding) (.tasks request))
    (caring : (custody attempts).allows (some holding) (.tasks request))
    (fresh : ∀ id ∈ (request.operation new now).pushedId?, id ∉ used)
    (reports : (request.operation new now).settlement? = some (report, apply)) :
    run.Kept attempts id (Function.update held n none) log
      (backend.step (request.operation new now)).2.records := by
  obtain ⟨former, asked, few, ⟨record, member, named⟩, tried⟩ := kept.inHand n holding found
  obtain ⟨before, known, alone, pursued, split, pursues, process⟩ := standing.of_held found
  obtain rfl := List.append_cancel_right (asked.symm.trans split)
  refine ⟨kept.sound, fun other inside own pending => ?_,
    forall_update_some (by rintro _ ⟨⟩) fun m other own held => ?_, ?_⟩
  · -- Only a report that puts the task off leaves its record pending.
    obtain ⟨previous, there, same, rfl | ⟨task, -, read, -, rfl⟩⟩ := orderly.reports reports inside
    · cases (process other there own).symm.trans pending
    · have attempt := (tried previous there (same.trans own)).of_read read
      rw [status?_settled] at pending
      refine triedAtMost_settled previous ?_
      cases request with
      | push | claim | reap | purge => cases reports
      | complete | fail =>
        cases reports
        cases pending
      | reschedule own startAt =>
        cases reports
        exact attempt_of_putOff asked pursues (caring holding rfl) attempt startAt
  · cases (alone m other).symm.trans held
  · obtain ⟨next, inside, same, change⟩ :=
      orderly.exists_changed fresh member (Or.inr (process record member named))
    cases request with
    | push | claim | reap | purge => cases reports
    | complete own =>
      obtain ⟨_, ⟨⟩, -, succeeded⟩ := pursuing
      exact Or.inl (over_of_succeeded asked pursues succeeded)
    | fail own why => exact Or.inl (over_of_mayGiveUp pursued asked pursues few (caring holding rfl))
    | reschedule own startAt =>
      exact Or.inr ⟨next, inside, same.trans named,
        isInFlight_of_putOff (process record member named) change⟩

end TransactionRun

end TaskAutomation
