import TaskAutomation.Proofs.Engine.TransactionRounds
import TaskAutomation.Proofs.Queue.Content
import TaskAutomation.Proofs.Queue.Orderly
import Mathlib.Logic.Function.Basic

/-!
This file follows one transaction through all its runs. What was asked for it up to now consists of
rounds, each of which starts with the hash that the one before it has left. Between two runs the
record of the task holds that hash, and during a run it is held by one dispatcher, since it is in
process and nothing takes it back. So no round begins with a hash that is out of date.
-/

namespace TaskAutomation

/-! ### All that is asked for a transaction -/

namespace TransactionRun

variable {run : TransactionRun} {log asked : List Exchange} {known : Option String}
  {verdict : Option Bool}

/-- What was asked for a transaction in several runs, the hash that is known after them, and the
verdict. -/
inductive Pursued (run : TransactionRun) : List Exchange → Option String → Option Bool → Prop
  | start : Pursued run [] run.txHash none
  | round {log asked : List Exchange} {before known : Option String} {verdict : Option Bool}
      (pursued : Pursued run log before none)
      (round : Round { run with txHash := before } asked known verdict) :
      Pursued run (log ++ asked) known verdict

/-- The hashes of a transaction: one that was given, and those under which it was sent. -/
def hashes (run : TransactionRun) (log : List Exchange) : List String :=
  run.txHash.toList ++ log.filterMap Exchange.sent?

theorem Round.hashes_eq (round : run.Round asked known verdict) :
    run.hashes asked = known.toList := by
  unfold hashes
  cases round with
  | silent => exact List.append_nil _
  | unsent unknown failure => rw [unknown]; rfl
  | sent unknown hash => rw [unknown]; rfl
  | unanswered hash given failure => rw [given]; rfl
  | answered hash given verdict => rw [given]; rfl

theorem Round.verdicts_eq (round : run.Round asked known verdict) :
    asked.filterMap Exchange.verdict? = verdict.toList := by
  cases round with
  | answered hash given verdict => cases verdict <;> rfl
  | _ => rfl

theorem Round.shape (round : run.Round asked known verdict) :
    asked = [] ∨ ∃ reply, asked = [⟨run.request, reply⟩] := by
  obtain ⟨network, automate, hash⟩ := run
  cases round with
  | silent => exact Or.inl rfl
  | unsent unknown failure =>
    cases unknown
    exact Or.inr ⟨_, rfl⟩
  | sent unknown hash =>
    cases unknown
    exact Or.inr ⟨_, rfl⟩
  | unanswered hash given failure =>
    cases given
    exact Or.inr ⟨_, rfl⟩
  | answered hash given verdict =>
    cases given
    exact Or.inr ⟨_, rfl⟩

namespace Pursued

theorem hashes_eq (pursued : run.Pursued log known verdict) : run.hashes log = known.toList := by
  induction pursued with
  | start => exact List.append_nil _
  | round pursued round inductionHypothesis =>
    rw [← round.hashes_eq]
    show run.txHash.toList ++ List.filterMap _ (_ ++ _) = _
    rw [List.filterMap_append, ← List.append_assoc]
    exact congrArg (· ++ _) inductionHypothesis

theorem verdicts_eq (pursued : run.Pursued log known verdict) :
    log.filterMap Exchange.verdict? = verdict.toList := by
  induction pursued with
  | start => rfl
  | round pursued round inductionHypothesis =>
    rw [List.filterMap_append, inductionHypothesis, round.verdicts_eq]
    rfl

/-- Whatever is asked is what has to be asked next, with the hash that is known by then. -/
theorem asks (pursued : run.Pursued log known verdict) {former : List Exchange}
    {exchange : Exchange} (inside : former ++ [exchange] <+: log) :
    exchange.request = request { run with txHash := (run.hashes former).head? } := by
  induction pursued with
  | start => simp at inside
  | round pursued round inductionHypothesis =>
    obtain rfl | ⟨reply, rfl⟩ := round.shape
    · rw [List.append_nil] at inside
      exact inductionHypothesis inside
    · obtain last | before := List.prefix_concat_iff.mp inside
      · obtain ⟨rfl, same⟩ := List.append_inj' last rfl
        obtain rfl := List.singleton_inj.mp same
        rw [pursued.hashes_eq, Option.head?_toList]
      · exact inductionHypothesis before

/-- A verdict is that of a receipt of the hash that is known. -/
theorem answered (pursued : run.Pursued log known verdict) {good : Bool}
    (answered : verdict = some good) :
    ∃ hash, known = some hash ∧ ⟨.receipt run.network hash, .ok (some good)⟩ ∈ log := by
  cases pursued with
  | start => cases answered
  | round pursued round =>
    cases round with
    | answered hash given =>
      rw [answered]
      exact ⟨hash, rfl, List.mem_append_right _ List.mem_cons_self⟩
    | _ => cases answered

end Pursued

end TransactionRun

/-! ### The record of a transaction -/

namespace StoredTask

variable {record : StoredTask} {run other : TransactionRun} {held task : Task}

/-- A record is that of a transaction. -/
structure Carries (record : StoredTask) (run : TransactionRun) : Prop where
  handler : record.handler? = some TaskKind.transactionRun.name
  params : ∀ params, record.params? = some params →
    params.Valid ∧ TransactionRun.decode params = .ok run

/-- The params of a transaction are still those of it when they are stored. -/
theorem params_of_stored {params : Json} (valid : params.Valid)
    (decoded : TransactionRun.decode params = .ok run)
    (stored : record.params? = some params ∨
      record.params? = (Json.parse params.compact).toOption) :
    ∀ read, record.params? = some read → read.Valid ∧ TransactionRun.decode read = .ok run := by
  intro read found
  obtain plain | encoded := stored
  · obtain rfl := Option.some.inj (plain.symm.trans found)
    exact ⟨valid, decoded⟩
  · rw [encoded] at found
    cases written : Json.parse params.compact with
    | error fault =>
      rw [written] at found
      cases found
    | ok back =>
      rw [written] at found
      obtain rfl := Option.some.inj found
      exact TransactionRun.decode_of_parse_compact valid decoded written

theorem carries_of_isOf (stored : record.IsOf held)
    (handler : held.handler = TaskKind.transactionRun.name) (valid : held.params.Valid)
    (decoded : TransactionRun.decode held.params = .ok run) : record.Carries run where
  handler := (handler?_of_isOf stored).trans (congrArg some handler)
  params := by
    refine params_of_stored valid decoded ?_
    obtain rfl | rfl := stored
    · exact Or.inl rfl
    · exact Or.inr rfl

theorem Carries.claimed (carries : record.Carries run) {topics : List String} {now : Instant}
    (due : record.isDue topics now = true) : (record.claimed now).Carries run where
  handler := by
    have change : Change (.claim topics now) record (record.claimed now) :=
      .claimed topics now record rfl due
    exact change.sameOrigin.handler?_eq.trans carries.handler
  params params found := carries.params params ((params?_claimed record now).symm.trans found)

/-- A record goes on to be that of a transaction after a report that brings no params, and it
becomes that of another one with its params. -/
theorem Carries.settled (carries : record.Carries run) {operation : QueueOperation}
    {report : RunReport} {apply : Task → Task}
    (reports : operation.settlement? = some (report, apply)) (named : record.id? = some report.id)
    (read : record.read = .ok task) (process : task.status = .process)
    (brings : report.params = none ∧ other = run ∨ report.params = some other.encode) :
    (record.settled (apply (task.absorb report))).Carries other where
  handler := by
    have change : Change operation record (record.settled (apply (task.absorb report))) :=
      .settled report apply record task reports named read process
    exact change.sameOrigin.handler?_eq.trans carries.handler
  params := by
    obtain ⟨valid, decoded⟩ : (apply (task.absorb report)).params.Valid ∧
        TransactionRun.decode (apply (task.absorb report)).params = .ok other := by
      rw [params_settlement reports]
      obtain ⟨none, rfl⟩ | new := brings
      · rw [none]
        exact carries.params task.params (read_content read).2.1
      · rw [new]
        exact ⟨other.valid_encode, other.decode_encode⟩
    exact params_of_stored valid decoded (record.params?_settled _)

/-- A record is that of a transaction that nobody has in hand: if it is pending, it carries the
transaction, and there was no verdict, and if it is done, the verdict was good. -/
structure Rests (record : StoredTask) (run : TransactionRun) (verdict : Option Bool) : Prop where
  pending : record.status? = some .pending → verdict = none ∧ record.Carries run
  done : record.status? = some .done → verdict = some true

theorem rests_of_status {status : TaskStatus} (state : record.status? = some status)
    (unpending : status ≠ .pending) (undone : status ≠ .done) (run : TransactionRun)
    (verdict : Option Bool) : record.Rests run verdict where
  pending same := absurd (Option.some.inj (state.symm.trans same)) unpending
  done same := absurd (Option.some.inj (state.symm.trans same)) undone

theorem rests_of_process (state : record.status? = some .process) (run : TransactionRun)
    (verdict : Option Bool) : record.Rests run verdict :=
  rests_of_status state nofun nofun run verdict

end StoredTask

/-! ### Records that are left alone -/

namespace StoredTask

variable {former record : StoredTask} {operation : QueueOperation} {id : TaskId}

/-- A record was left as it is, or claimed. -/
def Aside (former record : StoredTask) : Prop :=
  record = former ∨ former.status? = some .pending ∧ ∃ now, record = former.claimed now

theorem Aside.isInFlight (aside : former.Aside record) (flies : former.IsInFlight) :
    record.IsInFlight := by
  obtain rfl | ⟨-, now, rfl⟩ := aside
  · exact flies
  · exact Or.inr (status?_claimed former now)

theorem Aside.eq_of_pending (aside : former.Aside record) (pending : record.status? = some .pending) :
    record = former := by
  obtain same | ⟨-, now, rfl⟩ := aside
  · exact same
  · cases (status?_claimed former now).symm.trans pending

theorem Aside.eq_of_process (aside : former.Aside record) (process : former.status? = some .process) :
    record = former := by
  obtain same | ⟨pending, -⟩ := aside
  · exact same
  · cases process.symm.trans pending

/-- An operation that makes no report on a task and takes none back leaves its record alone. -/
theorem Change.aside (change : Change operation former record)
    (silent : ∀ report apply, operation.settlement? = some (report, apply) → report.id ≠ id)
    (keeps : ∀ now cutoff, operation ≠ .reap now cutoff) (named : former.id? = some id) :
    former.Aside record := by
  cases change with
  | kept => exact Or.inl rfl
  | claimed topics now _ claims due => exact Or.inr ⟨status?_of_isDue due, now, rfl⟩
  | settled report apply _ task reports other read held =>
    exact absurd (Option.some.inj (other.symm.trans named)) (silent report apply reports)
  | reaped now cutoff _ reaps stale => exact absurd reaps (keeps now cutoff)

end StoredTask

namespace Backend.Orderly

open StoredTask

variable {backend : Backend} {used : List TaskId} {operation : QueueOperation} {id : TaskId}
  (orderly : backend.Orderly used) (fresh : ∀ id ∈ operation.pushedId?, id ∉ used)

include orderly fresh

/-- Every record of a task that is not pushed just now was changed. -/
theorem exists_change (unpushed : operation.pushedId? ≠ some id) {record : StoredTask}
    (member : record ∈ (backend.step operation).2.records) (named : record.id? = some id) :
    ∃ former ∈ backend.records, former.id? = some id ∧ Change operation former record := by
  obtain ⟨former, before, change⟩ | ⟨other, pushed, same, -⟩ :=
    (orderly.effect fresh).backward orderly.distinct member
  · exact ⟨former, before, change.id?_eq.symm.trans named, change⟩
  · exact absurd (pushed.trans (same.symm.trans named)) unpushed

/-- A record in flight is still there after any operation. -/
theorem exists_changed {former : StoredTask} (member : former ∈ backend.records)
    (flies : former.IsInFlight) :
    ∃ record ∈ (backend.step operation).2.records,
      record.id? = former.id? ∧ Change operation former record := by
  obtain ⟨record, inside, change⟩ | ⟨before, purges, expired⟩ :=
    (orderly.effect fresh).forward orderly.distinct member
  · exact ⟨record, inside, change.id?_eq, change⟩
  · exact absurd flies (not_isInFlight_of_isExpired expired)

/-- An operation that makes no report on a task does nothing to its record but claim it. -/
theorem aside
    (silent : ∀ report apply, operation.settlement? = some (report, apply) → report.id ≠ id)
    (keeps : ∀ now cutoff, operation ≠ .reap now cutoff) (unpushed : operation.pushedId? ≠ some id)
    {record : StoredTask} (member : record ∈ (backend.step operation).2.records)
    (named : record.id? = some id) :
    ∃ former ∈ backend.records, former.id? = some id ∧ (record = former ∨
      former.status? = some .pending ∧ record.status? = some .process) := by
  obtain ⟨former, before, own, change⟩ := orderly.exists_change fresh unpushed member named
  refine ⟨former, before, own, (change.aside silent keeps own).imp_right ?_⟩
  rintro ⟨pending, now, rfl⟩
  exact ⟨pending, status?_claimed former now⟩

omit fresh

/-- A report leaves a record as it was or settles it. -/
theorem reports {report : RunReport} {apply : Task → Task}
    (reports : operation.settlement? = some (report, apply)) {record : StoredTask}
    (member : record ∈ (backend.step operation).2.records) :
    ∃ former ∈ backend.records, former.id? = record.id? ∧ (record = former ∨
      ∃ task, former.id? = some report.id ∧ former.read = .ok task ∧ task.status = .process ∧
        record = former.settled (apply (task.absorb report))) := by
  have unpushed : operation.pushedId? = none := by
    cases operation <;> cases reports <;> rfl
  have fresh : ∀ id ∈ operation.pushedId?, id ∉ used := by
    rw [unpushed]
    exact nofun
  obtain ⟨former, before, change⟩ :=
    (orderly.effect fresh).exists_change orderly.distinct unpushed member
  refine ⟨former, before, change.id?_eq.symm, ?_⟩
  cases change with
  | kept => exact Or.inl rfl
  | claimed topics now _ claims =>
    rw [claims] at reports
    cases reports
  | reaped now cutoff _ reaps =>
    rw [reaps] at reports
    cases reports
  | settled _ _ _ task own named read held =>
    cases own.symm.trans reports
    exact Or.inr ⟨task, named, read, held, rfl⟩

end Backend.Orderly

/-! ### Where a transaction stands -/

/-- What holds of everything in its place holds when one place has got something else, or nothing. -/
theorem forall_update_some {α : Type} {places : Nat → Option α} {n : Nat} {own : Option α}
    {property : α → Prop} (here : ∀ held, own = some held → property held)
    (others : ∀ m, m ≠ n → ∀ held, places m = some held → property held) :
    ∀ m held, Function.update places n own m = some held → property held :=
  (Function.forall_update_iff places fun _ own => ∀ held, own = some held → property held).mpr
    ⟨here, others⟩

namespace TransactionRun

open StoredTask

/-- Where the task of a transaction stands: what each dispatcher has in hand of it, what was asked
for it up to now, and its records. -/
inductive Standing (run : TransactionRun) (id : TaskId) (held : Nat → Option Holding)
    (log : List Exchange) (records : List StoredTask) : Prop
  | resting (known : Option String) (verdict : Option Bool) (free : ∀ n, held n = none)
      (pursued : run.Pursued log known verdict)
      (rests : ∀ record ∈ records, record.id? = some id →
        record.Rests { run with txHash := known } verdict)
  | inHand (n : Nat) (holding : Holding) (former : List Exchange) (known : Option String)
      (found : held n = some holding) (alone : ∀ m, m ≠ n → held m = none)
      (pursued : run.Pursued former known none) (asked : log = former ++ holding.asked)
      (round : ∃ hash verdict, Round { run with txHash := known } holding.asked hash verdict)
      (pursues : holding.Pursues { run with txHash := known })
      (carries : ∀ record ∈ records, record.id? = some id →
        record.status? = some .process ∧ record.Carries { run with txHash := known })

namespace Standing

variable {run : TransactionRun} {id : TaskId} {held : Nat → Option Holding} {log : List Exchange}
  {records changed : List StoredTask} {n : Nat} {holding : Holding}

/-- Nothing changes for a transaction as long as its record does not, or is claimed. -/
theorem aside (standing : run.Standing id held log records)
    (change : ∀ record ∈ changed, record.id? = some id → ∃ former ∈ records,
      former.id? = some id ∧ (record = former ∨
        former.status? = some .pending ∧ record.status? = some .process)) :
    run.Standing id held log changed := by
  cases standing with
  | resting known verdict free pursued rests =>
    refine .resting known verdict free pursued fun record member named => ?_
    obtain ⟨former, before, same, rfl | ⟨-, process⟩⟩ := change record member named
    · exact rests record before same
    · exact rests_of_process process _ _
  | inHand n holding former known found alone pursued asked round pursues carries =>
    refine .inHand n holding former known found alone pursued asked round pursues
      fun record member named => ?_
    obtain ⟨former, before, same, rfl | ⟨pending, -⟩⟩ := change record member named
    · exact carries record before same
    · cases pending.symm.trans (carries former before same).1

/-- A dispatcher goes on with what it has in hand. -/
theorem keeps (standing : run.Standing id held log records) {own : Option Holding}
    (same : held n = own) : run.Standing id (Function.update held n own) log records := by
  rw [← same, Function.update_eq_self]
  exact standing

/-- In any case some rounds have been made, and a record rests after them. -/
theorem rests (standing : run.Standing id held log records) :
    ∃ known verdict, run.Pursued log known verdict ∧ ∀ record ∈ records, record.id? = some id →
      record.Rests { run with txHash := known } verdict := by
  cases standing with
  | resting known verdict free pursued rests => exact ⟨known, verdict, pursued, rests⟩
  | inHand n holding former known found alone pursued asked round pursues carries =>
    obtain ⟨hash, verdict, round⟩ := round
    exact ⟨hash, verdict, asked ▸ pursued.round round, fun record member named =>
      rests_of_process (carries record member named).1 _ _⟩

/-- A dispatcher that asks for something has asked for what comes next. -/
theorem asks (standing : run.Standing id held log records) (found : held n = some holding)
    {request : OutsideRequest} (mayAsk : holding.MayAsk request)
    (reply : Except Failure request.Result) :
    run.Standing id
      (Function.update held n
        (some { holding with asked := holding.asked ++ [⟨request, reply⟩] }))
      (log ++ [⟨request, reply⟩]) records := by
  cases standing with
  | resting _ _ free => cases found.symm.trans (free n)
  | inHand k own former known found' alone pursued asked round pursues carries =>
    by_cases same : n = k
    · subst same
      obtain rfl := Option.some.inj (found.symm.trans found')
      obtain ⟨unasked, rfl⟩ := mayAsk _ pursues
      refine .inHand n _ former known (Function.update_self ..) (fun m other => ?_) pursued ?_ ?_
        ⟨pursues.handler, pursues.params⟩ carries
      · rw [Function.update_of_ne other, alone m other]
      · rw [asked, List.append_assoc]
      · rw [unasked]
        exact exists_round _ reply
    · cases found.symm.trans (alone n same)

/-- A dispatcher claims the task of a transaction, which nobody has had in hand, since it was
pending. -/
theorem claimed (standing : run.Standing id held log records) (distinct : Distinct records)
    {topics : List String} {now : Instant} {record : StoredTask} {task : Task}
    (member : record ∈ records) (named : record.id? = some id)
    (due : record.isDue topics now = true) (read : (record.claimed now).read = .ok task) (n : Nat) :
    run.Standing id (Function.update held n (some ⟨task, []⟩)) log
      (replace records id (record.claimed now)) := by
  cases standing with
  | inHand _ _ _ _ _ _ _ _ _ _ carries =>
    cases (status?_of_isDue due).symm.trans (carries record member named).1
  | resting known verdict free pursued rests =>
    obtain ⟨rfl, carries⟩ := (rests record member named).pending (status?_of_isDue due)
    have claimed := carries.claimed due
    obtain ⟨handler, params, -⟩ := read_content read
    refine .inHand n ⟨task, []⟩ log known (Function.update_self ..) (fun m other => ?_) pursued
      (List.append_nil log).symm ⟨_, _, .silent⟩
      ⟨Option.some.inj (handler.symm.trans claimed.handler), (claimed.params _ params).2⟩
      fun other inside own => ?_
    · rw [Function.update_of_ne other]
      exact free m
    · rw [distinct.eq_of_mem_replace member named inside own]
      exact ⟨status?_claimed record now, claimed⟩

/-- A dispatcher gives up a task that it has in hand. The record is left as it rests after some
round of the transaction. -/
theorem settled (standing : run.Standing id held log records) (found : held n = some holding)
    (settles : ∀ current, holding.Pursues current →
      (∃ hash verdict, current.Round holding.asked hash verdict) →
      (∀ record ∈ records, record.id? = some id →
        record.status? = some .process ∧ record.Carries current) →
      ∃ hash verdict, current.Round holding.asked hash verdict ∧
        ∀ record ∈ changed, record.id? = some id →
          record.Rests { current with txHash := hash } verdict) :
    run.Standing id (Function.update held n none) log changed := by
  cases standing with
  | resting _ _ free => cases found.symm.trans (free n)
  | inHand k own former known found' alone pursued asked round pursues carries =>
    by_cases same : n = k
    · subst same
      obtain rfl := Option.some.inj (found.symm.trans found')
      obtain ⟨hash, verdict, round, rests⟩ := settles _ pursues round carries
      refine .resting hash verdict (fun m => ?_) (asked ▸ pursued.round round) rests
      by_cases other : m = n
      · rw [other, Function.update_self]
      · rw [Function.update_of_ne other, alone m other]
    · cases found.symm.trans (alone n same)

/-- A dispatcher stops in the middle of a run. If it has a task in hand, the record is left in
process. -/
theorem stopped (standing : run.Standing id held log records) (n : Nat) :
    run.Standing id (Function.update held n none) log records := by
  cases found : held n with
  | none => exact standing.keeps found
  | some holding =>
    refine standing.settled found fun current _ ⟨hash, verdict, round⟩ carries =>
      ⟨hash, verdict, round, fun record member named => ?_⟩
    exact rests_of_process (carries record member named).1 _ _

end Standing

/-- A report on a transaction that keeps to the protocol leaves its record as it may rest. -/
theorem Standing.reported {run : TransactionRun} {id new : TaskId} {held : Nat → Option Holding}
    {log : List Exchange} {n : Nat} {holding : Holding} {backend : Backend} {used : List TaskId}
    {request : TaskRequest} {now : Instant} {report : RunReport} {apply : Task → Task}
    (standing : run.Standing id held log backend.records) (orderly : backend.Orderly used)
    (found : held n = some holding) (allowed : pursuit.allows (some holding) (.tasks request))
    (reports : (request.operation new now).settlement? = some (report, apply)) :
    run.Standing id (Function.update held n none) log
      (backend.step (request.operation new now)).2.records := by
  refine standing.settled found fun current pursues round carries => ?_
  -- A record was not changed and is in process, or it was settled by the report.
  have rests {hash : Option String} {verdict : Option Bool}
      (settled : ∀ (former : StoredTask) (task : Task), former.Carries current →
        former.id? = some report.id → former.read = .ok task → task.status = .process →
        (former.settled (apply (task.absorb report))).Rests { current with txHash := hash }
          verdict) :
      ∀ record ∈ (backend.step (request.operation new now)).2.records, record.id? = some id →
        record.Rests { current with txHash := hash } verdict := by
    intro record member named
    obtain ⟨former, before, same, change⟩ := orderly.reports reports member
    obtain ⟨process, carried⟩ := carries former before (same.trans named)
    obtain rfl | ⟨task, own, read, held, rfl⟩ := change
    · exact rests_of_process process _ _
    · exact settled former task carried own read held
  cases request with
  | push | claim | reap | purge => cases reports
  | complete own =>
    cases reports
    obtain ⟨_, ⟨⟩, -, succeeded⟩ := allowed
    obtain ⟨hash, round⟩ := succeeded current pursues
    refine ⟨hash, some true, round, rests fun former task _ _ _ _ =>
      ⟨fun pending => ?_, fun _ => rfl⟩⟩
    cases (status?_settled former _).symm.trans pending
  | fail own why =>
    cases reports
    obtain ⟨hash, verdict, round⟩ := round
    refine ⟨hash, verdict, round, rests fun former task _ _ _ _ => ?_⟩
    have error : (former.settled ((task.absorb report).markError why)).status? = some .error :=
      status?_settled former _
    exact rests_of_status error nofun nofun _ _
  | reschedule own startAt =>
    cases reports
    obtain ⟨_, ⟨⟩, -, isOpen⟩ := allowed
    obtain ⟨hash, round, brings⟩ := isOpen current pursues
    have writes : (QueueOperation.reschedule report startAt).settlement? =
        some (report, fun task => task.reschedule startAt report.rearm) := rfl
    refine ⟨hash, none, round, rests fun former task carried named read process =>
      ⟨fun _ => ⟨rfl, ?_⟩, fun done => ?_⟩⟩
    · refine carried.settled writes named read process (brings.imp_left ?_)
      rintro ⟨unchanged, rfl⟩
      exact ⟨unchanged, rfl⟩
    · cases (status?_settled former _).symm.trans done

end TransactionRun

end TaskAutomation
