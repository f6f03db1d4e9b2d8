import TaskAutomation.Proofs.Queue.Readable

/-!
This file proves that claims are exclusive and that each of them is settled once. For a single task
an account is kept of the claims that have been handed out, of the reports that have been accepted
and of the times it has been taken back from a worker. One operation moves the task into the state
in process or out of it exactly when it adds to the one or the other side of the account, so along
any history, in whatever order the workers make their calls, the two sides differ by whether the
task is in process.
-/

namespace TaskAutomation

namespace StoredTask

/-- A task is in process. -/
def InProcess (records : List StoredTask) (id : TaskId) : Prop :=
  ∃ record ∈ records, record.id? = some id ∧ record.status? = some .process

instance (records : List StoredTask) (id : TaskId) : Decidable (InProcess records id) := by
  unfold InProcess
  infer_instance

/-- The number of claims on a task that an answer hands out. -/
def claimCount (id : TaskId) : QueueReply → Nat
  | .ok (.claimed (some held)) => if held.id = id then 1 else 0
  | _ => 0

/-- The number of reports on a task that an answer accepts. -/
def reportCount (id : TaskId) : QueueReply → Nat
  | .ok (.settled held) => if held.id = id then 1 else 0
  | _ => 0

/-- The number of times that an operation takes a task back from its worker: it is in process before
a reap and no longer behind it. -/
def reapCount (id : TaskId) (before after : List StoredTask) : QueueOperation → Nat
  | .reap _ _ => if InProcess before id ∧ ¬ InProcess after id then 1 else 0
  | _ => 0

/-- The number of claims on a task that are open. -/
def openCount (id : TaskId) (records : List StoredTask) : Nat :=
  if InProcess records id then 1 else 0

variable {records newRecords : List StoredTask} {operation : QueueOperation} {reply : QueueReply}
  {record new : StoredTask} {id other : TaskId}

/-! ### Being in process -/

theorem Distinct.inProcess_iff (distinct : Distinct records) (member : record ∈ records)
    (named : record.id? = some id) :
    InProcess records id ↔ record.status? = some .process := distinct.has_iff member named

theorem openCount_eq_zero (none : ¬ InProcess records id) : openCount id records = 0 := if_neg none

theorem openCount_eq_one (process : InProcess records id) : openCount id records = 1 :=
  if_pos process

theorem openCount_congr (same : InProcess newRecords id ↔ InProcess records id) :
    openCount id newRecords = openCount id records := by
  simp only [openCount, same]

/-! ### The account of one operation -/

/-- What is open before an operation and what it opens is what it closes and what stays open. -/
def Accounted (id : TaskId) (records : List StoredTask) (operation : QueueOperation)
    (reply : QueueReply) (newRecords : List StoredTask) : Prop :=
  openCount id records + claimCount id reply =
    reportCount id reply + reapCount id records newRecords operation + openCount id newRecords

theorem Accounted.of_same (claims : claimCount id reply = 0) (reports : reportCount id reply = 0)
    (reaps : reapCount id records newRecords operation = 0)
    (same : InProcess newRecords id ↔ InProcess records id) :
    Accounted id records operation reply newRecords := by
  rw [Accounted, claims, reports, reaps, openCount_congr same]
  omega

theorem reapCount_of_settlement {report : RunReport} {apply : Task → Task}
    (reports : operation.settlement? = some (report, apply)) :
    reapCount id records newRecords operation = 0 := by
  cases operation <;> first | rfl | cases reports

/-- A claim opens the account of its task. -/
theorem accounted_claimed (distinct : Distinct records) (member : record ∈ records)
    (named : record.id? = some other) {topics : List String} {now : Instant}
    (due : record.isDue topics now = true) {task : Task}
    (read : (record.claimed now).read = .ok task) :
    Accounted id records (.claim topics now) (.ok (.claimed (some task)))
      (replace records other (record.claimed now)) := by
  have renamed := (id?_claimed record now).trans named
  have taskId : task.id = other := Option.some.inj ((read_eq_ok read).1.symm.trans renamed)
  by_cases same : other = id
  · rw [same] at named renamed taskId ⊢
    have before : ¬ InProcess records id := by
      rw [distinct.inProcess_iff member named, status?_of_isDue due]
      exact nofun
    have after : InProcess (replace records id (record.claimed now)) id :=
      (has_replace_self distinct member named renamed).mpr (status?_claimed record now)
    rw [Accounted, openCount_eq_zero before, openCount_eq_one after]
    show 0 + (if task.id = id then 1 else 0) = 0 + 0 + 1
    rw [if_pos taskId]
  · refine .of_same (if_neg ?_) rfl rfl
      (has_replace_other distinct member named renamed same)
    rw [taskId]
    exact same

/-- An accepted report closes the account of its task. -/
theorem accounted_settled (distinct : Distinct records) {report : RunReport} {apply : Task → Task}
    (reports : operation.settlement? = some (report, apply)) (member : record ∈ records)
    (named : record.id? = some report.id) {task : Task} (read : record.read = .ok task)
    (process : task.status = .process) :
    Accounted id records operation (.ok (.settled (apply (task.absorb report))))
      (replace records report.id (record.settled (apply (task.absorb report)))) := by
  have origin := QueueOperation.sameOrigin_settlement reports task
  have renamed := (id?_settled read origin.id).trans named
  have taskId : (apply (task.absorb report)).id = report.id :=
    origin.id.trans (Option.some.inj ((read_eq_ok read).1.symm.trans named))
  have reaps : reapCount id records
      (replace records report.id (record.settled (apply (task.absorb report)))) operation = 0 :=
    reapCount_of_settlement reports
  by_cases same : report.id = id
  · rw [same] at named renamed taskId reaps ⊢
    have before : InProcess records id := by
      rw [distinct.inProcess_iff member named, (read_eq_ok read).2.1, process]
    have after : ¬ InProcess (replace records id
        (record.settled (apply (task.absorb report)))) id := by
      intro stays
      have state := (has_replace_self distinct member named renamed).mp stays
      rw [status?_settled] at state
      exact QueueOperation.status_settlement_ne reports task (Option.some.inj state)
    rw [Accounted, openCount_eq_one before, openCount_eq_zero after, reaps]
    show 1 + 0 = (if (apply (task.absorb report)).id = id then 1 else 0) + 0 + 0
    rw [if_pos taskId]
  · refine .of_same rfl (if_neg ?_) reaps
      (has_replace_other distinct member named renamed same)
    rw [taskId]
    exact same

/-- A reap that puts no task into process closes the accounts of those that it takes out. -/
theorem accounted_reaped (now cutoff : Instant) (rows : Nat)
    (back : InProcess newRecords id → InProcess records id) :
    Accounted id records (.reap now cutoff) (.ok (.changed rows)) newRecords := by
  rw [Accounted]
  show openCount id records + 0 =
    0 + (if InProcess records id ∧ ¬ InProcess newRecords id then 1 else 0) +
      openCount id newRecords
  by_cases after : InProcess newRecords id
  · rw [openCount_eq_one after, openCount_eq_one (back after), if_neg fun both => both.2 after]
  · by_cases before : InProcess records id
    · rw [openCount_eq_one before, openCount_eq_zero after, if_pos ⟨before, after⟩]
    · rw [openCount_eq_zero before, openCount_eq_zero after, if_neg fun both => before both.1]

/-- Every operation on records that read keeps the account of every task in balance. -/
theorem Effect.accounted (effect : Effect records operation reply newRecords)
    (distinct : Distinct records)
    (readable : ∀ record ∈ newRecords, ∃ task, record.read = .ok task) (id : TaskId) :
    Accounted id records operation reply newRecords := by
  cases effect with
  | queued own now handler params options record free stored =>
    refine .of_same rfl rfl rfl (has_append ?_)
    rw [status?_of_isOf stored]
    exact nofun
  | collided own now handler params options sign holder existing record signed member holds named
      stored =>
    refine .of_same rfl rfl rfl (has_append ?_)
    rw [status?_of_isOf stored]
    exact nofun
  | claimed topics now own record member named due =>
    obtain ⟨task, read⟩ := readable (record.claimed now)
      (distinct.mem_replace_self member named _)
    rw [read]
    exact accounted_claimed distinct member named due read
  | settled operation report apply record task reports member named read process =>
    exact accounted_settled distinct reports member named read process
  | reaped now cutoff =>
    refine accounted_reaped now cutoff _ (has_of_reaped fun record => ?_)
    rw [status?_reaped]
    exact nofun
  | purged before rows reported => exact .of_same rfl rfl rfl (has_purged fun _ => Or.inr)
  | found own record member named =>
    refine .of_same ?_ ?_ rfl Iff.rfl <;> cases record.read <;> rfl
  | absent _ report apply reports =>
    exact .of_same rfl rfl (reapCount_of_settlement reports) Iff.rfl
  | unreadable _ report apply record fault reports =>
    exact .of_same rfl rfl (reapCount_of_settlement reports) Iff.rfl
  | unheld _ report apply record task reports =>
    exact .of_same rfl rfl (reapCount_of_settlement reports) Iff.rfl
  | unclaimed | notFound | counted => exact .of_same rfl rfl rfl Iff.rfl

/-- A report on a task in process is accepted. -/
theorem Effect.accepted (effect : Effect records operation reply newRecords)
    (distinct : Distinct records)
    (readable : ∀ record ∈ records, ∃ task, record.read = .ok task) {report : RunReport}
    {apply : Task → Task} (reports : operation.settlement? = some (report, apply))
    (process : InProcess records report.id) : ∃ task, reply = .ok (.settled task) := by
  obtain ⟨record, member, named, state⟩ := process
  obtain ⟨-, -, task, -, -, -, accepted, -⟩ | ⟨fault, -, -, refusal⟩ :=
    effect.settlement_inv reports
  · exact ⟨_, accepted⟩
  · cases refusal with
    | absent missing => exact absurd named (missing record member)
    | unreadable other inside same _ read =>
      obtain ⟨task, reads⟩ := readable other inside
      cases read.symm.trans reads
    | unheld other inside same task read unheld =>
      obtain rfl := distinct.eq_of_id?_eq member inside (named.trans same.symm)
      exact absurd (Option.some.inj ((read_eq_ok read).2.1.symm.trans state)) unheld

theorem openCount_le_one (id : TaskId) (records : List StoredTask) : openCount id records ≤ 1 := by
  unfold openCount
  split <;> omega

theorem inProcess_of_openCount (present : openCount id records ≠ 0) : InProcess records id := by
  by_contra none
  exact present (openCount_eq_zero none)

theorem claimCount_of_reportCount (reported : reportCount id reply ≠ 0) :
    claimCount id reply = 0 := by
  unfold reportCount at reported
  split at reported
  · rfl
  · exact absurd rfl reported

theorem reapCount_of_claim (topics : List String) (now : Instant) :
    reapCount id records newRecords (.claim topics now) = 0 := rfl

end StoredTask

namespace Backend

open QueueOperation StoredTask

/-- The claims on a task that the answers to a history hand out. -/
def claims (backend : Backend) (id : TaskId) (history : List QueueOperation) : Nat :=
  ((backend.run history).1.map (claimCount id)).sum

/-- The reports on a task that the answers to a history accept. -/
def reports (backend : Backend) (id : TaskId) (history : List QueueOperation) : Nat :=
  ((backend.run history).1.map (reportCount id)).sum

/-- The times that a history takes a task back from its worker. -/
def reaps (backend : Backend) (id : TaskId) : List QueueOperation → Nat
  | [] => 0
  | operation :: rest =>
    reapCount id backend.records (backend.step operation).2.records operation +
      (backend.step operation).2.reaps id rest

variable {backend : Backend} {operation : QueueOperation}
  {history past middle future rest : List QueueOperation}

theorem claims_cons (backend : Backend) (id : TaskId) (operation : QueueOperation)
    (rest : List QueueOperation) :
    backend.claims id (operation :: rest) =
      claimCount id (backend.step operation).1 + (backend.step operation).2.claims id rest := rfl

theorem reports_cons (backend : Backend) (id : TaskId) (operation : QueueOperation)
    (rest : List QueueOperation) :
    backend.reports id (operation :: rest) =
      reportCount id (backend.step operation).1 + (backend.step operation).2.reports id rest := rfl

/-- Without a reap no task is taken back. -/
theorem reaps_eq_zero (id : TaskId) (unreaped : ∀ now cutoff, .reap now cutoff ∉ history) :
    backend.reaps id history = 0 := by
  induction history generalizing backend with
  | nil => rfl
  | cons operation rest inductionHypothesis =>
    have none : reapCount id backend.records (backend.step operation).2.records operation = 0 := by
      cases operation with
      | reap now cutoff => exact absurd List.mem_cons_self (unreaped now cutoff)
      | _ => rfl
    rw [reaps, none, inductionHypothesis fun now cutoff member =>
      unreaped now cutoff (List.mem_cons_of_mem operation member)]

/-- A sound queue that can be read for all that is still to come. -/
structure Legible (backend : Backend) (future : List QueueOperation) : Prop
    extends backend.Sound future where
  readable : backend.Readable future

namespace Legible

theorem step (legible : backend.Legible (operation :: rest)) :
    (backend.step operation).2.Legible rest :=
  ⟨legible.toSound.step, legible.readable.step⟩

theorem run (legible : backend.Legible (past ++ future)) :
    (backend.run past).2.Legible future := by
  induction past generalizing backend with
  | nil => exact legible
  | cons operation rest inductionHypothesis => exact inductionHypothesis legible.step

theorem accounted (legible : backend.Legible (operation :: rest)) (id : TaskId) :
    Accounted id backend.records operation (backend.step operation).1
      (backend.step operation).2.records :=
  legible.effect.accounted legible.distinct legible.step.readable.now id

/-- The account of a task over a history. -/
theorem balance (legible : backend.Legible (past ++ future)) (id : TaskId) :
    openCount id backend.records + backend.claims id past =
      backend.reports id past + backend.reaps id past +
        openCount id (backend.run past).2.records := by
  induction past generalizing backend with
  | nil =>
    show openCount id backend.records + 0 = 0 + 0 + openCount id backend.records
    omega
  | cons operation rest inductionHypothesis =>
    have one : Accounted id backend.records operation _ _ := legible.accounted id
    have later := inductionHypothesis legible.step
    rw [Accounted] at one
    rw [claims_cons, reports_cons, reaps]
    show _ = _ + openCount id ((backend.step operation).2.run rest).2.records
    omega

theorem claim_opens {topics : List String} {now : Instant}
    (legible : backend.Legible (.claim topics now :: rest)) {held : Task}
    (claimed : (backend.step (.claim topics now)).1 = .ok (.claimed (some held))) :
    openCount held.id backend.records = 0 ∧
      openCount held.id (backend.step (.claim topics now)).2.records = 1 := by
  have balanced := legible.accounted held.id
  have claims : claimCount held.id (.ok (.claimed (some held))) = 1 := if_pos rfl
  have reports : reportCount held.id (.ok (.claimed (some held))) = 0 := rfl
  have most := openCount_le_one held.id (backend.step (.claim topics now)).2.records
  rw [Accounted, claimed, claims, reports, reapCount_of_claim] at balanced
  omega

theorem report_closes {id : TaskId} (legible : backend.Legible (operation :: rest))
    (reported : reportCount id (backend.step operation).1 = 1) :
    openCount id backend.records = 1 ∧
      openCount id (backend.step operation).2.records = 0 := by
  have balanced := legible.accounted id
  have claims := @claimCount_of_reportCount _ id (by rw [reported]; exact Nat.one_ne_zero)
  have most := openCount_le_one id backend.records
  rw [Accounted, claims, reported] at balanced
  omega

end Legible

/-! ### Whole histories -/

/-- What holds of claims from a state on. -/
structure ClaimLaws (backend : Backend) (future : List QueueOperation) : Prop where
  /-- No claim is handed out on a task that is in process. -/
  exclusive : ∀ topics now rest held, future = .claim topics now :: rest →
    (backend.step (.claim topics now)).1 = .ok (.claimed (some held)) →
      ¬ InProcess backend.records held.id
  /-- Between two accepted reports on a task another claim on it is handed out. -/
  once : ∀ id first middle second rest, future = first :: (middle ++ second :: rest) →
    reportCount id (backend.step first).1 = 1 →
    reportCount id (((backend.step first).2.run middle).2.step second).1 = 1 →
      0 < (backend.step first).2.claims id middle
  /-- A report on a claim that is open is accepted, unless there was a reap. -/
  accepted : ∀ topics now middle operation rest held report apply,
    future = .claim topics now :: (middle ++ operation :: rest) →
    (backend.step (.claim topics now)).1 = .ok (.claimed (some held)) →
    (∀ now cutoff, .reap now cutoff ∉ middle) →
    (backend.step (.claim topics now)).2.reports held.id middle = 0 →
    operation.settlement? = some (report, apply) → report.id = held.id →
      ∃ task, (((backend.step (.claim topics now)).2.run middle).2.step operation).1 =
        .ok (.settled task)

theorem Legible.claimLaws (legible : backend.Legible future) : backend.ClaimLaws future := by
  refine ⟨?_, ?_, ?_⟩
  · rintro topics now rest held rfl claimed process
    have none := (legible.claim_opens claimed).1
    rw [openCount_eq_one process] at none
    cases none
  · rintro id first middle second rest rfl former latter
    have closed := (legible.report_closes former).2
    have reopened := (legible.step.run.report_closes latter).1
    have between := legible.step.balance id
    omega
  · rintro topics now middle operation rest held report apply rfl claimed unreaped unreported
      reports same
    have opened := (legible.claim_opens claimed).2
    have between := legible.step.balance held.id
    rw [opened, unreported, reaps_eq_zero held.id unreaped] at between
    have reached := legible.step.run
    refine reached.effect.accepted reached.distinct reached.readable.now reports ?_
    rw [same]
    exact inProcess_of_openCount (by omega)

/-- Along every history that pushes no identifier twice, the claims on each task are the accepted
reports on it, the times it was taken back and the one that is open while it is in process. A table
has to be kept within what a row can hold. -/
theorem claims_settled (storage : Storage) (past future : List QueueOperation)
    (unique : (pushedIds (past ++ future)).Nodup)
    (within : storage = .table → ∀ operation ∈ past ++ future, operation.Within .readable)
    (fit : storage = .table → (empty storage).AttemptsFit (past ++ future)) :
    (∀ id, (empty storage).claims id past =
      (empty storage).reports id past + (empty storage).reaps id past +
        if InProcess ((empty storage).run past).2.records id then 1 else 0) ∧
      ((empty storage).run past).2.ClaimLaws future := by
  have legible : (empty storage).Legible (past ++ future) :=
    ⟨.empty storage unique, readable_empty unique within fit⟩
  refine ⟨fun id => ?_, legible.run.claimLaws⟩
  have balance := legible.balance id
  have none : openCount id (empty storage).records = 0 := openCount_eq_zero fun process => by
    obtain ⟨record, member, -⟩ := process
    exact not_mem_records_empty storage record member
  rw [none, Nat.zero_add] at balance
  exact balance

theorem claims_settled_sample :
    (pushedIds (sampleHistory ++ sampleHistory.drop 2)).Nodup ∧
      (∀ operation ∈ sampleHistory ++ sampleHistory.drop 2, operation.Within .readable) ∧
      (empty .table).AttemptsFit (sampleHistory ++ sampleHistory.drop 2) ∧
      ((empty .table).run sampleHistory).2.ClaimLaws (sampleHistory.drop 2) := by
  have unique : (pushedIds (sampleHistory ++ sampleHistory.drop 2)).Nodup := by decide
  have within : ∀ operation ∈ sampleHistory ++ sampleHistory.drop 2,
      operation.Within .readable := by
    intro operation member
    refine (sampleHistory_within operation ?_).readable
    obtain former | latter := List.mem_append.mp member
    · exact former
    · exact List.mem_of_mem_drop latter
  have fit : (empty .table).AttemptsFit (sampleHistory ++ sampleHistory.drop 2) :=
    attemptsFit_of_claims unique (by decide)
  exact ⟨unique, within, fit, (claims_settled .table sampleHistory (sampleHistory.drop 2) unique
    (fun _ => within) fun _ => fit).2⟩

end Backend

end TaskAutomation
