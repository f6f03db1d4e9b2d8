import TaskAutomation.Proofs.Queue.History
import TaskAutomation.Proofs.Queue.RowOfTask

/-!
This file proves that along a history within limits every record can be read. A record is then the
one of a task within limits, and what an operation makes of it is again the record of such a task.
Only the number of attempts can grow out of its 32 bits, and only after that many claims; what
follows is about histories in which it does not.
-/

namespace TaskAutomation

/-- The operation is a claim. -/
def QueueOperation.isClaim : QueueOperation → Bool
  | claim .. => true
  | _ => false

namespace StoredTask

/-- The record is the one of a task within limits. -/
def Within (limits : Limits) (record : StoredTask) : Prop :=
  ∃ held : Task, held.Within limits ∧ record.IsOf held

variable {record changed : StoredTask} {held : Task} {limits : Limits}

theorem attempt?_of_isOf (same : record.IsOf held) :
    record.attempt? = some (held.attempt : Int) := by
  obtain rfl | rfl := same <;> rfl

/-- What is read from the record of a task: the task, perhaps cut to what a row can hold. -/
theorem read_of_isOf (faithful : limits.Faithful) (within : held.Within limits)
    (same : record.IsOf held) {read : Task} (reads : record.read = .ok read) :
    read.Within limits ∧
      (record = task read ∨ record = row (Row.ofTask held) ∧ read = held.stored) := by
  obtain rfl | rfl := same
  · cases reads
    exact ⟨within, Or.inl rfl⟩
  · obtain ⟨cut, stored⟩ := faithful held read within reads
    exact ⟨stored, Or.inr ⟨rfl, cut⟩⟩

theorem Within.read_eq_ok (durable : limits.Durable) (within : record.Within limits) :
    ∃ read : Task, record.read = .ok read := by
  obtain ⟨held, inside, rfl | rfl⟩ := within
  · exact ⟨held, rfl⟩
  · exact ⟨held.stored, Row.task_ofTask (durable held inside).1⟩

/-! ### Changes -/

theorem isOf_claimed (within : held.Within limits) (same : record.IsOf held) (now : Instant) :
    (record.claimed now).IsOf (held.claimed now) := by
  obtain rfl | rfl := same
  · exact Or.inl rfl
  · exact Or.inr (congrArg row (Row.claimed_ofTask within.attempt now))

theorem isOf_reaped (same : record.IsOf held) (now : Instant) :
    (record.reaped now).IsOf (held.reaped now) := by
  obtain rfl | rfl := same
  · exact Or.inl rfl
  · exact Or.inr (congrArg row (Row.reaped_ofTask held now))

variable {operation : QueueOperation} {reply : QueueReply} {records newRecords : List StoredTask}

/-- A change keeps a record within limits as long as the attempts fit. -/
theorem Change.within (faithful : limits.Faithful) (change : Change operation record changed)
    (inside : operation.Within limits) (within : record.Within limits)
    (fits : ∀ n ∈ changed.attempt?, n < Word.size32) : changed.Within limits := by
  obtain ⟨held, own, same⟩ := within
  cases change with
  | kept => exact ⟨held, own, same⟩
  | claimed topics now record claims due =>
    have claimed := isOf_claimed own same now
    have small := fits _ (attempt?_of_isOf claimed)
    rw [claims] at inside
    exact ⟨held.claimed now, own.claimed inside (Int.ofNat_lt.mp small), claimed⟩
  | settled report apply record task reports named read process =>
    obtain ⟨within, source⟩ := read_of_isOf faithful own same read
    refine ⟨apply (task.absorb report), within.settlement reports inside, ?_⟩
    obtain rfl | ⟨rfl, cut⟩ := source
    · exact Or.inl rfl
    · have origin := QueueOperation.sameOrigin_settlement reports task
      rw [cut] at origin ⊢
      exact Or.inr (congrArg row (Row.settled_ofTask origin))
  | reaped now cutoff record reaps stale =>
    rw [reaps] at inside
    exact ⟨held.reaped now, own.reaped inside.1, isOf_reaped same now⟩

/-- An operation keeps all records within limits. -/
theorem Effect.within (effect : Effect records operation reply newRecords)
    (distinct : Distinct records) (faithful : limits.Faithful) (inside : operation.Within limits)
    (within : ∀ record ∈ records, record.Within limits)
    (fits : ∀ record ∈ newRecords, ∀ n ∈ record.attempt?, n < Word.size32) :
    ∀ record ∈ newRecords, record.Within limits := by
  intro record member
  cases pushes : operation.pushedId? with
  | none =>
    obtain ⟨former, before, change⟩ := effect.exists_change distinct pushes member
    exact change.within faithful inside (within former before) (fits record member)
  | some id =>
    cases operation with
    | push own now handler params options =>
      obtain ⟨task, added, rfl, stored, new⟩ := effect.push_adds
      obtain before | last := List.mem_append.mp member
      · exact within record before
      · rw [List.mem_singleton.mp last]
        refine ⟨task, ?_, stored⟩
        obtain rfl | ⟨existing, rfl⟩ := new
        · exact Task.within_new inside
        · exact (Task.within_new inside).collide existing
    | _ => cases pushes

/-! ### Attempts -/

/-- The attempts in a record are known and at most a number. -/
def AttemptsAtMost (record : StoredTask) (most : Nat) : Prop :=
  ∃ n : Nat, record.attempt? = some (n : Int) ∧ n ≤ most

variable {most : Nat}

theorem AttemptsAtMost.mono {more : Nat} (known : record.AttemptsAtMost most) (le : most ≤ more) :
    record.AttemptsAtMost more := by
  obtain ⟨n, attempts, atMost⟩ := known
  exact ⟨n, attempts, atMost.trans le⟩

theorem AttemptsAtMost.fits (known : record.AttemptsAtMost most) (small : most < Word.size32) :
    ∀ n ∈ record.attempt?, n < Word.size32 := by
  intro n attempts
  obtain ⟨m, same, atMost⟩ := known
  obtain rfl := Option.some.inj (same.symm.trans attempts)
  omega

theorem attempt?_claimed {n : Nat} (attempts : record.attempt? = some (n : Int))
    (small : n < Word.size32) (now : Instant) :
    (record.claimed now).attempt? = some ((n + 1 : Nat) : Int) := by
  cases record with
  | task held =>
    obtain rfl : held.attempt = n := Int.ofNat_inj.mp (Option.some.inj attempts)
    rfl
  | row cells =>
    simp only [attempt?] at attempts
    split at attempts
    · next cell =>
      obtain rfl := Option.some.inj attempts
      simp only [StoredTask.claimed, TableQueue.claimed, attempt?, cell,
        Row.increment_natCast small]
    · cases attempts

theorem attempt?_settled (record : StoredTask) (held : Task) :
    (record.settled held).attempt? = some (held.attempt : Int) := by cases record <;> rfl

theorem attempt?_reaped (record : StoredTask) (now : Instant) :
    (record.reaped now).attempt? = record.attempt? := by cases record <;> rfl

/-- Only a claim counts an attempt. -/
theorem Change.attemptsAtMost (change : Change operation record changed)
    (known : record.AttemptsAtMost most) (small : most < Word.size32) :
    changed.AttemptsAtMost (most + operation.isClaim.toNat) := by
  cases change with
  | kept => exact known.mono (Nat.le_add_right _ _)
  | claimed topics now record claims due =>
    obtain ⟨n, attempts, atMost⟩ := known
    rw [claims]
    exact ⟨n + 1, attempt?_claimed attempts (atMost.trans_lt small) now,
      Nat.add_le_add_right atMost 1⟩
  | settled report apply record task reports named read held =>
    obtain ⟨n, attempts, atMost⟩ := known
    have same : task.attempt = n :=
      Int.ofNat_inj.mp (Option.some.inj ((read_eq_ok read).2.2.2.symm.trans attempts))
    have fewer := QueueOperation.attempt_settlement reports task
    exact ⟨_, attempt?_settled record _, by omega⟩
  | reaped now cutoff record reaps stale =>
    obtain ⟨n, attempts, atMost⟩ := known
    exact ⟨n, (attempt?_reaped record now).trans attempts, atMost.trans (Nat.le_add_right _ _)⟩

theorem Effect.attemptsAtMost (effect : Effect records operation reply newRecords)
    (distinct : Distinct records) (known : ∀ record ∈ records, record.AttemptsAtMost most)
    (small : most < Word.size32) :
    ∀ record ∈ newRecords, record.AttemptsAtMost (most + operation.isClaim.toNat) := by
  intro record member
  cases pushes : operation.pushedId? with
  | none =>
    obtain ⟨former, before, change⟩ := effect.exists_change distinct pushes member
    exact change.attemptsAtMost (known former before) small
  | some id =>
    cases operation with
    | push own now handler params options =>
      obtain ⟨task, added, rfl, stored, new⟩ := effect.push_adds
      obtain before | last := List.mem_append.mp member
      · exact known record before
      · rw [List.mem_singleton.mp last]
        refine ⟨0, ?_, Nat.zero_le _⟩
        rw [attempt?_of_isOf stored]
        obtain rfl | ⟨existing, rfl⟩ := new <;> rfl
    | _ => cases pushes

end StoredTask

namespace Backend

open QueueOperation StoredTask

/-- The states that a history leads through, the first and the last one among them. -/
def states (backend : Backend) : List QueueOperation → List Backend
  | [] => [backend]
  | operation :: rest => backend :: (backend.step operation).2.states rest

/-- The attempts of all tasks have 32 bits in every state that a history leads through. -/
def AttemptsFit (backend : Backend) (history : List QueueOperation) : Prop :=
  ∀ state ∈ backend.states history, ∀ record ∈ state.records, ∀ n ∈ record.attempt?,
    n < Word.size32

variable {backend : Backend} {operation : QueueOperation} {rest past future : List QueueOperation}

theorem mem_states_self (backend : Backend) (history : List QueueOperation) :
    backend ∈ backend.states history := by
  cases history <;> exact List.mem_cons_self

theorem mem_states_run (backend : Backend) (past future : List QueueOperation) :
    (backend.run past).2 ∈ backend.states (past ++ future) := by
  induction past generalizing backend with
  | nil => exact mem_states_self backend future
  | cons operation rest inductionHypothesis =>
    exact List.mem_cons_of_mem backend (inductionHypothesis (backend.step operation).2)

theorem AttemptsFit.step (fit : backend.AttemptsFit (operation :: rest)) :
    (backend.step operation).2.AttemptsFit rest :=
  fun state member => fit state (List.mem_cons_of_mem backend member)

/-- As long as few claims are to come, the attempts of all tasks keep their 32 bits. -/
theorem Sound.attemptsFit {history : List QueueOperation} (sound : backend.Sound history)
    {most : Nat} (known : ∀ record ∈ backend.records, record.AttemptsAtMost most)
    (few : most + history.countP isClaim < Word.size32) : backend.AttemptsFit history := by
  induction history generalizing backend most with
  | nil =>
    intro state member record inside
    rw [List.mem_singleton.mp member] at inside
    exact (known record inside).fits (by omega)
  | cons operation rest inductionHypothesis =>
    intro state member record inside
    have small : most < Word.size32 := by omega
    obtain rfl | later := List.mem_cons.mp member
    · exact (known record inside).fits small
    · have count : List.countP isClaim (operation :: rest) =
          rest.countP isClaim + operation.isClaim.toNat := by
        rw [List.countP_cons]
        cases operation.isClaim <;> rfl
      have next := sound.effect.attemptsAtMost sound.distinct known small
      exact inductionHypothesis sound.step next (by omega) state later record inside

/-- A history with fewer than 2^32 claims keeps the attempts of all tasks in 32 bits. -/
theorem attemptsFit_of_claims {storage : Storage} {history : List QueueOperation}
    (unique : (pushedIds history).Nodup) (few : history.countP isClaim < Word.size32) :
    (empty storage).AttemptsFit history := by
  have room : 0 + history.countP isClaim < Word.size32 := by rwa [Nat.zero_add]
  exact (Sound.empty storage unique).attemptsFit
    (fun record member => absurd member (not_mem_records_empty storage record)) room

/-- Every record can be read, in every state that a history leads through. -/
def Readable (backend : Backend) (history : List QueueOperation) : Prop :=
  ∀ state ∈ backend.states history, ∀ record ∈ state.records, ∃ task, record.read = .ok task

theorem Readable.now {history : List QueueOperation} (readable : backend.Readable history) :
    ∀ record ∈ backend.records, ∃ task, record.read = .ok task :=
  readable backend (mem_states_self backend history)

theorem Readable.step (readable : backend.Readable (operation :: rest)) :
    (backend.step operation).2.Readable rest :=
  fun state member => readable state (List.mem_cons_of_mem backend member)

/-- In memory nothing has to be read. -/
theorem readable_memory (queue : MemoryQueue) (history : List QueueOperation) :
    (Backend.memory queue).Readable history := by
  intro state member record inside
  have inMemory : ∃ own, state = .memory own := by
    induction history generalizing queue with
    | nil => exact ⟨queue, List.mem_singleton.mp member⟩
    | cons operation rest inductionHypothesis =>
      obtain rfl | later := List.mem_cons.mp member
      · exact ⟨queue, rfl⟩
      · cases operation <;> exact inductionHypothesis _ later
  obtain ⟨own, rfl⟩ := inMemory
  obtain ⟨held, -, rfl⟩ := List.mem_map.mp inside
  exact ⟨held, rfl⟩

/-- The records of a queue stay within limits as long as the operations do. -/
theorem Sound.within {limits : Limits} {history : List QueueOperation}
    (sound : backend.Sound history) (faithful : limits.Faithful)
    (records : ∀ record ∈ backend.records, record.Within limits)
    (operations : ∀ operation ∈ history, operation.Within limits)
    (fit : backend.AttemptsFit history) :
    ∀ state ∈ backend.states history, ∀ record ∈ state.records, record.Within limits := by
  induction history generalizing backend with
  | nil =>
    intro state member
    rw [List.mem_singleton.mp member]
    exact records
  | cons operation rest inductionHypothesis =>
    intro state member
    obtain rfl | later := List.mem_cons.mp member
    · exact records
    · have next := sound.effect.within sound.distinct faithful
        (operations operation List.mem_cons_self) records (fit.step _ (mem_states_self _ rest))
      exact inductionHypothesis sound.step next
        (fun other member => operations other (List.mem_cons_of_mem operation member)) fit.step
        state later

/-- A queue whose records and operations stay within limits can be read for good. -/
theorem Sound.readable {history : List QueueOperation} (sound : backend.Sound history)
    (records : ∀ record ∈ backend.records, record.Within .readable)
    (operations : ∀ operation ∈ history, operation.Within .readable)
    (fit : backend.AttemptsFit history) : backend.Readable history :=
  fun state member record inside =>
    (sound.within Limits.durable_readable.faithful records operations fit state member record
      inside).read_eq_ok Limits.durable_readable

/-- A queue that starts without tasks can be read for good, in a table only within limits. -/
theorem readable_empty {storage : Storage} {history : List QueueOperation}
    (unique : (pushedIds history).Nodup)
    (within : storage = .table → ∀ operation ∈ history, operation.Within .readable)
    (fit : storage = .table → (empty storage).AttemptsFit history) :
    (empty storage).Readable history := by
  cases storage with
  | memory => exact readable_memory .empty history
  | table =>
    exact (Sound.empty .table unique).readable
      (fun record member => absurd member List.not_mem_nil) (within rfl) (fit rfl)

theorem sampleHistory_within : ∀ operation ∈ sampleHistory, operation.Within .exact := by
  have params : (Json.list []).Exact := ⟨⟨trivial, by decide⟩, nofun⟩
  have report : (RunReport.bare ⟨.ofNat 1⟩ ⟨3, 0⟩).Within .exact :=
    ⟨nofun, by decide, by decide⟩
  intro operation member
  simp only [sampleHistory, List.mem_cons, List.not_mem_nil, or_false] at member
  obtain rfl | rfl | rfl | rfl | rfl := member
  · exact ⟨params, by decide, nofun, by decide⟩
  · exact ⟨params, by decide, nofun, by decide⟩
  · exact show Limits.exact.time ⟨2, 0⟩ by decide
  · exact report
  · exact show Limits.exact.time ⟨4, 0⟩ by decide

end Backend

end TaskAutomation
