import TaskAutomation.Proofs.Json.RoundTrip
import TaskAutomation.Proofs.Queue.KeptRow
import TaskAutomation.Proofs.Queue.Limits
import TaskAutomation.Proofs.Time.Millis

/-!
This file proves that the row of a task reads back. What a row does to a task is cut its times to
milliseconds and read the numbers of its params again, which leaves the row as it is. The statements
of the table do to the row of a task what the queue in memory does to the task, so a table that only
the queue writes to holds nothing but rows of tasks.
-/

namespace TaskAutomation

/-! ### What a row can hold -/

/-- Params that can be written and read again: they nest at most as deep as the reader goes. -/
structure Json.Storable (json : Json) : Prop where
  valid : json.Valid
  shallow : json.depth ≤ maxDepth

/-- Params that read back as they were. -/
structure Json.Exact (json : Json) : Prop extends json.Storable where
  back : ∀ d ∈ json.doubles, parse d.text = .ok (double d)

theorem Json.Storable.reread {json : Json} (storable : json.Storable) : json.reread.Storable :=
  ⟨storable.valid.reread, (depth_reread json).trans_le storable.shallow⟩

/-- Within these limits every row can be read. -/
def Limits.readable : Limits where
  params := Json.Storable
  time := Instant.Representable
  millis _ := True

/-- Within these limits every row is read as the task that was written: the numbers of its params
read back, its times are whole milliseconds, and its run is shorter than 2^63 milliseconds. -/
def Limits.exact : Limits where
  params := Json.Exact
  time instant := instant.Representable ∧ instant.Whole
  millis millis := (millis : Int) ≤ Word.most64

instance : DecidablePred Limits.exact.time := fun instant =>
  inferInstanceAs (Decidable (instant.Representable ∧ instant.Whole))

instance : DecidablePred Limits.exact.millis := fun millis =>
  inferInstanceAs (Decidable ((millis : Int) ≤ Word.most64))

theorem QueueOperation.Within.readable {operation : QueueOperation}
    (within : operation.Within .exact) : operation.Within .readable := by
  have report {report : RunReport} (inside : report.Within .exact) : report.Within .readable :=
    ⟨fun params same => Json.Exact.toStorable (inside.params params same), inside.finishedAt.1,
      trivial⟩
  cases operation with
  | push id now handler params options =>
    obtain ⟨exact, time, start, priority⟩ := within
    exact ⟨Json.Exact.toStorable exact, time.1, fun startAt same => (start startAt same).1,
      priority⟩
  | claim topics now => exact within.1
  | complete own => exact report within
  | fail own why => exact report within
  | reschedule own startAt => exact ⟨report within.1, within.2.1⟩
  | get id => trivial
  | counts => trivial
  | reap now cutoff => exact ⟨within.1.1, within.2.1⟩
  | purge before => exact within.1

namespace Task

variable {task : Task}

/-- What is read from the row of a task. -/
def stored (task : Task) : Task :=
  { task with
    params := task.params.reread
    startAt := task.startAt.floorMillis
    executionMillis := task.executionMillis.map fun millis => (Word.signed64 millis).toNat
    createdAt := task.createdAt.floorMillis
    updatedAt := task.updatedAt.floorMillis }

theorem Within.stored (within : task.Within .readable) : task.stored.Within .readable :=
  ⟨Json.Storable.reread within.params, within.priority, within.attempt,
    Instant.representable_floorMillis within.startAt, fun _ _ => trivial,
    Instant.representable_floorMillis within.createdAt,
    Instant.representable_floorMillis within.updatedAt⟩

theorem Within.readable (within : task.Within .exact) : task.Within .readable :=
  ⟨Json.Exact.toStorable within.params, within.priority, within.attempt, within.startAt.1,
    fun _ _ => trivial, within.createdAt.1, within.updatedAt.1⟩

theorem signed64_of_small {millis : Nat} (small : (millis : Int) ≤ Word.most64) :
    Word.signed64 millis = millis := by
  have bound : Word.most64 = 9223372036854775807 := rfl
  refine Int.bmod_eq_of_le ?_ ?_ <;> simp only [Word.size64] <;> omega

theorem Within.stored_eq (within : task.Within .exact) : task.stored = task := by
  have millis : (task.executionMillis.map fun millis => (Word.signed64 millis).toNat) =
      task.executionMillis := by
    cases same : task.executionMillis with
    | none => rfl
    | some millis =>
      have small : (millis : Int) ≤ Word.most64 := within.executionMillis millis same
      rw [Option.map_some, signed64_of_small small, Int.toNat_natCast]
  rw [Task.stored, millis, Json.reread_eq_self _ (Json.Exact.back within.params),
    within.startAt.2.floorMillis_eq, within.createdAt.2.floorMillis_eq,
    within.updatedAt.2.floorMillis_eq]

end Task

/-- Within these limits a row can be read, and what is read stays within them. -/
def Limits.Durable (limits : Limits) : Prop :=
  ∀ task : Task, task.Within limits → task.Within .readable ∧ task.stored.Within limits

/-- What is read from a row that was written within these limits, if it reads, is the task cut to
what a row can hold, and it stays within them. -/
def Limits.Faithful (limits : Limits) : Prop :=
  ∀ task back : Task, task.Within limits → (Row.ofTask task).task = .ok back →
    back = task.stored ∧ back.Within limits

theorem Limits.durable_readable : Limits.readable.Durable :=
  fun _ within => ⟨within, within.stored⟩

theorem Limits.durable_exact : Limits.exact.Durable := fun _ within =>
  ⟨within.readable, within.stored_eq.symm ▸ within⟩

namespace Row

variable {task : Task}

/-! ### Reading a row that was written -/

theorem optional_text (column : Column) (value : Option String) :
    optional (text column) (ofText? value) = .ok value := by cases value <;> rfl

theorem optional_millis (column : Column) (value : Option Nat) :
    optional (integer column) (ofMillis? value) = .ok (value.map Word.signed64) := by
  cases value <;> rfl

theorem bounded_integer (column : Column) {least most value : Int}
    (inside : least ≤ value ∧ value ≤ most) :
    bounded column least most (.integer value) = .ok value := if_pos inside

theorem instant_millis {instant : Instant} (representable : instant.Representable) :
    Row.instant instant.millis = .ok instant.floorMillis := by
  rw [Row.instant, Instant.ofMillis?_millis representable]

theorem values_ofTask {limits : Limits} (within : task.Within limits) :
    (ofTask task).values = .ok {
      id := task.id.bare
      handler := task.handler
      params := task.params.compact
      status := task.status.name
      priority := task.priority
      topic := task.topic
      collisionSign := task.collisionSign
      startAt := task.startAt.millis
      attempt := task.attempt
      executionMillis := task.executionMillis.map Word.signed64
      info := task.info
      error := task.error
      watcher := task.watcher
      createdAt := task.createdAt.millis
      updatedAt := task.updatedAt.millis } := by
  have priority : bounded .priority Word.least32 Word.most32 (.integer task.priority) =
      .ok task.priority := by
    refine bounded_integer .priority ?_
    simpa only [Word.holds32, Bool.and_eq_true, decide_eq_true_eq] using within.priority
  have attempt : bounded .attempt 0 (Word.size32 - 1) (.integer task.attempt) =
      .ok (task.attempt : Int) := by
    have small := within.attempt
    refine bounded_integer .attempt ⟨Int.natCast_nonneg _, ?_⟩
    omega
  have watcher : decide ((if task.watcher then 1 else 0 : Int) ≠ 0) = task.watcher := by
    cases task.watcher <;> rfl
  unfold Row.values ofTask
  simp only [priority, attempt, optional_text, optional_millis, text, integer, ofInstant, bind,
    Except.bind, Int.toNat_natCast, watcher]

/-- The row of a task reads as the task, cut to what a row can hold. -/
theorem task_ofTask (within : task.Within .readable) : (ofTask task).task = .ok task.stored := by
  have params : (Json.parse task.params.compact).mapError StoreFault.undecodable =
      .ok task.params.reread := by
    rw [Json.parse_compact within.params.valid within.params.shallow]
    rfl
  have millis : (task.executionMillis.map Word.signed64).map Int.toNat =
      task.executionMillis.map fun millis => (Word.signed64 millis).toNat := by
    rw [Option.map_map, Function.comp_def]
  refine bind_eq_ok.mpr ⟨_, values_ofTask within, ?_⟩
  unfold Values.task
  refine bind_eq_ok.mpr ⟨task.id, taskId_bare task.id, ?_⟩
  refine bind_eq_ok.mpr ⟨task.params.reread, params, ?_⟩
  simp only [TaskStatus.ofName?_name]
  refine bind_eq_ok.mpr ⟨task.status, rfl, ?_⟩
  refine bind_eq_ok.mpr ⟨_, instant_millis within.startAt, ?_⟩
  refine bind_eq_ok.mpr ⟨_, instant_millis within.createdAt, ?_⟩
  refine bind_eq_ok.mpr ⟨_, instant_millis within.updatedAt, ?_⟩
  rw [Task.stored, ← millis]

/-! ### The statements of the table -/

theorem increment_natCast {n : Nat} (small : n < Word.size32) :
    (Cell.integer (n : Int)).increment = .integer ((n + 1 : Nat) : Int) := by
  have holds : Word.holds64 ((n : Int) + 1) = true := by
    simp only [Word.holds64, Bool.and_eq_true, decide_eq_true_eq]
    unfold Word.size32 at small
    unfold Word.least64 Word.most64
    omega
  rw [Cell.increment, if_pos holds, Int.natCast_succ]

theorem claimed_ofTask (small : task.attempt < Word.size32) (now : Instant) :
    TableQueue.claimed (ofTask task) now = ofTask (task.claimed now) := by
  have next := increment_natCast small
  unfold TableQueue.claimed ofTask
  simp only [next]
  rfl

/-- A report writes the row of the task that it leads to, because the columns that it leaves alone
are the ones that never change. -/
theorem settled_ofTask {changed : Task} (origin : task.stored.SameOrigin changed) :
    TableQueue.settled (ofTask task) changed = ofTask changed := by
  have created : changed.createdAt.millis = task.createdAt.millis := by
    rw [origin.createdAt]
    exact Instant.millis_floorMillis task.createdAt
  unfold TableQueue.settled ofTask ofInstant
  simp only [origin.id, origin.handler, origin.priority, origin.topic, origin.collisionSign,
    origin.watcher, created]
  rfl

theorem reaped_ofTask (task : Task) (now : Instant) :
    TableQueue.reaped (ofTask task) now = ofTask (task.reaped now) := by
  have lines : (Cell.text task.info).append
      ((if Cell.text task.info = Cell.text "" then "" else "\n") ++ Task.reapedLine) =
        Cell.text (task.addInfo Task.reapedLine).info := by
    refine congrArg Cell.text ?_
    show _ = if task.info.isEmpty then Task.reapedLine else task.info ++ "\n" ++ Task.reapedLine
    by_cases empty : task.info = ""
    · rw [empty]
      rfl
    · have present : ¬ task.info.isEmpty = true := fun none => empty (String.isEmpty_iff.mp none)
      have other : ¬ Cell.text task.info = Cell.text "" := fun same => empty (Cell.text.inj same)
      rw [if_neg present, if_neg other, String.append_assoc]
  unfold TableQueue.reaped ofTask
  simp only [lines]
  rfl

end Row

theorem Limits.Durable.faithful {limits : Limits} (durable : limits.Durable) :
    limits.Faithful := by
  intro task back within read
  obtain ⟨readable, stored⟩ := durable task within
  obtain rfl := Except.ok.inj ((Row.task_ofTask readable).symm.trans read)
  exact ⟨rfl, stored⟩

end TaskAutomation
