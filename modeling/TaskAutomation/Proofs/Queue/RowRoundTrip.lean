import TaskAutomation.Proofs.Json.Depth
import TaskAutomation.Proofs.Queue.RowOfTask
import Mathlib.Tactic.SplitIfs

/-!
This file proves what comes back from a table into which a task was put. Every column reads as it
was written, but for the times, of which the milliseconds are left, and a run of 2^63 milliseconds
or more, of which nothing is left. Params come back as long as they nest no deeper than the reader
of JSON goes. If they nest deeper they are written all the same, and then the row can not be read.
-/

namespace TaskAutomation

/-! ### Times without parts of milliseconds -/

/-- The point of time without the nanoseconds behind its last whole millisecond. -/
def Instant.cutMillis (instant : Instant) : Instant :=
  { instant with nanos := instant.nanos - instant.nanos % 1000000 }

/-- Before and after 1970 a time is read back as the start of its millisecond. -/
theorem Instant.floorMillis_eq_cutMillis {instant : Instant}
    (ordinary : instant.nanos < nanosPerSecond) : instant.floorMillis = instant.cutMillis := by
  obtain ⟨seconds, nanos⟩ := instant
  simp only [nanosPerSecond] at ordinary
  simp only [floorMillis, cutMillis, millis, mk.injEq]
  omega

/-! ### Params that are nested too deep -/

/-- The text of a value that is nested deeper than the reader goes is refused for its nesting. -/
theorem Json.parse_compact_of_deep {json : Json} (valid : json.Valid)
    (deep : maxDepth < json.depth) :
    ∃ line column : Nat, parse json.compact = .error ("recursion limit exceeded at line " ++
      toString line ++ " column " ++ toString column) := by
  have enough : json.print.length < 2 * json.print.length + 2 := by omega
  obtain ⟨left, fault⟩ := tooDeep_print valid enough deep []
  rw [List.append_nil] at fault
  rw [parse, readAll, compact, String.toList_ofList, fault]
  exact ⟨_, _, rfl⟩

/-! ### Whatever the types allow -/

/-- All that the types of a task allow, but no leap seconds. -/
def Limits.typed : Limits where
  params := Json.Valid
  time instant := instant.Representable ∧ instant.nanos < nanosPerSecond
  millis millis := millis < Word.size64

instance : DecidablePred Limits.typed.time := fun instant =>
  inferInstanceAs (Decidable (instant.Representable ∧ instant.nanos < nanosPerSecond))

instance : DecidablePred Limits.typed.millis := fun millis =>
  inferInstanceAs (Decidable (millis < Word.size64))

namespace Task

variable {task : Task}

/-- What comes back of a task with params that come back. -/
def cut (task : Task) : Task :=
  { task with
    startAt := task.startAt.cutMillis
    executionMillis := task.executionMillis.map fun millis => if millis < 2 ^ 63 then millis else 0
    createdAt := task.createdAt.cutMillis
    updatedAt := task.updatedAt.cutMillis }

/-- A count of 64 bits comes back from a signed column if it is small, and as zero if it is not. -/
theorem toNat_signed64 {millis : Nat} (fits : millis < Word.size64) :
    (Word.signed64 millis).toNat = if millis < 2 ^ 63 then millis else 0 := by
  unfold Word.size64 at fits
  rw [Word.signed64, Int.bmod_def, Word.size64]
  push_cast
  split_ifs <;> omega

theorem Within.readable_of_typed (within : task.Within .typed)
    (shallow : task.params.depth ≤ Json.maxDepth) : task.Within .readable :=
  ⟨⟨within.params, shallow⟩, within.priority, within.attempt, within.startAt.1,
    fun _ _ => trivial, within.createdAt.1, within.updatedAt.1⟩

theorem Within.stored_eq_cut (within : task.Within .typed)
    (back : ∀ d ∈ task.params.doubles, Json.parse d.text = .ok (.double d)) :
    task.stored = task.cut := by
  have millis : (task.executionMillis.map fun millis => (Word.signed64 millis).toNat) =
      task.executionMillis.map fun millis => if millis < 2 ^ 63 then millis else 0 := by
    refine Option.map_congr fun millis same => ?_
    exact toNat_signed64 (within.executionMillis millis same)
  rw [Task.stored, Task.cut, millis, Json.reread_eq_self _ back,
    Instant.floorMillis_eq_cutMillis within.startAt.2,
    Instant.floorMillis_eq_cutMillis within.createdAt.2,
    Instant.floorMillis_eq_cutMillis within.updatedAt.2]

end Task

namespace Row

variable {task : Task}

/-- The row of a task with params that do not read fails at its params. -/
theorem task_ofTask_of_unread {limits : Limits} (within : task.Within limits) {why : String}
    (unread : Json.parse task.params.compact = .error why) :
    (ofTask task).task = .error (.undecodable why) := by
  rw [Row.task, values_ofTask within]
  simp only [bind, Except.bind, Values.task, taskId_bare, unread, Except.mapError]

end Row

namespace TableQueue

variable {table : TableQueue} {task : Task}

/-- A row that breaks no constraint is found by its identifier once it is there. -/
theorem find?_append_ofTask (free : conflict? table.rows (Row.ofTask task) = none) :
    (⟨table.rows ++ [Row.ofTask task]⟩ : TableQueue).find? task.id = some (Row.ofTask task) := by
  have absent : (table.rows.find? fun row => row.id = .text task.id.bare) = none := by
    refine List.find?_eq_none.mpr fun row member same => ?_
    have taken : (Row.ofTask task).id ≠ .null ∧
        (table.rows.any fun other => other.id = (Row.ofTask task).id) = true :=
      ⟨nofun, List.any_eq_true.mpr ⟨row, member, same⟩⟩
    rw [conflict?, if_pos taken] at free
    cases free
  have own : decide ((Row.ofTask task).id = .text task.id.bare) = true := decide_eq_true rfl
  rw [find?, List.find?_append, absent, Option.none_or, List.find?_singleton, if_pos own]

/-- A task that is put into a table comes back with its times cut to milliseconds, whatever it is,
as long as its params are not nested too deep. If they are, the row is put there all the same, and
reading it fails. -/
theorem get_insert (table : TableQueue) {task : Task} (within : task.Within .typed)
    (free : conflict? table.rows (Row.ofTask task) = none) :
    ∃ changed, table.insert (Row.ofTask task) = .ok changed ∧
      (task.params.depth ≤ 127 →
        (∀ d ∈ task.params.doubles, Json.parse d.text = .ok (.double d)) →
        changed.get task.id = .ok (some task.cut)) ∧
      (128 ≤ task.params.depth → ∃ line column : Nat,
        changed.get task.id = .error (.undecodable ("recursion limit exceeded at line " ++
          toString line ++ " column " ++ toString column))) := by
  have inserted : table.insert (Row.ofTask task) = .ok ⟨table.rows ++ [Row.ofTask task]⟩ := by
    rw [insert, free]
  refine ⟨_, inserted, fun shallow back => ?_, fun deep => ?_⟩
  · have reads := Row.task_ofTask (within.readable_of_typed shallow)
    rw [within.stored_eq_cut back] at reads
    rw [get, find?_append_ofTask free]
    simp only [reads]
    rfl
  · obtain ⟨line, column, unread⟩ := Json.parse_compact_of_deep within.params deep
    refine ⟨line, column, ?_⟩
    rw [get, find?_append_ofTask free]
    simp only [Row.task_ofTask_of_unread within unread]
    rfl

/-! ### Extreme tasks -/

/-- A task that starts at the latest point of time, was made at the earliest one, was changed just
before 1970, and has run for as long as comes back. -/
def extremeTask (params : Json) : Task :=
  { Task.new ⟨.ofNat 1⟩ "mail" params { startAt := some Instant.max } Instant.min with
    executionMillis := some (2 ^ 63 - 1)
    updatedAt := ⟨-1, 999999⟩ }

/-- Params with a number that has a fraction. -/
def halfParams : Json := .list [.double (.finite false (2 ^ 52) (-53)), .integer (-1)]

theorem within_extremeTask {params : Json} (valid : params.Valid) :
    (extremeTask params).Within .typed where
  params := valid
  priority := (by decide : Word.holds32 0 = true)
  attempt := (by decide : 0 < Word.size32)
  startAt := (by decide : Limits.typed.time Instant.max)
  executionMillis := (by decide : ∀ millis ∈ some (2 ^ 63 - 1), Limits.typed.millis millis)
  createdAt := (by decide : Limits.typed.time Instant.min)
  updatedAt := (by decide : Limits.typed.time ⟨-1, 999999⟩)

theorem get_insert_extreme :
    (∃ changed, empty.insert (Row.ofTask (extremeTask halfParams)) = .ok changed ∧
      changed.get ⟨.ofNat 1⟩ = .ok (some { extremeTask halfParams with
        startAt := ⟨Instant.maxSeconds, 999000000⟩
        updatedAt := ⟨-1, 0⟩ })) ∧
    ∃ changed, empty.insert (Row.ofTask (extremeTask (Json.nested 128 .null))) = .ok changed ∧
      ∃ why, changed.get ⟨.ofNat 1⟩ = .error (.undecodable why) := by
  constructor
  · have half : (Double.finite false (2 ^ 52) (-53)).Fits := by decide
    have valid : halfParams.Valid := ⟨half, ⟨by decide, by decide⟩, trivial⟩
    have back : ∀ d ∈ halfParams.doubles, Json.parse d.text = .ok (.double d) := by
      intro d member
      rw [List.mem_singleton.mp member]
      with_unfolding_all rfl
    obtain ⟨changed, inserted, reads, -⟩ := get_insert empty (within_extremeTask valid) rfl
    exact ⟨changed, inserted, reads (by decide) back⟩
  · have null : Json.null.Valid := trivial
    obtain ⟨changed, inserted, -, fails⟩ :=
      get_insert empty (within_extremeTask (Json.valid_nested null 128)) rfl
    obtain ⟨line, column, unread⟩ := fails (by
      show 128 ≤ (Json.nested 128 .null).depth
      rw [Json.depth_nested]
      decide)
    exact ⟨changed, inserted, _, unread⟩

end TableQueue

end TaskAutomation
