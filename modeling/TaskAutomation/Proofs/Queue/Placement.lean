import Mathlib.Data.List.Forall2
import TaskAutomation.Proofs.Queue.KeptRow
import TaskAutomation.Queue.Backend

/-!
This file compares the next row that is due with the next task that is due. Five cells of a row decide
when it is claimed. If they say of each row what some task says, with a start that is a whole number of
milliseconds, then the rows are due and come before each other exactly when those tasks do, so the row
that is found is the one that speaks for the task that is found. Nothing is needed of the other cells:
the tasks may be the ones that were written or the ones that are read. In the last place identifiers
are compared, by their texts in a row and by their numbers in a task, and that is the same.
-/

namespace TaskAutomation

namespace Row

open TableQueue

/-- The cells that decide when a row is claimed say what a task says. -/
structure Places (row : Row) (task : Task) : Prop where
  id : row.id = .text task.id.bare
  status : row.status = .text task.status.name
  priority : row.priority = .integer task.priority
  topic : row.topic = .text task.topic
  startAt : row.startAt = ofInstant task.startAt
  whole : task.startAt.Whole

variable {row other : Row} {task held : Task}

theorem places_ofTask (whole : task.startAt.Whole) : (ofTask task).Places task :=
  ⟨rfl, rfl, rfl, rfl, rfl, whole⟩

/-! ### Being due -/

theorem atMost_ofInstant {first second : Instant} (left : first.Whole) (right : second.Whole) :
    (ofInstant first).atMost (ofInstant second) = decide (first ≤ second) := by
  rw [Bool.eq_iff_iff, atMost_ofInstant_iff, decide_eq_true_eq]
  exact left.millis_le_iff right

theorem Places.isDue (places : row.Places task) (topics : List String) {now : Instant}
    (whole : now.Whole) : TableQueue.isDue row topics now = task.isDue topics now := by
  have status : hasStatus row .pending = decide (task.status = .pending) := by
    rw [hasStatus, places.status]
    exact decide_eq_decide.mpr (by rw [Cell.text.injEq, TaskStatus.name_injective.eq_iff])
  have topic : (topics.any fun topic => decide (row.topic = .text topic)) =
      topics.contains task.topic := by
    rw [Bool.eq_iff_iff, List.any_eq_true, List.contains_iff_mem]
    simp [places.topic]
  rw [TableQueue.isDue, Task.isDue, status, topic, places.startAt, atMost_ofInstant places.whole whole]

/-! ### Coming first -/

theorem lt_bare {kind : IdKind} (a b : Id kind) :
    (Cell.text a.bare).lt (.text b.bare) = a.ulid.lt b.ulid := by
  rw [Bool.eq_iff_iff]
  simp only [Cell.lt, Id.bare, Ulid.lt, decide_eq_true_eq, Ulid.text_lt_text]

/-- Of tasks with one priority and one start the one with the smaller identifier comes first, in a
table as in memory. -/
theorem precedes_ofTask_of_same (priority : task.priority = held.priority)
    (startAt : task.startAt = held.startAt) :
    TableQueue.precedes (ofTask task) (ofTask held) = task.precedes held := by
  have instant : ¬ held.startAt < held.startAt := fun less => by
    rw [Instant.lt_iff] at less
    omega
  have id : (ofTask task).id.lt (ofTask held).id = task.id.ulid.lt held.id.ulid := lt_bare _ _
  rw [TableQueue.precedes, Task.precedes, id]
  simp only [ofTask, ofInstant, Cell.lt, priority, startAt, instant, Int.lt_irrefl, decide_false,
    decide_true, Bool.false_or, Bool.not_false, Bool.true_and]

theorem Places.precedes (places : row.Places task) (placesOther : other.Places held) :
    TableQueue.precedes row other = task.precedes held := by
  have earlier := places.whole.millis_lt_iff placesOther.whole
  have same := places.whole.millis_eq_iff placesOther.whole
  rw [TableQueue.precedes, places.priority, placesOther.priority, places.startAt,
    placesOther.startAt, places.id, placesOther.id, lt_bare]
  show (decide (held.priority < task.priority) || (!decide (task.priority < held.priority) &&
    (decide (task.startAt.millis < held.startAt.millis) ||
      (!decide (held.startAt.millis < task.startAt.millis) && task.id.ulid.lt held.id.ulid)))) = _
  rw [Task.precedes, Bool.eq_iff_iff]
  simp only [Bool.or_eq_true, Bool.and_eq_true, Bool.not_eq_true', decide_eq_true_eq,
    decide_eq_false_iff_not, ← earlier, ← same]
  cases task.id.ulid.lt held.id.ulid
  · simp only [Bool.false_eq_true, and_false, or_false]
    omega
  · simp only [and_true]
    omega

variable {relation : Row → Task → Prop}

/-- Of two rows the one that comes first speaks for the task that comes first. -/
theorem relates_earlier (places : ∀ row task, relation row task → row.Places task)
    (left : relation row task) (right : relation other held) :
    relation (TableQueue.earlier row other) (task.earlier held) := by
  unfold TableQueue.earlier Task.earlier
  rw [(places other held right).precedes (places row task left)]
  split
  · exact right
  · exact left

/-- If rows speak for tasks, then the row that is claimed next speaks for the task that is claimed
next. -/
theorem relates_nextDue? (places : ∀ row task, relation row task → row.Places task)
    {rows : List Row} {tasks : List Task} (related : List.Forall₂ relation rows tasks)
    (topics : List String) {now : Instant} (whole : now.Whole) :
    Option.Rel relation (TableQueue.nextDue? rows topics now)
      (TaskAutomation.nextDue? tasks topics now) := by
  have due : List.Forall₂ relation (rows.filter fun row => TableQueue.isDue row topics now)
      (tasks.filter fun task => task.isDue topics now) := by
    refine List.rel_filter (fun row task same => ?_) related
    exact Bool.eq_iff_iff.mp ((places row task same).isDue topics whole)
  unfold TableQueue.nextDue? TaskAutomation.nextDue?
  generalize rows.filter (fun row => TableQueue.isDue row topics now) = dueRows at due ⊢
  generalize tasks.filter (fun task => task.isDue topics now) = dueTasks at due ⊢
  cases due with
  | nil => exact .none
  | cons first rest =>
    have step : Relator.LiftFun relation (Relator.LiftFun relation relation)
        TableQueue.earlier Task.earlier :=
      fun _ _ left _ _ right => relates_earlier places left right
    exact .some (List.rel_foldl step first rest)

end Row

/-! ### Identifiers and their texts -/

namespace Id

/-- The text of an identifier is faithful: with or without the name of the kind, and in letters of
either case, it reads back as the identifier, and texts are ordered like the numbers they stand for.
So a table, which compares texts, puts tasks with one priority and one start in the order in which
they stand in memory. -/
theorem text_faithful {kind : IdKind} (a b : Id kind) :
    (∀ text : String, text.toList.map Char.toUpper = a.bare.toList →
      read text = .ok a ∧ read (kind.tag ++ text) = .ok a) ∧
    (read a.bare = .ok a ∧ read a.display = .ok a) ∧
    (a.bare < b.bare ↔ a.ulid.value < b.ulid.value) ∧
    ∀ first second : Task, first.priority = second.priority → first.startAt = second.startAt →
      TableQueue.precedes (Row.ofTask first) (Row.ofTask second) = first.precedes second :=
  ⟨fun _ same => read_of_toUpper same, read_of_toUpper a.ulid.map_toUpper_text,
    Ulid.text_lt_text a.ulid b.ulid, fun _ _ => Row.precedes_ofTask_of_same⟩

/-- Letters of both cases stand for the largest identifier, and it is behind the one before it. -/
theorem text_faithful_largest :
    let largest : TaskId := ⟨⟨Ulid.size - 1, by decide⟩⟩
    let former : TaskId := ⟨⟨Ulid.size - 2, by decide⟩⟩
    "7zzzzzzzzzzzzZZZZZZZZZZZZZ".toList.map Char.toUpper = largest.bare.toList ∧
      read "7zzzzzzzzzzzzZZZZZZZZZZZZZ" = .ok largest ∧
      read "task-7zzzzzzzzzzzzZZZZZZZZZZZZZ" = .ok largest ∧
      former.bare < largest.bare := by
  intro largest former
  obtain ⟨reads, -, order, -⟩ := text_faithful former largest
  have same : "7zzzzzzzzzzzzZZZZZZZZZZZZZ".toList.map Char.toUpper = largest.bare.toList := by
    decide +kernel
  obtain ⟨bare, tagged⟩ := (text_faithful largest former).1 _ same
  exact ⟨same, bare, tagged, order.mpr (by decide)⟩

end Id

end TaskAutomation
