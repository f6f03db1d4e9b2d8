import TaskAutomation.Proofs.Queue.Groups

/-!
This file proves that the queue in a table does to its records what `StoredTask.Effect` says, as
long as the rows are as the queue itself writes them and no two of them are of one task. The
constraint on signs takes the place of an index here: it is broken exactly when a row in flight has
the sign of a new row in flight, and that row is then found by its sign.
-/

namespace TaskAutomation

namespace TableQueue

/-! ### Rows of one task -/

/-- Every row is as the queue itself writes it, and no two are of one task. -/
structure Kept (rows : List Row) : Prop where
  each : ∀ row ∈ rows, row.Kept
  distinct : StoredTask.Distinct (rows.map .row)

variable {rows : List Row}

theorem Kept.eq_of_id_eq (kept : Kept rows) {a b : Row} (left : a ∈ rows) (right : b ∈ rows)
    (same : a.id = b.id) : a = b := by
  have distinct := kept.distinct
  rw [StoredTask.Distinct, List.map_map] at distinct
  exact List.inj_on_of_nodup_map distinct left right
    (((kept.each a left).id?_eq_iff (kept.each b right)).mpr same)

/-- Changing the one row of a task is replacing its record. -/
theorem Kept.map_change (kept : Kept rows) {row : Row} (member : row ∈ rows) {id : TaskId}
    (named : (StoredTask.row row).id? = some id) {guard : Row → Bool} {change : Row → Row}
    (chosen : ∀ other ∈ rows, guard other = true ↔ other.id = row.id) :
    (rows.map fun other => if guard other then change other else other).map StoredTask.row =
      StoredTask.replace (rows.map .row) id (.row (change row)) := by
  rw [StoredTask.replace, List.map_map, List.map_map]
  refine List.map_congr_left fun other inside => ?_
  have same : (StoredTask.row other).id? = some id ↔ guard other = true := by
    rw [chosen other inside, ← named]
    exact (kept.each other inside).id?_eq_iff (kept.each row member)
  show StoredTask.row (if guard other then change other else other) =
    if (StoredTask.row other).id? = some id then .row (change row) else .row other
  by_cases picked : guard other = true
  · rw [if_pos picked, if_pos (same.mpr picked),
      kept.eq_of_id_eq inside member ((chosen other inside).mp picked)]
  · rw [if_neg picked, if_neg fun named => picked (same.mp named)]

theorem forall_kept_map (each : ∀ row ∈ rows, row.Kept) {guard : Row → Bool} {change : Row → Row}
    (changed : ∀ row : Row, row.Kept → (change row).Kept) :
    ∀ row ∈ rows.map fun other => if guard other then change other else other, row.Kept := by
  intro row member
  obtain ⟨other, inside, rfl⟩ := List.mem_map.mp member
  split
  · exact changed other (each other inside)
  · exact each other inside

theorem find?_eq_some {table : TableQueue} (each : ∀ row ∈ table.rows, row.Kept) {id : TaskId}
    {row : Row} (found : table.find? id = some row) :
    row ∈ table.rows ∧ (StoredTask.row row).id? = some id := by
  have chosen := List.find?_some found
  have member := List.mem_of_find?_eq_some found
  exact ⟨member, ((each row member).id?_eq_some_iff id).mpr (of_decide_eq_true chosen)⟩

theorem find?_eq_none {table : TableQueue} (each : ∀ row ∈ table.rows, row.Kept) {id : TaskId}
    (missing : table.find? id = none) :
    ∀ record ∈ table.rows.map StoredTask.row, record.id? ≠ some id := by
  intro record member named
  obtain ⟨row, inside, rfl⟩ := List.mem_map.mp member
  exact List.find?_eq_none.mp missing row inside
    (decide_eq_true (((each row inside).id?_eq_some_iff id).mp named))

/-! ### The next row that is due -/

theorem mem_of_nextDue? {topics : List String} {now : Instant} {row : Row}
    (found : nextDue? rows topics now = some row) :
    row ∈ rows ∧ isDue row topics now = true := by
  have choice (a b : Row) : earlier a b = a ∨ earlier a b = b := by
    unfold earlier
    split
    · exact Or.inr rfl
    · exact Or.inl rfl
  unfold nextDue? at found
  split at found
  · cases found
  · next start rest due =>
    have member := foldl_choice_mem choice start rest
    rw [Option.some.inj found, ← due] at member
    exact List.mem_filter.mp member

theorem isDue_eq_false_of_nextDue? {topics : List String} {now : Instant}
    (none : nextDue? rows topics now = none) : ∀ row ∈ rows, isDue row topics now = false := by
  unfold nextDue? at none
  split at none
  · next empty => simpa using empty
  · cases none

/-! ### The constraint on signs -/

theorem any_holder_iff (rows : List Row) (sign : String) :
    (rows.any fun other => isInFlight other && other.collisionSign = .text sign) = true ↔
      ∃ other ∈ rows, (StoredTask.row other).Holds sign := by
  simp only [List.any_eq_true, Bool.and_eq_true, decide_eq_true_eq, Row.isInFlight_iff,
    ← Row.sign?_eq_some_iff, StoredTask.Holds, and_comm]

theorem conflict?_ofTask (each : ∀ row ∈ rows, row.Kept) (task : Task)
    (fresh : ∀ row ∈ rows, (StoredTask.row row).id? ≠ some task.id) :
    conflict? rows (Row.ofTask task) =
      if (Row.ofTask task).collisionSign ≠ .null ∧ isInFlight (Row.ofTask task) ∧
          rows.any fun other =>
            isInFlight other && other.collisionSign = (Row.ofTask task).collisionSign then
        some "UNIQUE constraint failed: tasks.collision_sign"
      else none := by
  refine if_neg fun taken => ?_
  obtain ⟨other, inside, same⟩ := List.any_eq_true.mp taken.2
  exact fresh other inside (((each other inside).id?_eq_some_iff task.id).mpr
    (of_decide_eq_true same))

theorem insert_of_free (each : ∀ row ∈ rows, row.Kept) (task : Task)
    (fresh : ∀ row ∈ rows, (StoredTask.row row).id? ≠ some task.id)
    (free : task.status.isInFlight = true → ∀ sign, task.collisionSign = some sign →
      ∀ row ∈ rows, ¬ (StoredTask.row row).Holds sign) :
    insert ⟨rows⟩ (Row.ofTask task) = .ok ⟨rows ++ [Row.ofTask task]⟩ := by
  have allowed : conflict? rows (Row.ofTask task) = none := by
    rw [conflict?_ofTask each task fresh]
    refine if_neg fun broken => ?_
    obtain ⟨present, inFlight, held⟩ := broken
    cases signed : task.collisionSign with
    | none => exact present (Row.ofText?_eq_null.mpr signed)
    | some sign =>
      rw [show (Row.ofTask task).collisionSign = .text sign from Row.ofText?_eq_text.mpr signed]
        at held
      obtain ⟨other, inside, holds⟩ := (any_holder_iff rows sign).mp held
      rw [Row.isInFlight_iff, StoredTask.IsInFlight, Row.status?_ofTask] at inFlight
      refine free ?_ sign signed other inside holds
      obtain state | state := inFlight <;> rw [Option.some.inj state] <;> rfl
  rw [insert, allowed]

theorem insert_of_held (each : ∀ row ∈ rows, row.Kept) (task : Task)
    (fresh : ∀ row ∈ rows, (StoredTask.row row).id? ≠ some task.id)
    (inFlight : task.status.isInFlight = true) {sign : String}
    (signed : task.collisionSign = some sign) {holder : Row} (member : holder ∈ rows)
    (holds : (StoredTask.row holder).Holds sign) :
    ∃ why, insert ⟨rows⟩ (Row.ofTask task) = .error why := by
  refine ⟨"UNIQUE constraint failed: tasks.collision_sign", ?_⟩
  have cell : (Row.ofTask task).collisionSign = .text sign := Row.ofText?_eq_text.mpr signed
  have refused : conflict? rows (Row.ofTask task) =
      some "UNIQUE constraint failed: tasks.collision_sign" := by
    rw [conflict?_ofTask each task fresh, cell]
    refine if_pos ⟨nofun, ?_, (any_holder_iff rows sign).mpr ⟨holder, member, holds⟩⟩
    rw [Row.isInFlight_iff, StoredTask.IsInFlight, Row.status?_ofTask]
    exact (StoredTask.isInFlight_task task).mpr inFlight
  rw [insert, refused]

theorem holder?_of_held (each : ∀ row ∈ rows, row.Kept) {sign : String} {holder : Row}
    (member : holder ∈ rows) (holds : (StoredTask.row holder).Holds sign) :
    ∃ row ∈ rows, ∃ id, (StoredTask.row row).Holds sign ∧ (StoredTask.row row).id? = some id ∧
      holder? ⟨rows⟩ sign = .ok (some id) := by
  have matched (row : Row) : (decide (row.collisionSign = .text sign) && isInFlight row) = true ↔
      (StoredTask.row row).Holds sign := by
    rw [Bool.and_eq_true, decide_eq_true_eq, Row.isInFlight_iff, ← Row.sign?_eq_some_iff]
    rfl
  cases found : rows.find? fun row => row.collisionSign = .text sign && isInFlight row with
  | none => exact absurd ((matched holder).mpr holds) (List.find?_eq_none.mp found holder member)
  | some row =>
    have chosen := List.find?_some found
    have inside := List.mem_of_find?_eq_some found
    obtain ⟨id, named⟩ := (each row inside).id
    refine ⟨row, inside, id, (matched row).mp chosen,
      ((each row inside).id?_eq_some_iff id).mpr named, ?_⟩
    simp only [holder?, found, Row.text_eq_ok.mpr named, bind, Except.bind, Row.taskId_bare]
    rfl

/-! ### The operations -/

section

variable {table : TableQueue}

/-- A push whose sign is free adds the row of the new task. -/
theorem push_of_free (each : ∀ row ∈ table.rows, row.Kept) {id : TaskId} {now : Instant}
    {handler : String} {params : Json} {options : PushOptions}
    (fresh : ∀ row ∈ table.rows, (StoredTask.row row).id? ≠ some id)
    (free : ∀ sign, options.collisionSign = some sign →
      ∀ row ∈ table.rows, ¬ (StoredTask.row row).Holds sign) :
    table.push id now handler params options =
      (.ok (.queued (Task.new id handler params options now)),
        ⟨table.rows ++ [Row.ofTask (Task.new id handler params options now)]⟩) := by
  have inserted := insert_of_free each (Task.new id handler params options now) fresh
    fun _ => free
  unfold push
  simp only [inserted]

/-- A push whose sign is held breaks the constraint, and the new task is kept as a collision with
the one that is then found. -/
theorem push_of_held (each : ∀ row ∈ table.rows, row.Kept) {id : TaskId} (now : Instant)
    (handler : String) (params : Json) {options : PushOptions}
    (fresh : ∀ row ∈ table.rows, (StoredTask.row row).id? ≠ some id) {sign : String}
    (signed : options.collisionSign = some sign) {holder : Row} (member : holder ∈ table.rows)
    (holds : (StoredTask.row holder).Holds sign) :
    ∃ row ∈ table.rows, ∃ existing, (StoredTask.row row).Holds sign ∧
      (StoredTask.row row).id? = some existing ∧
      table.push id now handler params options =
        (.ok (.collided ((Task.new id handler params options now).collide existing) existing),
          ⟨table.rows ++
            [Row.ofTask ((Task.new id handler params options now).collide existing)]⟩) := by
  obtain ⟨row, inside, existing, carries, named, looked⟩ := holder?_of_held each member holds
  obtain ⟨why, refused⟩ := insert_of_held each (Task.new id handler params options now)
    fresh rfl signed member holds
  have inserted := insert_of_free each
    ((Task.new id handler params options now).collide existing) fresh nofun
  have collided : table.pushCollision (Task.new id handler params options now) sign =
      .ok (.collided ((Task.new id handler params options now).collide existing) existing,
        ⟨table.rows ++
          [Row.ofTask ((Task.new id handler params options now).collide existing)]⟩) := by
    unfold pushCollision
    simp only [looked, bind, Except.bind, inserted]
  refine ⟨row, inside, existing, carries, named, ?_⟩
  unfold push
  simp only [refused, show (Task.new id handler params options now).collisionSign = some sign
    from signed, collided]

theorem push_effect (kept : Kept table.rows) (id : TaskId) (now : Instant) (handler : String)
    (params : Json) (options : PushOptions)
    (fresh : ∀ row ∈ table.rows, (StoredTask.row row).id? ≠ some id) :
    StoredTask.Effect (table.rows.map .row) (.push id now handler params options)
        ((table.push id now handler params options).1.map .pushed)
        ((table.push id now handler params options).2.rows.map .row) ∧
      ∀ row ∈ (table.push id now handler params options).2.rows, row.Kept := by
  have grown (task : Task) : ∀ row ∈ table.rows ++ [Row.ofTask task], row.Kept := by
    intro row member
    obtain before | added := List.mem_append.mp member
    · exact kept.each row before
    · rw [List.mem_singleton.mp added]
      exact Row.kept_ofTask task
  by_cases held : ∃ sign, options.collisionSign = some sign ∧
      ∃ row ∈ table.rows, (StoredTask.row row).Holds sign
  · obtain ⟨sign, signed, holder, member, holds⟩ := held
    obtain ⟨row, inside, existing, carries, named, pushed⟩ :=
      push_of_held kept.each now handler params fresh signed member holds
    rw [pushed]
    refine ⟨?_, grown _⟩
    rw [List.map_append]
    exact .collided _ _ _ _ _ sign (.row row) existing _ signed
      (List.mem_map.mpr ⟨row, inside, rfl⟩) carries named (Or.inr rfl)
  · have free : ∀ sign, options.collisionSign = some sign →
        ∀ row ∈ table.rows, ¬ (StoredTask.row row).Holds sign := fun sign signed row member holds =>
      held ⟨sign, signed, row, member, holds⟩
    rw [push_of_free kept.each fresh free]
    refine ⟨?_, grown _⟩
    rw [List.map_append]
    refine .queued _ _ _ _ _ _ (fun sign signed record member => ?_) (Or.inr rfl)
    obtain ⟨row, inside, rfl⟩ := List.mem_map.mp member
    exact free sign signed row inside

/-! ### Claims and reports -/

theorem claim_idle {topics : List String} {now : Instant}
    (idle : nextDue? table.rows topics now = none) : table.claim topics now = (.ok none, table) := by
  unfold claim
  rw [idle]

theorem claim_due {topics : List String} {now : Instant} {row : Row}
    (due : nextDue? table.rows topics now = some row) (present : row.id ≠ .null) :
    table.claim topics now =
      ((TableQueue.claimed row now).task.map some,
        ⟨table.rows.map fun other =>
          if decide (other.id = row.id) then TableQueue.claimed other now else other⟩) := by
  simp only [claim, due, if_neg present, decide_eq_true_eq]

theorem claim_effect (kept : Kept table.rows) (topics : List String) (now : Instant) :
    StoredTask.Effect (table.rows.map .row) (.claim topics now)
        ((table.claim topics now).1.map .claimed) ((table.claim topics now).2.rows.map .row) ∧
      ∀ row ∈ (table.claim topics now).2.rows, row.Kept := by
  cases next : nextDue? table.rows topics now with
  | none =>
    rw [claim_idle next]
    refine ⟨.unclaimed _ _ fun record member => ?_, kept.each⟩
    obtain ⟨row, inside, rfl⟩ := List.mem_map.mp member
    exact isDue_eq_false_of_nextDue? next row inside
  | some row =>
    obtain ⟨member, due⟩ := mem_of_nextDue? next
    obtain ⟨id, named⟩ := (kept.each row member).exists_id?
    have present : row.id ≠ .null := by
      rw [((kept.each row member).id?_eq_some_iff id).mp named]
      exact nofun
    have answer : ((TableQueue.claimed row now).task.map some).map QueueAnswer.claimed =
        ((StoredTask.row row).claimed now).read.map fun task => .claimed (some task) := by
      show _ = (TableQueue.claimed row now).task.map _
      cases (TableQueue.claimed row now).task <;> rfl
    rw [claim_due next present]
    refine ⟨?_, forall_kept_map kept.each fun row each => each.claimed now⟩
    rw [kept.map_change member named fun other _ => decide_eq_true_iff, answer]
    exact .claimed _ _ id (.row row) (List.mem_map.mpr ⟨row, member, rfl⟩) named due

theorem settle_absent {report : RunReport} (apply : Task → Task)
    (missing : table.find? report.id = none) :
    table.settle report apply = (.error (.notFound report.id.display), table) := by
  unfold settle
  rw [missing]

theorem settle_unreadable {report : RunReport} (apply : Task → Task) {row : Row}
    {fault : StoreFault} (found : table.find? report.id = some row)
    (read : row.task = .error fault) : table.settle report apply = (.error fault, table) := by
  simp only [settle, found, read]

theorem settle_unheld {report : RunReport} (apply : Task → Task) {row : Row} {task : Task}
    (found : table.find? report.id = some row) (read : row.task = .ok task)
    (unheld : task.status ≠ .process) :
    table.settle report apply = (.error (.notInProcess report.id), table) := by
  simp only [settle, found, read, ne_eq, unheld, not_false_eq_true, if_true]

theorem settle_process {report : RunReport} (apply : Task → Task) {row : Row} {task : Task}
    (found : table.find? report.id = some row) (read : row.task = .ok task)
    (process : task.status = .process) :
    table.settle report apply =
      (.ok (apply (task.absorb report)),
        ⟨table.rows.map fun other =>
          if decide (other.id = row.id) && hasStatus other .process then
            TableQueue.settled other (apply (task.absorb report))
          else other⟩) := by
  simp only [settle, found, read, process, ne_eq, not_true_eq_false, if_false]

theorem settle_effect (kept : Kept table.rows) {operation : QueueOperation} {report : RunReport}
    {apply : Task → Task} (reports : operation.settlement? = some (report, apply)) :
    StoredTask.Effect (table.rows.map .row) operation ((table.settle report apply).1.map .settled)
        ((table.settle report apply).2.rows.map .row) ∧
      ∀ row ∈ (table.settle report apply).2.rows, row.Kept := by
  cases looked : table.find? report.id with
  | none =>
    rw [settle_absent apply looked]
    exact ⟨.absent _ _ _ reports (find?_eq_none kept.each looked), kept.each⟩
  | some row =>
    obtain ⟨member, named⟩ := find?_eq_some kept.each looked
    have stored : StoredTask.row row ∈ table.rows.map .row := List.mem_map.mpr ⟨row, member, rfl⟩
    cases read : row.task with
    | error fault =>
      rw [settle_unreadable apply looked read]
      exact ⟨.unreadable _ _ _ (.row row) fault reports stored named read, kept.each⟩
    | ok task =>
      by_cases process : task.status = .process
      · have state : hasStatus row .process = true := by
          rw [Row.hasStatus_iff, (Row.reads_of_task_eq_ok read).status, process]
        have guarded (other : Row) (inside : other ∈ table.rows) :
            (decide (other.id = row.id) && hasStatus other .process) = true ↔
              other.id = row.id := by
          rw [Bool.and_eq_true, decide_eq_true_eq]
          refine ⟨And.left, fun same => ⟨same, ?_⟩⟩
          rw [kept.eq_of_id_eq inside member same]
          exact state
        rw [settle_process apply looked read process]
        refine ⟨?_, forall_kept_map kept.each fun row each => each.settled _⟩
        rw [kept.map_change member named guarded]
        exact .settled _ _ _ (.row row) task reports stored named read process
      · rw [settle_unheld apply looked read process]
        exact ⟨.unheld _ _ _ (.row row) task reports stored named read process, kept.each⟩

theorem get_effect (each : ∀ row ∈ table.rows, row.Kept) (id : TaskId) :
    StoredTask.Effect (table.rows.map .row) (.get id) ((table.get id).map .found)
      (table.rows.map .row) := by
  cases looked : table.find? id with
  | none =>
    rw [get, looked]
    exact .notFound id (find?_eq_none each looked)
  | some row =>
    obtain ⟨member, named⟩ := find?_eq_some each looked
    have answer : (table.get id).map QueueAnswer.found =
        (StoredTask.row row).read.map fun task => .found (some task) := by
      simp only [get, looked, StoredTask.read]
      cases row.task <;> rfl
    rw [answer]
    exact .found id (.row row) (List.mem_map.mpr ⟨row, member, rfl⟩) named

theorem counts_effect (each : ∀ row ∈ table.rows, row.Kept) :
    StoredTask.Effect (table.rows.map .row) .counts (table.counts.map .counted)
      (table.rows.map .row) := by
  obtain ⟨counts, counted, numbers⟩ := counts_eq_ok each
  rw [counted]
  exact .counted counts numbers

theorem reap_effect (each : ∀ row ∈ table.rows, row.Kept) (now cutoff : Instant) :
    StoredTask.Effect (table.rows.map .row) (.reap now cutoff)
        (.ok (.changed (table.reap now cutoff).1)) ((table.reap now cutoff).2.rows.map .row) ∧
      ∀ row ∈ (table.reap now cutoff).2.rows, row.Kept := by
  refine ⟨?_, forall_kept_map each fun row own => own.reaped now⟩
  exact .reaped_map table.rows (fun _ => rfl) fun _ => rfl

theorem purge_effect (each : ∀ row ∈ table.rows, row.Kept) (before : Instant) :
    StoredTask.Effect (table.rows.map .row) (.purge before)
        (.ok (.changed (table.purge before).1)) ((table.purge before).2.rows.map .row) ∧
      ∀ row ∈ (table.purge before).2.rows, row.Kept := by
  refine ⟨?_, fun row member => each row (List.mem_filter.mp member).1⟩
  exact .purged_map table.rows fun _ => rfl

end

end TableQueue

end TaskAutomation
