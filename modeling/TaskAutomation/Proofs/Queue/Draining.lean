import TaskAutomation.Proofs.Queue.Placement
import TaskAutomation.Proofs.Queue.Precedence
import TaskAutomation.Proofs.Queue.Readable

/-!
This file proves that claims drain a queue in order. At one time and on some topics, the tasks that are
due stand in a line, ordered by their ranks. A claim hands out the head of the line, and what it leaves
behind is a queue where the rest of the line is due: the task that was handed out is in process, and no
other one has changed. So claims with nothing in between hand out the whole line from the front, and
then nothing any more.
-/

namespace TaskAutomation

/-! ### The line of the tasks that are due -/

namespace Task

variable {tasks waiting rest : List Task} {topics : List String} {now : Instant} {first : Task}

theorem isDue_iff (task : Task) : task.isDue topics now = true ↔
    task.status = .pending ∧ task.topic ∈ topics ∧ task.startAt ≤ now := by
  simp only [isDue, Bool.and_eq_true, decide_eq_true_eq, List.contains_iff_mem]
  constructor
  · rintro ⟨⟨pending, started⟩, topic⟩
    exact ⟨pending, topic, started⟩
  · rintro ⟨pending, topic, started⟩
    exact ⟨⟨pending, started⟩, topic⟩

/-- The tasks that are pending on one of the topics and have started by now, each once, the smallest
rank first. -/
structure InLine (tasks waiting : List Task) (topics : List String) (now : Instant) : Prop where
  mem_iff : ∀ task, task ∈ waiting ↔
    task ∈ tasks ∧ task.status = .pending ∧ task.topic ∈ topics ∧ task.startAt ≤ now
  ascending : waiting.Pairwise fun a b => a.rank < b.rank

theorem InLine.mem_iff_isDue (line : InLine tasks waiting topics now) (task : Task) :
    task ∈ waiting ↔ task ∈ tasks ∧ task.isDue topics now = true := by
  rw [line.mem_iff, isDue_iff]

/-- The tasks of a queue that are due can be put in a line. -/
theorem exists_inLine (distinct : (tasks.map id).Nodup) (topics : List String) (now : Instant) :
    ∃ waiting, InLine tasks waiting topics now := by
  let due := tasks.filter fun task => task.isDue topics now
  let atMost (a b : Task) : Bool := decide (a.rank ≤ b.rank)
  have sorted : (due.mergeSort atMost).Pairwise fun a b => atMost a b = true := by
    refine List.pairwise_mergeSort (fun a b c first second => ?_) (fun a b => ?_) due
    · exact decide_eq_true (le_trans (of_decide_eq_true first) (of_decide_eq_true second))
    · simpa only [atMost, Bool.or_eq_true, decide_eq_true_eq] using le_total a.rank b.rank
  have apart : (due.mergeSort atMost).Pairwise fun a b => a.id ≠ b.id := by
    have dueApart : (due.map id).Nodup := distinct.sublist (List.filter_sublist.map id)
    exact List.pairwise_map.mp (((List.mergeSort_perm due atMost).map id).nodup_iff.mpr dueApart)
  refine ⟨due.mergeSort atMost, fun task => ?_, (sorted.and apart).imp ?_⟩
  · rw [List.mem_mergeSort, List.mem_filter, isDue_iff]
  · rintro a b ⟨atMost, different⟩
    exact lt_of_le_of_ne (of_decide_eq_true atMost) fun same => different (id_eq_of_rank_eq same)

/-- Where no task is in line, none is found. -/
theorem InLine.nextDue?_nil (line : InLine tasks [] topics now) : nextDue? tasks topics now = none := by
  cases found : nextDue? tasks topics now with
  | none => rfl
  | some task =>
    exact absurd ((line.mem_iff_isDue task).mpr (mem_of_nextDue? found)) List.not_mem_nil

/-- The head of the line is the task that is found. -/
theorem InLine.nextDue?_cons (line : InLine tasks (first :: rest) topics now)
    (distinct : (tasks.map id).Nodup) : nextDue? tasks topics now = some first := by
  obtain ⟨member, due⟩ := (line.mem_iff_isDue first).mp List.mem_cons_self
  refine (nextDue?_eq_some_iff distinct).mpr ⟨member, due, fun other inside ready different => ?_⟩
  have listed := (line.mem_iff_isDue other).mpr ⟨inside, ready⟩
  obtain rfl | behind := List.mem_cons.mp listed
  · exact absurd rfl different
  · exact (precedes_iff first other).mpr ((List.pairwise_cons.mp line.ascending).1 other behind)

/-- No other task in line has the identifier of the head. -/
theorem InLine.id_ne (line : InLine tasks (first :: rest) topics now) (distinct : (tasks.map id).Nodup)
    {task : Task} (behind : task ∈ rest) : task.id ≠ first.id := by
  intro same
  have inside := ((line.mem_iff task).mp (List.mem_cons_of_mem first behind)).1
  have head := ((line.mem_iff first).mp List.mem_cons_self).1
  have before := (List.pairwise_cons.mp line.ascending).1 task behind
  rw [MemoryQueue.eq_of_id_eq distinct inside head same] at before
  exact lt_irrefl _ before

/-- The tasks after a claim on one of them. -/
def afterClaim (tasks : List Task) (held : Task) (now : Instant) : List Task :=
  tasks.map fun other => if other.id = held.id then held.claimed now else other

/-- A claim on the head leaves the rest of the line. -/
theorem InLine.afterClaim (line : InLine tasks (first :: rest) topics now)
    (distinct : (tasks.map id).Nodup) : InLine (afterClaim tasks first now) rest topics now := by
  refine ⟨fun task => ⟨fun behind => ?_, ?_⟩, (List.pairwise_cons.mp line.ascending).2⟩
  · obtain ⟨inside, due⟩ := (line.mem_iff task).mp (List.mem_cons_of_mem first behind)
    exact ⟨List.mem_map.mpr ⟨task, inside, if_neg (line.id_ne distinct behind)⟩, due⟩
  · rintro ⟨inside, pending, due⟩
    obtain ⟨former, before, rfl⟩ := List.mem_map.mp inside
    split at pending
    · cases pending
    · next other =>
      rw [if_neg other] at due ⊢
      obtain rfl | behind := List.mem_cons.mp ((line.mem_iff former).mpr ⟨before, pending, due⟩)
      · exact absurd rfl other
      · exact behind

end Task

/-! ### Records and the tasks that are read from them -/

namespace StoredTask

/-- The record with a claim made on it, if it is of one of the given tasks. -/
def claimedAmong (claimed : List Task) (now : Instant) (record : StoredTask) : StoredTask :=
  if record.id? ∈ claimed.map fun task => some task.id then record.claimed now else record

@[simp] theorem id?_claimedAmong (claimed : List Task) (now : Instant) (record : StoredTask) :
    (record.claimedAmong claimed now).id? = record.id? := by
  unfold claimedAmong
  split
  · exact id?_claimed record now
  · rfl

/-- Claims on a task and then on others are claims on all of them. -/
theorem claimedAmong_cons {first : Task} {others : List Task}
    (apart : ∀ task ∈ others, task.id ≠ first.id) (now : Instant) (record : StoredTask) :
    (record.claimedAmong [first] now).claimedAmong others now =
      record.claimedAmong (first :: others) now := by
  have renamed := id?_claimedAmong [first] now record
  by_cases head : record.id? = some first.id
  · have elsewhere : (record.claimedAmong [first] now).id? ∉ others.map fun task => some task.id := by
      rw [renamed, head]
      intro listed
      obtain ⟨task, inside, same⟩ := List.mem_map.mp listed
      exact apart task inside (Option.some.inj same)
    rw [claimedAmong, if_neg elsewhere]
    simp [claimedAmong, head]
  · have same : record.claimedAmong [first] now = record := by simp [claimedAmong, head]
    rw [same]
    simp [claimedAmong, head]

end StoredTask

namespace Backend

open StoredTask

/-- A queue in order whose records are read as tasks; in a table claims are made at whole
milliseconds. -/
structure Lists (backend : Backend) (tasks : List Task) (now : Instant) : Prop where
  inOrder : backend.InOrder
  distinct : Distinct backend.records
  read : List.Forall₂ (fun record task => record.read = .ok task) backend.records tasks
  within : backend.storage = .table → ∀ record ∈ backend.records, record.Within .readable
  time : backend.storage = .table → Limits.exact.time now

variable {backend : Backend} {tasks waiting : List Task} {topics : List String} {now : Instant}
  {held : Task}

theorem exists_forall₂_read {records : List StoredTask}
    (readable : ∀ record ∈ records, ∃ task, record.read = .ok task) :
    ∃ tasks, List.Forall₂ (fun record task => record.read = .ok task) records tasks := by
  induction records with
  | nil => exact ⟨[], .nil⟩
  | cons record rest inductionHypothesis =>
    rw [List.forall_mem_cons] at readable
    obtain ⟨⟨task, read⟩, others⟩ := readable
    obtain ⟨tasks, reads⟩ := inductionHypothesis others
    exact ⟨task :: tasks, .cons read reads⟩

theorem Lists.ids_eq (lists : backend.Lists tasks now) :
    backend.records.map id? = tasks.map fun task => some task.id := by
  rw [← List.forall₂_eq_eq_eq, List.forall₂_map_left_iff, List.forall₂_map_right_iff]
  exact lists.read.imp fun _ _ read => (read_eq_ok read).1

theorem Lists.map_read (lists : backend.Lists tasks now) :
    backend.records.map StoredTask.read = tasks.map .ok := by
  rw [← List.forall₂_eq_eq_eq, List.forall₂_map_left_iff, List.forall₂_map_right_iff]
  exact lists.read

theorem Lists.exists_record (lists : backend.Lists tasks now) {task : Task} (member : task ∈ tasks) :
    ∃ record ∈ backend.records, record.read = .ok task := by
  have listed : .ok task ∈ backend.records.map StoredTask.read :=
    lists.map_read ▸ List.mem_map.mpr ⟨task, member, rfl⟩
  exact List.mem_map.mp listed

theorem Lists.nodup_ids (lists : backend.Lists tasks now) : (tasks.map Task.id).Nodup := by
  have distinct := lists.distinct
  rw [Distinct, lists.ids_eq] at distinct
  refine List.Nodup.of_map some ?_
  rw [List.map_map]
  exact distinct

/-- What is written in a row and read from it is the same to a claim. -/
def Written (row : Row) (task : Task) : Prop :=
  ∃ written : Task, written.Within .readable ∧ row = .ofTask written ∧ task = written.stored

theorem Written.places {row : Row} {task : Task} (written : Written row task) : row.Places task := by
  obtain ⟨written, -, rfl, rfl⟩ := written
  refine ⟨rfl, rfl, rfl, rfl, ?_, Instant.whole_floorMillis written.startAt⟩
  show Cell.integer written.startAt.millis = Cell.integer written.startAt.floorMillis.millis
  rw [Instant.millis_floorMillis]

/-- A row with a claim made on it is read as the task with the claim made on it. -/
theorem Written.claimed {row : Row} {task : Task} (written : Written row task)
    (time : Limits.exact.time now) (room : task.attempt + 1 < Word.size32) :
    (TableQueue.claimed row now).task = .ok (task.claimed now) := by
  obtain ⟨written, within, rfl, rfl⟩ := written
  rw [Row.claimed_ofTask within.attempt, Row.task_ofTask (within.claimed time.1 room)]
  show Except.ok { written.stored.claimed now with updatedAt := now.floorMillis } = _
  rw [time.2.floorMillis_eq]
  rfl

/-- The rows of a table were written from tasks that are read from them. -/
theorem Lists.written {kept : TableQueue} (lists : (table kept).Lists tasks now) :
    List.Forall₂ Written kept.rows tasks := by
  have read := (List.forall₂_and_left _ _).mpr ⟨lists.within rfl, lists.read⟩
  refine (List.forall₂_map_left_iff.mp read).imp fun row task => ?_
  rintro ⟨⟨written, within, absurd | same⟩, reads⟩
  · cases absurd
  · cases same
    exact ⟨written, within, rfl, (Except.ok.inj (reads.symm.trans (Row.task_ofTask within)))⟩

/-- The tasks in memory are read as they are. -/
theorem Lists.tasks_eq {queue : MemoryQueue} (lists : (memory queue).Lists tasks now) :
    queue.tasks = tasks := by
  have read := List.forall₂_map_left_iff.mp lists.read
  rw [← List.forall₂_eq_eq_eq]
  exact read.imp fun _ _ same => Except.ok.inj same

/-! ### One claim -/

/-- A claim for which no task is due leaves the queue as it is. -/
theorem Lists.step_idle (lists : backend.Lists tasks now)
    (idle : nextDue? tasks topics now = none) :
    backend.step (.claim topics now) = (.ok (.claimed none), backend) := by
  cases backend with
  | memory queue =>
    rw [← lists.tasks_eq] at idle
    show ((Except.ok (queue.claim topics now).1 : Except StoreFault _).map _,
      memory (queue.claim topics now).2) = _
    rw [MemoryQueue.claim_idle idle]
    rfl
  | table kept =>
    have found := Row.relates_nextDue? (fun _ _ => Written.places) lists.written topics
      (lists.time rfl).2
    rw [idle] at found
    have none : TableQueue.nextDue? kept.rows topics now = none := by
      generalize TableQueue.nextDue? kept.rows topics now = row at found ⊢
      cases found
      rfl
    show ((kept.claim topics now).1.map _, table (kept.claim topics now).2) = _
    rw [TableQueue.claim_idle none]
    rfl

/-- A claim hands out the task that is found. -/
theorem Lists.reply_due (lists : backend.Lists tasks now)
    (found : nextDue? tasks topics now = some held)
    (room : backend.storage = .table → held.attempt + 1 < Word.size32) :
    (backend.step (.claim topics now)).1 = .ok (.claimed (some (held.claimed now))) := by
  cases backend with
  | memory queue =>
    rw [← lists.tasks_eq] at found
    show (Except.ok (queue.claim topics now).1 : Except StoreFault _).map _ = _
    rw [MemoryQueue.claim_due found]
    rfl
  | table kept =>
    have related := Row.relates_nextDue? (fun _ _ => Written.places) lists.written topics
      (lists.time rfl).2
    rw [found] at related
    obtain ⟨row, next, written⟩ : ∃ row, TableQueue.nextDue? kept.rows topics now = some row ∧
        Written row held := by
      generalize TableQueue.nextDue? kept.rows topics now = row at related ⊢
      cases related with
      | some written => exact ⟨_, rfl, written⟩
    have present : row.id ≠ .null := by
      rw [written.places.id]
      exact nofun
    show (kept.claim topics now).1.map _ = _
    rw [TableQueue.claim_due next present, written.claimed (lists.time rfl) (room rfl)]
    rfl

/-- A claim makes a claim on the record of the task that it hands out, changes no other record, and
the records are read as the tasks after the claim. -/
theorem Lists.step_due (lists : backend.Lists tasks now)
    (found : nextDue? tasks topics now = some held)
    (room : backend.storage = .table → held.attempt + 1 < Word.size32) :
    (backend.step (.claim topics now)).2.records = backend.records.map (claimedAmong [held] now) ∧
      (backend.step (.claim topics now)).2.Lists (Task.afterClaim tasks held now) now := by
  obtain ⟨effect, inOrder⟩ := step_effect lists.inOrder lists.distinct (.claim topics now) nofun
  rw [lists.reply_due found room] at effect
  obtain ⟨record, member, named, -, read, replaced⟩ := effect.claim_inv
  change record.id? = some held.id at named
  change _ = replace backend.records held.id _ at replaced
  have sole {other : StoredTask} (inside : other ∈ backend.records)
      (same : other.id? = some held.id) : other = record :=
    lists.distinct.eq_of_id?_eq inside member (same.trans named.symm)
  have records : (backend.step (.claim topics now)).2.records =
      backend.records.map (claimedAmong [held] now) := by
    rw [replaced, replace]
    refine List.map_congr_left fun other inside => ?_
    by_cases same : other.id? = some held.id
    · rw [if_pos same, sole inside same]
      simp [claimedAmong, named]
    · rw [if_neg same]
      simp [claimedAmong, same]
  refine ⟨records, inOrder, ?_, ?_, fun stored => ?_, fun stored => ?_⟩
  · rw [Distinct, records, List.map_map]
    exact (List.map_congr_left fun other _ => id?_claimedAmong [held] now other) ▸ lists.distinct
  · rw [records, Task.afterClaim, List.forall₂_map_left_iff, List.forall₂_map_right_iff]
    refine ((List.forall₂_and_left _ _).mpr ⟨fun _ inside => inside, lists.read⟩).imp ?_
    rintro other task ⟨inside, reads⟩
    have carries := (read_eq_ok reads).1
    by_cases same : task.id = held.id
    · rw [same] at carries
      rw [if_pos same, sole inside carries]
      simp only [claimedAmong, named, List.map_cons, List.map_nil, List.mem_singleton, if_true]
      exact read
    · have different : other.id? ≠ some held.id := by
        rw [carries]
        exact fun equal => same (Option.some.inj equal)
      rw [if_neg same]
      simpa [claimedAmong, different] using reads
  · rw [storage_step] at stored
    rw [records]
    intro changed inside
    obtain ⟨other, before, rfl⟩ := List.mem_map.mp inside
    unfold claimedAmong
    split
    · next listed =>
      rw [sole before (by simpa using listed)]
      obtain ⟨written, within, own⟩ := lists.within stored record member
      have claimed := isOf_claimed within own now
      have attempts : written.attempt = held.attempt := by
        have after := (read_eq_ok read).2.2.2
        rw [attempt?_of_isOf claimed] at after
        exact Nat.succ.inj (Int.ofNat_inj.mp (Option.some.inj after))
      have fits : written.attempt + 1 < Word.size32 := attempts ▸ room stored
      exact ⟨_, within.claimed (lists.time stored).1 fits, claimed⟩
    · exact lists.within stored other before
  · rw [storage_step] at stored
    exact lists.time stored

/-! ### Claims one after the other -/

/-- Claims with nothing in between hand out the line from the front and then nothing, and change no
record but those of the tasks that they hand out. -/
theorem Lists.run_claims (lists : backend.Lists tasks now)
    (line : Task.InLine tasks waiting topics now)
    (room : backend.storage = .table → ∀ task ∈ waiting, task.attempt + 1 < Word.size32) (n : Nat) :
    (backend.run (.replicate n (.claim topics now))).1 =
        ((waiting.take n).map fun task => .ok (.claimed (some (task.claimed now)))) ++
          .replicate (n - waiting.length) (.ok (.claimed none)) ∧
      (backend.run (.replicate n (.claim topics now))).2.records =
        backend.records.map (claimedAmong (waiting.take n) now) := by
  induction n generalizing backend tasks waiting with
  | zero =>
    have same : claimedAmong [] now = id := funext fun record => if_neg List.not_mem_nil
    refine ⟨?_, ?_⟩
    · rw [List.replicate_zero, List.take_zero, Nat.zero_sub]
      rfl
    · rw [List.replicate_zero, List.take_zero, same, List.map_id]
      rfl
  | succ n inductionHypothesis =>
    rw [List.replicate_succ, run_cons]
    cases waiting with
    | nil =>
      obtain ⟨replies, records⟩ := inductionHypothesis lists line room
      rw [lists.step_idle line.nextDue?_nil, replies, records]
      exact ⟨by simp [List.replicate_succ], by simp⟩
    | cons first rest =>
      have found := line.nextDue?_cons lists.nodup_ids
      have small := fun stored => room stored first List.mem_cons_self
      obtain ⟨changed, next⟩ := lists.step_due found small
      have roomNext : (backend.step (.claim topics now)).2.storage = .table →
          ∀ task ∈ rest, task.attempt + 1 < Word.size32 := fun stored task behind =>
        room ((storage_step backend _).symm.trans stored) task (List.mem_cons_of_mem first behind)
      obtain ⟨replies, records⟩ :=
        inductionHypothesis next (line.afterClaim lists.nodup_ids) roomNext
      refine ⟨?_, ?_⟩
      · show _ :: _ = _
        rw [lists.reply_due found small, replies, List.take_succ_cons, List.length_cons,
          Nat.add_sub_add_right]
        rfl
      · show _ = _
        rw [records, changed, List.map_map, List.take_succ_cons]
        refine List.map_congr_left fun record _ => ?_
        refine claimedAmong_cons (fun task behind => ?_) now record
        exact line.id_ne lists.nodup_ids (List.mem_of_mem_take behind)

/-- Claims on some topics at one time, with nothing in between, hand out the tasks that are due, in the
order of their ranks and each once, and then nothing for ever. -/
structure DrainsInOrder (backend : Backend) (topics : List String) (now : Instant)
    (tasks waiting : List Task) : Prop where
  read : backend.records.map StoredTask.read = tasks.map .ok
  line : Task.InLine tasks waiting topics now
  replies : ∀ n, (backend.run (.replicate n (.claim topics now))).1 =
    ((waiting.take n).map fun task => .ok (.claimed (some (task.claimed now)))) ++
      .replicate (n - waiting.length) (.ok (.claimed none))
  records : ∀ n, (backend.run (.replicate n (.claim topics now))).2.records =
    backend.records.map (claimedAmong (waiting.take n) now)

/-- A short history: of three tasks one has a higher priority, and another one is to start later. -/
def waitingHistory : List QueueOperation :=
  [.push ⟨.ofNat 1⟩ ⟨0, 0⟩ "mail" (.list []) {},
    .push ⟨.ofNat 2⟩ ⟨1, 0⟩ "mail" (.list []) { priority := 5 },
    .push ⟨.ofNat 3⟩ ⟨1, 0⟩ "mail" (.list []) { startAt := some ⟨60, 0⟩ }]

example : ((((empty .table).run waitingHistory).2.run
    (.replicate 3 (.claim [defaultTopic] ⟨2, 0⟩))).1.map fun
      | .ok (.claimed (some held)) => held.id.ulid.value
      | _ => 0) = [2, 1, 0] := by decide +kernel

end Backend

end TaskAutomation
