import TaskAutomation.Proofs.Queue.KeptRow

/-!
This file takes what an operation does to all records apart into what it does to each of them. A
record stays as it is, or it is claimed, reported on or taken back; only a push adds one, and only a
purge takes one away. What holds of each of these changes holds of every step of a queue.
-/

namespace TaskAutomation

/-- The identifier of the task that an operation pushes. -/
def QueueOperation.pushedId? : QueueOperation → Option TaskId
  | push id .. => some id
  | _ => none

namespace StoredTask

/-! ### Identifiers -/

theorem id?_settled {record : StoredTask} {task changed : Task} (read : record.read = .ok task)
    (same : changed.id = task.id) : (record.settled changed).id? = record.id? := by
  cases record with
  | task held =>
    cases read
    exact congrArg some same
  | row cells => rfl

theorem id?_of_isOf {record : StoredTask} {held : Task} (same : record.IsOf held) :
    record.id? = some held.id := by
  obtain rfl | rfl := same
  · rfl
  · exact Row.id?_ofTask held

theorem map_id?_replace (records : List StoredTask) {id : TaskId} {new : StoredTask}
    (named : new.id? = some id) : (replace records id new).map id? = records.map id? := by
  rw [replace, List.map_map]
  refine List.map_congr_left fun other _ => ?_
  show (if other.id? = some id then new else other).id? = other.id?
  split
  · next same => rw [named, same]
  · rfl

variable {records newRecords : List StoredTask} {operation : QueueOperation} {reply : QueueReply}

/-- The identifiers of the records stay as they are and where they are, except that a push adds one
at the end and a purge takes some away. -/
theorem Effect.ids_sublist (effect : Effect records operation reply newRecords) :
    (newRecords.map id?).Sublist (records.map id? ++ operation.pushedId?.toList.map some) := by
  cases effect with
  | queued id now handler params options record free stored =>
    rw [List.map_append, List.map_singleton, id?_of_isOf stored]
    exact List.Sublist.refl _
  | collided id now handler params options sign holder existing record signed member holds named
      stored =>
    rw [List.map_append, List.map_singleton, id?_of_isOf stored]
    exact List.Sublist.refl _
  | claimed topics now id record member named due =>
    rw [map_id?_replace records ((id?_claimed record now).trans named)]
    exact List.sublist_append_left _ _
  | settled operation report apply record task reports member named read held =>
    have origin := QueueOperation.sameOrigin_settlement reports task
    rw [map_id?_replace records ((id?_settled read origin.id).trans named)]
    exact List.sublist_append_left _ _
  | reaped now cutoff =>
    have same : (records.map fun record =>
        if record.isStale cutoff then record.reaped now else record).map id? = records.map id? := by
      rw [List.map_map]
      refine List.map_congr_left fun record _ => ?_
      show (if record.isStale cutoff then record.reaped now else record).id? = record.id?
      split
      · exact id?_reaped record now
      · rfl
    rw [same]
    exact List.sublist_append_left _ _
  | purged before rows reported =>
    exact (List.filter_sublist.map id?).trans (List.sublist_append_left _ _)
  | unclaimed | absent | unreadable | unheld | found | notFound | counted =>
    exact List.sublist_append_left _ _

/-! ### States -/

theorem status?_of_isOf {record : StoredTask} {held : Task} (same : record.IsOf held) :
    record.status? = some held.status := by
  obtain rfl | rfl := same
  · rfl
  · exact Row.status?_ofTask held

theorem sign?_of_isOf {record : StoredTask} {held : Task} (same : record.IsOf held) :
    record.sign? = held.collisionSign := by
  obtain rfl | rfl := same
  · rfl
  · exact Row.sign?_ofTask held

theorem read_eq_ok {record : StoredTask} {held : Task} (read : record.read = .ok held) :
    record.id? = some held.id ∧ record.status? = some held.status ∧
      record.info? = some held.info ∧ record.attempt? = some (held.attempt : Int) := by
  cases record with
  | task own =>
    cases read
    exact ⟨rfl, rfl, rfl, rfl⟩
  | row cells =>
    have reads := Row.reads_of_task_eq_ok read
    exact ⟨reads.id, reads.status, reads.info, reads.attempt⟩

theorem status?_of_isDue {record : StoredTask} {topics : List String} {now : Instant}
    (due : record.isDue topics now = true) : record.status? = some .pending := by
  cases record with
  | task held =>
    simp only [isDue, Task.isDue, Bool.and_eq_true, decide_eq_true_eq] at due
    exact congrArg some due.1.1
  | row cells =>
    simp only [isDue, TableQueue.isDue, Bool.and_eq_true] at due
    exact (Row.hasStatus_iff cells .pending).mp due.1.1

theorem status?_of_isStale {record : StoredTask} {cutoff : Instant}
    (stale : record.isStale cutoff = true) : record.status? = some .process := by
  cases record with
  | task held =>
    simp only [isStale, MemoryQueue.isStale, Bool.and_eq_true, decide_eq_true_eq] at stale
    exact congrArg some stale.1
  | row cells =>
    simp only [isStale, TableQueue.isStale, Bool.and_eq_true] at stale
    exact (Row.hasStatus_iff cells .process).mp stale.1

theorem not_isInFlight_of_isExpired {record : StoredTask} {before : Instant}
    (expired : record.isExpired before = true) : ¬ record.IsInFlight := by
  cases record with
  | task held =>
    simp only [isExpired, MemoryQueue.isExpired, Bool.and_eq_true, TaskStatus.isTerminal,
      Bool.not_eq_true'] at expired
    rw [isInFlight_task, expired.1]
    exact Bool.false_ne_true
  | row cells =>
    simp only [isExpired, TableQueue.isExpired, Bool.and_eq_true, Bool.or_eq_true,
      Row.hasStatus_iff] at expired
    rintro (pending | process)
    · simp [pending] at expired
    · simp [process] at expired

/-! ### Changes of one record -/

/-- What an operation may do to a record that stays. -/
inductive Change (operation : QueueOperation) : StoredTask → StoredTask → Prop where
  | kept (record : StoredTask) : Change operation record record
  | claimed (topics : List String) (now : Instant) (record : StoredTask)
      (claims : operation = .claim topics now) (due : record.isDue topics now = true) :
      Change operation record (record.claimed now)
  | settled (report : RunReport) (apply : Task → Task) (record : StoredTask) (task : Task)
      (reports : operation.settlement? = some (report, apply))
      (named : record.id? = some report.id) (read : record.read = .ok task)
      (held : task.status = .process) :
      Change operation record (record.settled (apply (task.absorb report)))
  | reaped (now cutoff : Instant) (record : StoredTask) (reaps : operation = .reap now cutoff)
      (stale : record.isStale cutoff = true) : Change operation record (record.reaped now)

/-- A change leaves a record with its task. -/
theorem Change.id?_eq {record changed : StoredTask} (change : Change operation record changed) :
    changed.id? = record.id? := by
  cases change with
  | kept => rfl
  | claimed topics now record claims due => exact id?_claimed record now
  | settled report apply record task reports named read held =>
    exact id?_settled read (QueueOperation.sameOrigin_settlement reports task).id
  | reaped now cutoff record reaps stale => exact id?_reaped record now

/-- A change leaves a record its sign. -/
theorem Change.sign?_eq {record changed : StoredTask} (change : Change operation record changed) :
    changed.sign? = record.sign? := by
  cases change with
  | kept => rfl
  | claimed topics now record claims due => exact sign?_claimed record now
  | settled report apply record task reports named read held =>
    cases record with
    | task own =>
      cases read
      exact (QueueOperation.sameOrigin_settlement reports task).collisionSign
    | row cells => rfl
  | reaped now cutoff record reaps stale => exact sign?_reaped record now

/-- Only a record in flight changes. -/
theorem Change.isInFlight {record changed : StoredTask} (change : Change operation record changed)
    (different : changed ≠ record) : record.IsInFlight := by
  cases change with
  | kept => exact absurd rfl different
  | claimed topics now record claims due => exact Or.inl (status?_of_isDue due)
  | settled report apply record task reports named read held =>
    exact Or.inr ((read_eq_ok read).2.1.trans (congrArg some held))
  | reaped now cutoff record reaps stale => exact Or.inr (status?_of_isStale stale)

/-! ### All records -/

theorem Distinct.eq_of_id?_eq (distinct : Distinct records) {a b : StoredTask} (left : a ∈ records)
    (right : b ∈ records) (same : a.id? = b.id?) : a = b :=
  List.inj_on_of_nodup_map distinct left right same

/-- A record that replaces the one of its task is the change of that one record. -/
theorem Distinct.mem_replace_iff (distinct : Distinct records) {record new : StoredTask}
    {id : TaskId} (member : record ∈ records) (named : record.id? = some id) (other : StoredTask) :
    other ∈ replace records id new ↔ other = new ∨ other ∈ records ∧ other ≠ record := by
  rw [replace, List.mem_map]
  constructor
  · rintro ⟨former, inside, rfl⟩
    split
    · exact Or.inl rfl
    · next different =>
      refine Or.inr ⟨inside, fun same => different ?_⟩
      rw [same]
      exact named
  · rintro (rfl | ⟨inside, different⟩)
    · exact ⟨record, member, if_pos named⟩
    · refine ⟨other, inside, if_neg fun same => different ?_⟩
      exact distinct.eq_of_id?_eq inside member (same.trans named.symm)

theorem Distinct.mem_replace_self (distinct : Distinct records) {record : StoredTask} {id : TaskId}
    (member : record ∈ records) (named : record.id? = some id) (new : StoredTask) :
    new ∈ replace records id new :=
  (distinct.mem_replace_iff member named new).mpr (Or.inl rfl)

/-- No other record than the one put in place carries the identifier. -/
theorem Distinct.eq_of_mem_replace (distinct : Distinct records) {record new other : StoredTask}
    {id : TaskId} (member : record ∈ records) (named : record.id? = some id)
    (inside : other ∈ replace records id new) (own : other.id? = some id) : other = new := by
  obtain same | ⟨before, different⟩ := (distinct.mem_replace_iff member named other).mp inside
  · exact same
  · exact absurd (distinct.eq_of_id?_eq before member (own.trans named.symm)) different

theorem exists_change_of_replace (distinct : Distinct records) {record new : StoredTask}
    {id : TaskId} (member : record ∈ records) (named : record.id? = some id)
    (change : Change operation record new) :
    (∀ former ∈ records, ∃ changed ∈ replace records id new, Change operation former changed) ∧
      ∀ changed ∈ replace records id new, ∃ former ∈ records, Change operation former changed := by
  refine ⟨fun former inside => ?_, fun changed inside => ?_⟩
  · by_cases same : former = record
    · rw [same]
      exact ⟨new, distinct.mem_replace_self member named new, change⟩
    · exact ⟨former, (distinct.mem_replace_iff member named former).mpr (Or.inr ⟨inside, same⟩),
        .kept former⟩
  · obtain rfl | ⟨before, -⟩ := (distinct.mem_replace_iff member named changed).mp inside
    · exact ⟨record, member, change⟩
    · exact ⟨changed, before, .kept changed⟩

/-- A record is changed or purged. -/
theorem Effect.forward (effect : Effect records operation reply newRecords)
    (distinct : Distinct records) {record : StoredTask} (member : record ∈ records) :
    (∃ changed ∈ newRecords, Change operation record changed) ∨
      ∃ before, operation = .purge before ∧ record.isExpired before = true := by
  cases effect with
  | queued | collided => exact Or.inl ⟨record, List.mem_append_left _ member, .kept record⟩
  | claimed topics now id held inside named due =>
    exact Or.inl ((exists_change_of_replace distinct inside named
      (.claimed topics now held rfl due)).1 record member)
  | settled operation report apply held task reports inside named read process =>
    exact Or.inl ((exists_change_of_replace distinct inside named
      (.settled report apply held task reports named read process)).1 record member)
  | reaped now cutoff =>
    refine Or.inl ⟨_, List.mem_map.mpr ⟨record, member, rfl⟩, ?_⟩
    split
    · next stale => exact .reaped now cutoff record rfl stale
    · exact .kept record
  | purged before rows reported =>
    by_cases expired : record.isExpired before = true
    · exact Or.inr ⟨before, rfl, expired⟩
    · refine Or.inl ⟨record, List.mem_filter.mpr ⟨member, ?_⟩, .kept record⟩
      simpa using expired
  | unclaimed | absent | unreadable | unheld | found | notFound | counted =>
    exact Or.inl ⟨record, member, .kept record⟩

/-- A record comes from a change or a push. -/
theorem Effect.backward (effect : Effect records operation reply newRecords)
    (distinct : Distinct records) {record : StoredTask} (member : record ∈ newRecords) :
    (∃ former ∈ records, Change operation former record) ∨
      ∃ id, operation.pushedId? = some id ∧ record.id? = some id ∧
        (record.status? = some .pending ∨ record.status? = some .collision) := by
  cases effect with
  | queued id now handler params options new free stored =>
    obtain before | added := List.mem_append.mp member
    · exact Or.inl ⟨record, before, .kept record⟩
    · rw [List.mem_singleton.mp added]
      exact Or.inr ⟨id, rfl, id?_of_isOf stored, Or.inl (status?_of_isOf stored)⟩
  | collided id now handler params options sign holder existing new signed inside holds named
      stored =>
    obtain before | added := List.mem_append.mp member
    · exact Or.inl ⟨record, before, .kept record⟩
    · rw [List.mem_singleton.mp added]
      exact Or.inr ⟨id, rfl, id?_of_isOf stored, Or.inr (status?_of_isOf stored)⟩
  | claimed topics now id held inside named due =>
    exact Or.inl ((exists_change_of_replace distinct inside named
      (.claimed topics now held rfl due)).2 record member)
  | settled operation report apply held task reports inside named read process =>
    exact Or.inl ((exists_change_of_replace distinct inside named
      (.settled report apply held task reports named read process)).2 record member)
  | reaped now cutoff =>
    obtain ⟨former, inside, rfl⟩ := List.mem_map.mp member
    refine Or.inl ⟨former, inside, ?_⟩
    split
    · next stale => exact .reaped now cutoff former rfl stale
    · exact .kept former
  | purged before rows reported =>
    exact Or.inl ⟨record, (List.mem_filter.mp member).1, .kept record⟩
  | unclaimed | absent | unreadable | unheld | found | notFound | counted =>
    exact Or.inl ⟨record, member, .kept record⟩

/-- Without a push every record comes from a change. -/
theorem Effect.exists_change (effect : Effect records operation reply newRecords)
    (distinct : Distinct records) (pushes : operation.pushedId? = none) {record : StoredTask}
    (member : record ∈ newRecords) : ∃ former ∈ records, Change operation former record := by
  obtain change | ⟨id, pushed, -⟩ := effect.backward distinct member
  · exact change
  · rw [pushes] at pushed
    cases pushed

/-! ### The record of one task -/

/-- The record of a task has a property. -/
def Has (property : StoredTask → Prop) (records : List StoredTask) (id : TaskId) : Prop :=
  ∃ record ∈ records, record.id? = some id ∧ property record

section

variable {property : StoredTask → Prop} {record new : StoredTask} {id other : TaskId}

theorem Distinct.has_iff (distinct : Distinct records) (member : record ∈ records)
    (named : record.id? = some id) : Has property records id ↔ property record := by
  refine ⟨?_, fun holds => ⟨record, member, named, holds⟩⟩
  rintro ⟨held, inside, same, holds⟩
  rw [distinct.eq_of_id?_eq member inside (named.trans same.symm)]
  exact holds

theorem has_append (without : ¬ property new) :
    Has property (records ++ [new]) id ↔ Has property records id := by
  constructor
  · rintro ⟨held, member, named, holds⟩
    obtain before | added := List.mem_append.mp member
    · exact ⟨held, before, named, holds⟩
    · rw [List.mem_singleton.mp added] at holds
      exact absurd holds without
  · rintro ⟨held, member, rest⟩
    exact ⟨held, List.mem_append_left _ member, rest⟩

theorem has_replace_self (distinct : Distinct records) (member : record ∈ records)
    (named : record.id? = some id) (same : new.id? = some id) :
    Has property (replace records id new) id ↔ property new := by
  constructor
  · rintro ⟨held, inside, own, holds⟩
    rw [← distinct.eq_of_mem_replace member named inside own]
    exact holds
  · intro holds
    exact ⟨new, distinct.mem_replace_self member named new, same, holds⟩

theorem has_replace_other (distinct : Distinct records) (member : record ∈ records)
    (named : record.id? = some other) (same : new.id? = some other) (different : other ≠ id) :
    Has property (replace records other new) id ↔ Has property records id := by
  constructor
  · rintro ⟨held, inside, own, holds⟩
    obtain rfl | ⟨before, -⟩ := (distinct.mem_replace_iff member named held).mp inside
    · exact absurd (Option.some.inj (same.symm.trans own)) different
    · exact ⟨held, before, own, holds⟩
  · rintro ⟨held, inside, own, holds⟩
    refine ⟨held, (distinct.mem_replace_iff member named held).mpr (Or.inr ⟨inside, ?_⟩), own,
      holds⟩
    rintro rfl
    exact different (Option.some.inj (named.symm.trans own))

theorem Distinct.has_reaped_iff (distinct : Distinct records) (member : record ∈ records)
    (named : record.id? = some id) {now cutoff : Instant} :
    Has property (records.map fun record =>
        if record.isStale cutoff then record.reaped now else record) id ↔
      property (if record.isStale cutoff then record.reaped now else record) := by
  constructor
  · rintro ⟨changed, inside, own, holds⟩
    obtain ⟨former, before, rfl⟩ := List.mem_map.mp inside
    have same : former.id? = some id := by
      rw [← own]
      split
      · exact (id?_reaped former now).symm
      · rfl
    obtain rfl := distinct.eq_of_id?_eq before member (same.trans named.symm)
    exact holds
  · intro holds
    refine ⟨_, List.mem_map.mpr ⟨record, member, rfl⟩, ?_, holds⟩
    split
    · exact (id?_reaped record now).trans named
    · exact named

/-- A reap gives no record a property that no record that was taken back has. -/
theorem has_of_reaped {now cutoff : Instant} (lost : ∀ record : StoredTask, ¬ property (record.reaped now))
    (after : Has property (records.map fun record =>
      if record.isStale cutoff then record.reaped now else record) id) :
    Has property records id := by
  obtain ⟨changed, inside, named, holds⟩ := after
  obtain ⟨record, member, rfl⟩ := List.mem_map.mp inside
  split at named
  · next stale =>
    rw [if_pos stale] at holds
    exact absurd holds (lost record)
  · next fresh =>
    rw [if_neg fresh] at holds
    exact ⟨record, member, named, holds⟩

theorem has_purged {before : Instant} (live : ∀ record : StoredTask, property record → record.IsInFlight) :
    Has property (records.filter fun record => !record.isExpired before) id ↔
      Has property records id := by
  constructor
  · rintro ⟨record, member, rest⟩
    exact ⟨record, (List.mem_filter.mp member).1, rest⟩
  · rintro ⟨record, member, named, holds⟩
    refine ⟨record, List.mem_filter.mpr ⟨member, ?_⟩, named, holds⟩
    rw [Bool.not_eq_true', Bool.eq_false_iff]
    exact fun expired => not_isInFlight_of_isExpired expired (live record holds)

end

/-! ### Claims -/

/-- A claim that hands out a task made a claim on its record, which was due. -/
theorem Effect.claim_inv {topics : List String} {now : Instant} {held : Task}
    (effect : Effect records (.claim topics now) (.ok (.claimed (some held))) newRecords) :
    ∃ record ∈ records, record.id? = some held.id ∧ record.isDue topics now = true ∧
      (record.claimed now).read = .ok held ∧
      newRecords = replace records held.id (record.claimed now) := by
  generalize answer : (.ok (.claimed (some held)) : QueueReply) = reply at effect
  cases effect with
  | claimed _ _ id record member named due =>
    cases read : (record.claimed now).read with
    | error fault =>
      rw [read] at answer
      cases answer
    | ok task =>
      rw [read] at answer
      cases answer
      obtain rfl : id = held.id :=
        Option.some.inj ((named.symm.trans (id?_claimed record now).symm).trans (read_eq_ok read).1)
      exact ⟨record, member, named, due, read, rfl⟩
  | unclaimed => cases answer
  | settled _ report apply record task reports => cases reports
  | absent _ report apply reports => cases reports
  | unreadable _ report apply record fault reports => cases reports
  | unheld _ report apply record task reports => cases reports

/-! ### Reports -/

/-- Why a report on a task is refused. -/
inductive Refusal (records : List StoredTask) (id : TaskId) : StoreFault → Prop where
  | absent (missing : ∀ record ∈ records, record.id? ≠ some id) :
      Refusal records id (.notFound id.display)
  | unreadable (record : StoredTask) (member : record ∈ records) (named : record.id? = some id)
      (fault : StoreFault) (read : record.read = .error fault) : Refusal records id fault
  | unheld (record : StoredTask) (member : record ∈ records) (named : record.id? = some id)
      (task : Task) (read : record.read = .ok task) (unheld : task.status ≠ .process) :
      Refusal records id (.notInProcess id)

/-- A report is taken for a task in process, or it is refused. -/
theorem Effect.settlement_inv (effect : Effect records operation reply newRecords)
    {report : RunReport} {apply : Task → Task}
    (reports : operation.settlement? = some (report, apply)) :
    (∃ record ∈ records, ∃ task, record.id? = some report.id ∧ record.read = .ok task ∧
      task.status = .process ∧ reply = .ok (.settled (apply (task.absorb report))) ∧
      newRecords = replace records report.id (record.settled (apply (task.absorb report)))) ∨
    ∃ fault, reply = .error fault ∧ newRecords = records ∧ Refusal records report.id fault := by
  cases effect with
  | settled _ own _ record task same member named read held =>
    cases reports.symm.trans same
    exact Or.inl ⟨record, member, task, named, read, held, rfl, rfl⟩
  | absent _ own _ same missing =>
    cases reports.symm.trans same
    exact Or.inr ⟨_, rfl, rfl, .absent missing⟩
  | unreadable _ own _ record fault same member named read =>
    cases reports.symm.trans same
    exact Or.inr ⟨fault, rfl, rfl, .unreadable record member named fault read⟩
  | unheld _ own _ record task same member named read unheld =>
    cases reports.symm.trans same
    exact Or.inr ⟨_, rfl, rfl, .unheld record member named task read unheld⟩
  | queued | collided | unclaimed | claimed | found | notFound | counted | reaped | purged =>
    cases reports

/-! ### Pushes -/

section

variable {id : TaskId} {now : Instant} {handler : String} {params : Json} {options : PushOptions}

/-- A push is queued because its sign is free, or collides with a record that holds the sign. -/
theorem Effect.push_inv
    (effect : Effect records (.push id now handler params options) reply newRecords) :
    (∃ record,
      reply = .ok (.pushed (.queued (Task.new id handler params options now))) ∧
      newRecords = records ++ [record] ∧ record.IsOf (Task.new id handler params options now) ∧
      ∀ sign, options.collisionSign = some sign → ∀ other ∈ records, ¬ other.Holds sign) ∨
    ∃ existing record,
      reply = .ok (.pushed
        (.collided ((Task.new id handler params options now).collide existing) existing)) ∧
      newRecords = records ++ [record] ∧
      record.IsOf ((Task.new id handler params options now).collide existing) ∧
      ∃ sign, options.collisionSign = some sign ∧
        ∃ holder ∈ records, holder.Holds sign ∧ holder.id? = some existing := by
  cases effect with
  | queued _ _ _ _ _ record free stored => exact Or.inl ⟨record, rfl, rfl, stored, free⟩
  | collided _ _ _ _ _ sign holder existing record signed member holds named stored =>
    exact Or.inr ⟨existing, record, rfl, rfl, stored, sign, signed, holder, member, holds, named⟩
  | settled _ report apply record task reports => cases reports
  | absent _ report apply reports => cases reports
  | unreadable _ report apply record fault reports => cases reports
  | unheld _ report apply record task reports => cases reports

/-- A push adds the record of the new task, be it queued or kept as a collision. -/
theorem Effect.push_adds
    (effect : Effect records (.push id now handler params options) reply newRecords) :
    ∃ task record, newRecords = records ++ [record] ∧ record.IsOf task ∧
      (task = Task.new id handler params options now ∨
        ∃ existing, task = (Task.new id handler params options now).collide existing) := by
  obtain ⟨record, -, added, stored, -⟩ | ⟨existing, record, -, added, stored, -⟩ := effect.push_inv
  · exact ⟨_, record, added, stored, Or.inl rfl⟩
  · exact ⟨_, record, added, stored, Or.inr ⟨existing, rfl⟩⟩

end

end StoredTask

end TaskAutomation
