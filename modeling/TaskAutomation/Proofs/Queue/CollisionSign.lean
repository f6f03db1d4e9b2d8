import TaskAutomation.Proofs.Queue.History

/-!
This file proves that collision signs exclude each other: in every state that a queue gets into, a
sign is carried by at most one record in flight, and the next push with that sign is kept as a
collision with that record exactly as long as there is one. What carries the proof is that two
records in flight with one sign are of one task. Changes of a record keep this, because a record
that is in flight after a change was in flight before and had the same sign, and a push keeps it
because it looks for a holder first.
-/

namespace TaskAutomation

namespace StoredTask

/-- Records in flight that carry the same sign are of one task. -/
def Exclusive (records : List StoredTask) : Prop :=
  ∀ sign, ∀ a ∈ records, ∀ b ∈ records, a.Holds sign → b.Holds sign → a.id? = b.id?

variable {records newRecords : List StoredTask} {operation : QueueOperation} {reply : QueueReply}

/-- Only a record that held a sign holds it after a change. -/
theorem Change.holds {record changed : StoredTask} (change : Change operation record changed)
    {sign : String} (holds : changed.Holds sign) : record.Holds sign := by
  refine ⟨change.sign?_eq.symm.trans holds.1, ?_⟩
  by_cases same : changed = record
  · rw [← same]
    exact holds.2
  · exact change.isInFlight same

theorem Effect.exclusive_of_no_push (effect : Effect records operation reply newRecords)
    (distinct : Distinct records) (exclusive : Exclusive records)
    (pushes : operation.pushedId? = none) : Exclusive newRecords := by
  intro sign a left b right holdsLeft holdsRight
  obtain ⟨formerLeft, insideLeft, changeLeft⟩ := effect.exists_change distinct pushes left
  obtain ⟨formerRight, insideRight, changeRight⟩ := effect.exists_change distinct pushes right
  rw [changeLeft.id?_eq, changeRight.id?_eq]
  exact exclusive sign formerLeft insideLeft formerRight insideRight (changeLeft.holds holdsLeft)
    (changeRight.holds holdsRight)

theorem exclusive_append (exclusive : Exclusive records) {added : StoredTask}
    (free : ∀ sign, added.Holds sign → ∀ other ∈ records, ¬ other.Holds sign) :
    Exclusive (records ++ [added]) := by
  intro sign a left b right holdsLeft holdsRight
  rw [List.mem_append, List.mem_singleton] at left right
  obtain left | rfl := left
  · obtain right | rfl := right
    · exact exclusive sign a left b right holdsLeft holdsRight
    · exact absurd holdsLeft (free sign holdsRight a left)
  · obtain right | rfl := right
    · exact absurd holdsRight (free sign holdsLeft b right)
    · rfl

/-- No operation lets two tasks in flight carry one sign. -/
theorem Effect.exclusive (effect : Effect records operation reply newRecords)
    (distinct : Distinct records) (exclusive : Exclusive records) : Exclusive newRecords := by
  cases operation with
  | push id now handler params options =>
    obtain ⟨record, -, rfl, stored, free⟩ | ⟨existing, record, -, rfl, stored, -⟩ := effect.push_inv
    · refine exclusive_append exclusive fun sign holds => free sign ?_
      exact (sign?_of_isOf stored).symm.trans holds.1
    · -- A collision is not in flight, so it carries no sign.
      refine exclusive_append exclusive fun sign holds => ?_
      obtain state | state := holds.2
      · rw [status?_of_isOf stored] at state
        cases state
      · rw [status?_of_isOf stored] at state
        cases state
  | _ => exact effect.exclusive_of_no_push distinct exclusive rfl

theorem length_filter_holds (distinct : Distinct records) (exclusive : Exclusive records)
    (sign : String) : (records.filter fun record => record.Holds sign).length ≤ 1 := by
  have nodup : (records.filter fun record => decide (record.Holds sign)).Nodup :=
    List.Nodup.filter _ (List.Nodup.of_map id? distinct)
  have member {record : StoredTask}
      (inside : record ∈ records.filter fun record => decide (record.Holds sign)) :
      record ∈ records ∧ record.Holds sign := by
    rw [List.mem_filter, decide_eq_true_eq] at inside
    exact inside
  generalize records.filter (fun record => decide (record.Holds sign)) = holders at nodup member ⊢
  match holders with
  | [] => exact Nat.zero_le 1
  | [_] => exact Nat.le_refl 1
  | first :: second :: rest =>
    obtain ⟨left, holdsLeft⟩ := member List.mem_cons_self
    obtain ⟨right, holdsRight⟩ := member (List.mem_cons_of_mem first List.mem_cons_self)
    have same := distinct.eq_of_id?_eq left right
      (exclusive sign first left second right holdsLeft holdsRight)
    rw [same] at nodup
    exact absurd List.mem_cons_self (List.nodup_cons.mp nodup).1

/-! ### Pushes -/

variable {id : TaskId} {now : Instant} {handler : String} {params : Json} {options : PushOptions}
  {sign : String}

theorem Effect.queued_iff
    (effect : Effect records (.push id now handler params options) reply newRecords)
    (signed : options.collisionSign = some sign) :
    (∃ task, reply = .ok (.pushed (.queued task))) ↔ ∀ record ∈ records, ¬ record.Holds sign := by
  obtain ⟨record, rfl, -, -, free⟩ |
    ⟨existing, record, rfl, -, -, own, carried, holder, member, holds, -⟩ := effect.push_inv
  · exact ⟨fun _ => free sign signed, fun _ => ⟨_, rfl⟩⟩
  · obtain rfl := Option.some.inj (signed.symm.trans carried)
    refine ⟨?_, fun free => absurd holds (free holder member)⟩
    rintro ⟨task, same⟩
    cases same

theorem Effect.collided_of_holds
    (effect : Effect records (.push id now handler params options) reply newRecords)
    (exclusive : Exclusive records) (signed : options.collisionSign = some sign)
    {holder : StoredTask} (member : holder ∈ records) (holds : holder.Holds sign) :
    ∃ existing record,
      holder.id? = some existing ∧
      reply = .ok (.pushed
        (.collided ((Task.new id handler params options now).collide existing) existing)) ∧
      newRecords = records ++ [record] ∧
      record.IsOf ((Task.new id handler params options now).collide existing) := by
  obtain ⟨record, -, -, -, free⟩ |
    ⟨existing, record, answer, added, stored, own, carried, other, inside, held, named⟩ :=
      effect.push_inv
  · exact absurd holds (free sign signed holder member)
  · obtain rfl := Option.some.inj (signed.symm.trans carried)
    have same := exclusive sign holder member other inside holds held
    exact ⟨existing, record, same.trans named, answer, added, stored⟩

end StoredTask

namespace Backend

open QueueOperation StoredTask

/-- Along a history no two tasks in flight come to carry one sign. -/
theorem exclusive_run {backend : Backend} {history : List QueueOperation}
    (sound : backend.Sound history) (exclusive : Exclusive backend.records) :
    Exclusive (backend.run history).2.records := by
  induction history generalizing backend with
  | nil => exact exclusive
  | cons operation rest inductionHypothesis =>
    exact inductionHypothesis sound.step (sound.effect.exclusive sound.distinct exclusive)

/-- What a queue keeps about signs, where some identifiers have been used for tasks before. -/
structure ExcludesSigns (backend : Backend) (used : List TaskId) : Prop where
  /-- At most one record in flight carries a sign. -/
  single : ∀ sign, (backend.records.filter fun record => record.Holds sign).length ≤ 1
  /-- A push is queued exactly if nothing in flight carries its sign. -/
  queued : ∀ id ∉ used, ∀ now handler params options sign, options.collisionSign = some sign →
    ((∃ task, (backend.step (.push id now handler params options)).1 =
        .ok (.pushed (.queued task))) ↔
      ∀ record ∈ backend.records, ¬ record.Holds sign)
  /-- Otherwise the record that carries the sign is named, and the new task is kept as a
  collision. -/
  collided : ∀ id ∉ used, ∀ now handler params options sign,
    options.collisionSign = some sign → ∀ holder ∈ backend.records, holder.Holds sign →
      ∃ existing record,
        holder.id? = some existing ∧
        (backend.step (.push id now handler params options)).1 =
          .ok (.pushed
            (.collided ((Task.new id handler params options now).collide existing) existing)) ∧
        (backend.step (.push id now handler params options)).2.records =
          backend.records ++ [record] ∧
        record.IsOf ((Task.new id handler params options now).collide existing)
  /-- The index of a queue in memory lists exactly the tasks in flight under their signs. -/
  indexed : ∀ queue, backend = .memory queue → queue.Indexed

/-- Signs exclude each other after every history that pushes no identifier twice. -/
theorem excludesSigns (storage : Storage) (history : List QueueOperation)
    (unique : (pushedIds history).Nodup) :
    ((empty storage).run history).2.ExcludesSigns (pushedIds history) := by
  have sound : (empty storage).Sound history := .empty storage unique
  have exclusive : Exclusive ((empty storage).run history).2.records :=
    exclusive_run sound fun sign a member => absurd member (not_mem_records_empty storage a)
  have reached := @Sound.run _ history [] (by rwa [List.append_nil])
  have effect (id : TaskId) (fresh : id ∉ pushedIds history) (now : Instant) (handler : String)
      (params : Json) (options : PushOptions) :
      Effect ((empty storage).run history).2.records (.push id now handler params options)
        (((empty storage).run history).2.step (.push id now handler params options)).1
        (((empty storage).run history).2.step (.push id now handler params options)).2.records := by
    have next : (pushedIds (history ++ [.push id now handler params options])).Nodup := by
      rw [pushedIds_append]
      refine List.nodup_append.mpr ⟨unique, List.nodup_singleton id, ?_⟩
      intro other used new pushed same
      rw [same, List.mem_singleton.mp pushed] at used
      exact fresh used
    exact (Sound.empty storage next).run.effect
  refine ⟨length_filter_holds reached.distinct exclusive, ?_, ?_, fun queue same => ?_⟩
  · intro id fresh now handler params options sign signed
    exact (effect id fresh now handler params options).queued_iff signed
  · intro id fresh now handler params options sign signed holder member holds
    exact (effect id fresh now handler params options).collided_of_holds exclusive signed member
      holds
  · have inOrder := reached.inOrder
    rw [same] at inOrder
    exact inOrder

theorem excludesSigns_sample :
    (pushedIds sampleHistory).Nodup ∧
      ((empty .table).run sampleHistory).2.ExcludesSigns (pushedIds sampleHistory) :=
  ⟨by decide, excludesSigns .table sampleHistory (by decide)⟩

end Backend

end TaskAutomation
