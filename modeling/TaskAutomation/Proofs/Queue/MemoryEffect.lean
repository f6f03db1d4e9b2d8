import TaskAutomation.Proofs.Queue.Effect

/-!
This file proves that the queue in memory does to its records what `StoredTask.Effect` says. It
depends on the index of signs: as long as the index lists exactly the tasks in flight under their
signs, a sign that is not listed is free and a sign that is listed has its holder among the tasks.
Every operation keeps the index in that state.
-/

namespace TaskAutomation

/-! ### The next task that is due -/

theorem mem_of_nextDue? {tasks : List Task} {topics : List String} {now : Instant} {task : Task}
    (found : nextDue? tasks topics now = some task) :
    task ∈ tasks ∧ task.isDue topics now = true := by
  have choice (a b : Task) : a.earlier b = a ∨ a.earlier b = b := by
    unfold Task.earlier
    split
    · exact Or.inr rfl
    · exact Or.inl rfl
  unfold nextDue? at found
  split at found
  · cases found
  · next start rest due =>
    have member := foldl_choice_mem choice start rest
    rw [Option.some.inj found, ← due] at member
    exact List.mem_filter.mp member

theorem isDue_eq_false_of_nextDue? {tasks : List Task} {topics : List String} {now : Instant}
    (none : nextDue? tasks topics now = none) : ∀ task ∈ tasks, task.isDue topics now = false := by
  unfold nextDue? at none
  split at none
  · next empty => simpa using empty
  · cases none

namespace MemoryQueue

/-! ### Storing a task -/

theorem find?_eq_some {queue : MemoryQueue} {id : TaskId} {task : Task}
    (found : queue.find? id = some task) : task ∈ queue.tasks ∧ task.id = id := by
  have chosen := List.find?_some found
  exact ⟨List.mem_of_find?_eq_some found, of_decide_eq_true chosen⟩

theorem find?_eq_none {queue : MemoryQueue} {id : TaskId} (missing : queue.find? id = none) :
    ∀ record ∈ queue.tasks.map StoredTask.task, record.id? ≠ some id := by
  intro record member named
  obtain ⟨other, inside, rfl⟩ := List.mem_map.mp member
  exact List.find?_eq_none.mp missing other inside (decide_eq_true (Option.some.inj named))

theorem store_fresh (queue : MemoryQueue) (task : Task)
    (fresh : ∀ other ∈ queue.tasks, other.id ≠ task.id) :
    queue.store task = { queue with tasks := queue.tasks ++ [task] } := by
  have absent : ¬ (queue.tasks.any fun other => other.id = task.id) = true := by
    simpa using fresh
  rw [store, if_neg absent]

theorem store_present (queue : MemoryQueue) (task : Task) {held : Task}
    (member : held ∈ queue.tasks) (same : held.id = task.id) :
    queue.store task =
      { queue with
        tasks := queue.tasks.map fun other => if other.id = task.id then task else other } := by
  have present : (queue.tasks.any fun other => other.id = task.id) = true :=
    List.any_eq_true.mpr ⟨held, member, decide_eq_true same⟩
  rw [store, if_pos present]

theorem releaseSign_unsigned (queue : MemoryQueue) {task : Task}
    (unsigned : task.collisionSign = none) : queue.releaseSign task = queue := by
  unfold releaseSign
  rw [unsigned]

theorem releaseSign_held (queue : MemoryQueue) {task : Task} {sign : String}
    (signed : task.collisionSign = some sign) (holder : queue.holder? sign = some task.id) :
    queue.releaseSign task =
      { queue with signs := queue.signs.filter fun entry => entry.1 != sign } := by
  unfold releaseSign
  rw [signed]
  exact if_pos holder

theorem releaseSign_tasks (queue : MemoryQueue) (task : Task) :
    (queue.releaseSign task).tasks = queue.tasks := by
  unfold releaseSign
  split
  · rfl
  · split <;> rfl

theorem nodup_ids {queue : MemoryQueue}
    (distinct : StoredTask.Distinct (queue.tasks.map .task)) :
    (queue.tasks.map Task.id).Nodup := by
  rw [StoredTask.Distinct, List.map_map] at distinct
  refine List.Nodup.of_map some ?_
  rw [List.map_map]
  exact distinct

theorem id_ne_of_fresh {queue : MemoryQueue} {id : TaskId}
    (fresh : ∀ record ∈ queue.tasks.map StoredTask.task, record.id? ≠ some id) :
    ∀ held ∈ queue.tasks, held.id ≠ id := fun held member same =>
  fresh (.task held) (List.mem_map.mpr ⟨held, member, rfl⟩) (congrArg some same)

/-! ### The index of signs -/

/-- A task is in flight under a sign. -/
def CarriedBy (tasks : List Task) (sign : String) (id : TaskId) : Prop :=
  ∃ task ∈ tasks, task.id = id ∧ task.collisionSign = some sign ∧ task.status.isInFlight = true

/-- The index lists every sign once, and exactly the tasks in flight under their signs. -/
structure Indexed (queue : MemoryQueue) : Prop where
  once : (queue.signs.map Prod.fst).Nodup
  listed : ∀ sign id, (sign, id) ∈ queue.signs ↔ CarriedBy queue.tasks sign id

theorem lookup_eq_some_iff {signs : List (String × TaskId)}
    (once : (signs.map Prod.fst).Nodup) (sign : String) (id : TaskId) :
    signs.lookup sign = some id ↔ (sign, id) ∈ signs := by
  induction signs with
  | nil => simp
  | cons entry rest inductionHypothesis =>
    obtain ⟨other, holder⟩ := entry
    rw [List.map_cons, List.nodup_cons] at once
    rw [List.lookup_cons]
    by_cases same : sign = other
    · subst same
      have elsewhere : (sign, id) ∉ rest := fun member =>
        once.1 (List.mem_map.mpr ⟨(sign, id), member, rfl⟩)
      simp [elsewhere, eq_comm]
    · have different : (sign == other) = false := beq_eq_false_iff_ne.mpr same
      simp [different, inductionHypothesis once.2, same]

theorem Indexed.holder?_eq_some_iff {queue : MemoryQueue} (indexed : queue.Indexed) (sign : String)
    (id : TaskId) : queue.holder? sign = some id ↔ CarriedBy queue.tasks sign id :=
  (lookup_eq_some_iff indexed.once sign id).trans (indexed.listed sign id)

theorem CarriedBy.of_holds {tasks : List Task} {sign : String} {held : Task}
    (member : held ∈ tasks) (holds : (StoredTask.task held).Holds sign) :
    CarriedBy tasks sign held.id :=
  ⟨held, member, rfl, holds.1, (StoredTask.isInFlight_task held).mp holds.2⟩

theorem carriedBy_append_singleton (tasks : List Task) (added : Task) (sign : String)
    (id : TaskId) :
    CarriedBy (tasks ++ [added]) sign id ↔
      CarriedBy tasks sign id ∨
        added.id = id ∧ added.collisionSign = some sign ∧ added.status.isInFlight = true := by
  simp only [CarriedBy, List.mem_append, List.mem_singleton, or_and_right, exists_or,
    exists_eq_left]

/-- A new task that carries no sign, or is not in flight, leaves the index in order. -/
theorem Indexed.add {queue : MemoryQueue} (indexed : queue.Indexed) {added : Task}
    (silent : ∀ sign, added.collisionSign = some sign → added.status.isInFlight = false) :
    ({ queue with tasks := queue.tasks ++ [added] } : MemoryQueue).Indexed := by
  refine ⟨indexed.once, fun sign id => ?_⟩
  rw [indexed.listed, carriedBy_append_singleton]
  refine ⟨Or.inl, ?_⟩
  rintro (carried | ⟨-, signed, inFlight⟩)
  · exact carried
  · rw [silent sign signed] at inFlight
    cases inFlight

/-- A new task in flight under a free sign is entered into the index. -/
theorem Indexed.addHolder {queue : MemoryQueue} (indexed : queue.Indexed) {added : Task}
    {sign : String} (free : queue.holder? sign = none) (signed : added.collisionSign = some sign)
    (inFlight : added.status.isInFlight = true) :
    (⟨queue.tasks ++ [added], (sign, added.id) :: queue.signs⟩ : MemoryQueue).Indexed := by
  have unlisted : sign ∉ queue.signs.map Prod.fst := by
    intro member
    obtain ⟨⟨other, holder⟩, inside, rfl⟩ := List.mem_map.mp member
    have held := (lookup_eq_some_iff indexed.once other holder).mpr inside
    rw [holder?, held] at free
    cases free
  refine ⟨List.nodup_cons.mpr ⟨unlisted, indexed.once⟩, fun other id => ?_⟩
  rw [List.mem_cons, indexed.listed, carriedBy_append_singleton, signed]
  constructor
  · rintro (same | carried)
    · cases same
      exact Or.inr ⟨rfl, rfl, inFlight⟩
    · exact Or.inl carried
  · rintro (carried | ⟨named, same, -⟩)
    · exact Or.inr carried
    · cases same
      cases named
      exact Or.inl rfl

/-- Changing tasks in their places, but neither their identifiers nor their signs nor whether they
are in flight, changes nothing that the index lists. -/
theorem carriedBy_map {tasks : List Task} {change : Task → Task}
    (origin : ∀ held ∈ tasks, held.SameOrigin (change held))
    (flight : ∀ held ∈ tasks, (change held).status.isInFlight = held.status.isInFlight)
    (sign : String) (id : TaskId) :
    CarriedBy (tasks.map change) sign id ↔ CarriedBy tasks sign id := by
  constructor
  · rintro ⟨changed, member, named, signed, inFlight⟩
    obtain ⟨held, inside, rfl⟩ := List.mem_map.mp member
    have same := origin held inside
    exact ⟨held, inside, same.id.symm.trans named, same.collisionSign.symm.trans signed,
      (flight held inside).symm.trans inFlight⟩
  · rintro ⟨held, member, named, signed, inFlight⟩
    have same := origin held member
    exact ⟨change held, List.mem_map.mpr ⟨held, member, rfl⟩, same.id.trans named,
      same.collisionSign.trans signed, (flight held member).trans inFlight⟩

theorem eq_of_id_eq {tasks : List Task} (distinct : (tasks.map Task.id).Nodup) {a b : Task}
    (left : a ∈ tasks) (right : b ∈ tasks) (same : a.id = b.id) : a = b :=
  List.inj_on_of_nodup_map distinct left right same

/-- A task that leaves flight takes its sign out of what the index has to list. -/
theorem carriedBy_land (tasks : List Task) (held : Task) {new : Task}
    (landed : new.status.isInFlight = false) (sign : String) (id : TaskId) :
    CarriedBy (tasks.map fun other => if other.id = held.id then new else other) sign id ↔
      CarriedBy tasks sign id ∧ id ≠ held.id := by
  constructor
  · rintro ⟨changed, inside, named, signed, inFlight⟩
    obtain ⟨other, before, rfl⟩ := List.mem_map.mp inside
    by_cases same : other.id = held.id
    · rw [if_pos same, landed] at inFlight
      cases inFlight
    · rw [if_neg same] at named signed inFlight
      exact ⟨⟨other, before, named, signed, inFlight⟩, fun chosen => same (named.trans chosen)⟩
  · rintro ⟨⟨other, before, named, signed, inFlight⟩, different⟩
    have kept : ¬ other.id = held.id := fun same => different (named.symm.trans same)
    exact ⟨other, List.mem_map.mpr ⟨other, before, if_neg kept⟩, named, signed, inFlight⟩

/-- A task that stays in flight changes nothing that the index lists. -/
theorem carriedBy_fly {tasks : List Task} (distinct : (tasks.map Task.id).Nodup) {held new : Task}
    (member : held ∈ tasks) (origin : held.SameOrigin new)
    (flight : new.status.isInFlight = held.status.isInFlight) (sign : String) (id : TaskId) :
    CarriedBy (tasks.map fun other => if other.id = held.id then new else other) sign id ↔
      CarriedBy tasks sign id := by
  refine carriedBy_map (fun other inside => ?_) (fun other inside => ?_) sign id
  · split
    · next same =>
      rw [eq_of_id_eq distinct inside member same]
      exact origin
    · exact .refl other
  · split
    · next same =>
      rw [eq_of_id_eq distinct inside member same]
      exact flight
    · rfl

/-! ### The operations -/

section

variable {queue : MemoryQueue}

/-! ### Pushes -/

theorem push_unsigned {id : TaskId} (now : Instant) (handler : String) (params : Json)
    {options : PushOptions} (fresh : ∀ held ∈ queue.tasks, held.id ≠ id)
    (signed : options.collisionSign = none) :
    queue.push id now handler params options =
      (.queued (Task.new id handler params options now),
        { queue with tasks := queue.tasks ++ [Task.new id handler params options now] }) := by
  have newSign : (Task.new id handler params options now).collisionSign = none := signed
  simp only [push, newSign]
  rw [store_fresh queue _ fresh]

theorem push_free {id : TaskId} (now : Instant) (handler : String) (params : Json)
    {options : PushOptions} (fresh : ∀ held ∈ queue.tasks, held.id ≠ id) {sign : String}
    (signed : options.collisionSign = some sign) (free : queue.holder? sign = none) :
    queue.push id now handler params options =
      (.queued (Task.new id handler params options now),
        ⟨queue.tasks ++ [Task.new id handler params options now],
          (sign, id) :: queue.signs⟩) := by
  have newSign : (Task.new id handler params options now).collisionSign = some sign := signed
  simp only [push, newSign, free]
  rw [store_fresh (queue.holdSign sign id) (Task.new id handler params options now) fresh]
  rfl

theorem push_held {id : TaskId} (now : Instant) (handler : String) (params : Json)
    {options : PushOptions} (fresh : ∀ held ∈ queue.tasks, held.id ≠ id) {sign : String}
    (signed : options.collisionSign = some sign) {existing : TaskId}
    (held : queue.holder? sign = some existing) :
    queue.push id now handler params options =
      (.collided ((Task.new id handler params options now).collide existing) existing,
        { queue with
          tasks :=
            queue.tasks ++ [(Task.new id handler params options now).collide existing] }) := by
  have newSign : (Task.new id handler params options now).collisionSign = some sign := signed
  simp only [push, newSign, held]
  rw [store_fresh queue _ fresh]

theorem push_effect (indexed : queue.Indexed) (id : TaskId) (now : Instant) (handler : String)
    (params : Json) (options : PushOptions) (fresh : ∀ held ∈ queue.tasks, held.id ≠ id) :
    StoredTask.Effect (queue.tasks.map .task) (.push id now handler params options)
        (.ok (.pushed (queue.push id now handler params options).1))
        ((queue.push id now handler params options).2.tasks.map .task) ∧
      (queue.push id now handler params options).2.Indexed := by
  cases signed : options.collisionSign with
  | none =>
    rw [push_unsigned now handler params fresh signed, List.map_append]
    have unsigned (sign : String) : options.collisionSign ≠ some sign := by
      rw [signed]
      exact nofun
    refine ⟨.queued _ _ _ _ _ _ (fun sign same => ?_) (Or.inl rfl), indexed.add fun sign same => ?_⟩
    · exact absurd same (unsigned sign)
    · exact absurd same (unsigned sign)
  | some sign =>
    cases held : queue.holder? sign with
    | none =>
      rw [push_free now handler params fresh signed held, List.map_append]
      refine ⟨.queued _ _ _ _ _ _ (fun other same record member holds => ?_) (Or.inl rfl),
        indexed.addHolder held signed rfl⟩
      obtain rfl := Option.some.inj (signed.symm.trans same)
      obtain ⟨carrier, inside, rfl⟩ := List.mem_map.mp member
      have carried := CarriedBy.of_holds inside holds
      rw [(indexed.holder?_eq_some_iff sign carrier.id).mpr carried] at held
      cases held
    | some existing =>
      obtain ⟨holder, member, named, carries, inFlight⟩ :=
        (indexed.holder?_eq_some_iff sign existing).mp held
      rw [push_held now handler params fresh signed held, List.map_append]
      -- The new task is a collision, so it is not in flight and carries nothing.
      refine ⟨?_, indexed.add fun _ _ => rfl⟩
      exact .collided _ _ _ _ _ sign (.task holder) existing _ signed
        (List.mem_map.mpr ⟨holder, member, rfl⟩)
        ⟨carries, (StoredTask.isInFlight_task holder).mpr inFlight⟩ (congrArg some named)
        (Or.inl rfl)

/-! ### Claims and reports -/

theorem claim_idle {topics : List String} {now : Instant}
    (idle : nextDue? queue.tasks topics now = none) : queue.claim topics now = (none, queue) := by
  unfold claim
  rw [idle]

theorem claim_due {topics : List String} {now : Instant} {held : Task}
    (due : nextDue? queue.tasks topics now = some held) :
    queue.claim topics now = (some (held.claimed now), queue.store (held.claimed now)) := by
  unfold claim
  rw [due]

theorem claim_effect (indexed : queue.Indexed) (distinct : (queue.tasks.map Task.id).Nodup)
    (topics : List String) (now : Instant) :
    StoredTask.Effect (queue.tasks.map .task) (.claim topics now)
        (.ok (.claimed (queue.claim topics now).1))
        ((queue.claim topics now).2.tasks.map .task) ∧
      (queue.claim topics now).2.Indexed := by
  cases next : nextDue? queue.tasks topics now with
  | none =>
    rw [claim_idle next]
    refine ⟨.unclaimed _ _ fun record member => ?_, indexed⟩
    obtain ⟨held, inside, rfl⟩ := List.mem_map.mp member
    exact isDue_eq_false_of_nextDue? next held inside
  | some held =>
    obtain ⟨member, due⟩ := mem_of_nextDue? next
    have pending : held.status = .pending := by
      simp only [Task.isDue, Bool.and_eq_true, decide_eq_true_eq] at due
      exact due.1.1
    have same : (held.claimed now).id = held.id := rfl
    rw [claim_due next, store_present queue (held.claimed now) member rfl, same]
    refine ⟨?_, indexed.once, fun sign id => ?_⟩
    · rw [← StoredTask.replace_tasks]
      exact .claimed _ _ held.id (.task held) (List.mem_map.mpr ⟨held, member, rfl⟩) rfl due
    · rw [indexed.listed]
      refine (carriedBy_fly distinct member (held.sameOrigin_claimed now) ?_ sign id).symm
      rw [pending]
      rfl

/-- The index after a task has left flight. -/
theorem Indexed.releaseSign (indexed : queue.Indexed) (distinct : (queue.tasks.map Task.id).Nodup)
    {held new : Task} (member : held ∈ queue.tasks) (process : held.status = .process)
    (origin : held.SameOrigin new) (landed : new.status.isInFlight = false) {tasks : List Task}
    (changed : tasks = queue.tasks.map fun other => if other.id = held.id then new else other) :
    (MemoryQueue.releaseSign { queue with tasks } new).Indexed := by
  have unique {sign : String} {id : TaskId} (carried : CarriedBy queue.tasks sign id)
      (same : id = held.id) : held.collisionSign = some sign := by
    obtain ⟨other, inside, named, signed, -⟩ := carried
    rw [← eq_of_id_eq distinct inside member (named.trans same)]
    exact signed
  cases signed : held.collisionSign with
  | none =>
    rw [releaseSign_unsigned _ (origin.collisionSign.trans signed)]
    refine ⟨indexed.once, fun sign id => ?_⟩
    rw [changed, carriedBy_land queue.tasks held landed, indexed.listed]
    refine ⟨fun carried => ⟨carried, fun same => ?_⟩, And.left⟩
    rw [unique carried same] at signed
    cases signed
  | some own =>
    have owned : CarriedBy queue.tasks own held.id := by
      refine ⟨held, member, rfl, signed, ?_⟩
      rw [process]
      rfl
    have holder : queue.holder? own = some held.id :=
      (indexed.holder?_eq_some_iff own held.id).mpr owned
    rw [releaseSign_held { queue with tasks } (origin.collisionSign.trans signed)
      (holder.trans (congrArg some origin.id.symm))]
    refine ⟨indexed.once.sublist (List.filter_sublist.map Prod.fst), fun sign id => ?_⟩
    rw [changed, carriedBy_land queue.tasks held landed, List.mem_filter, indexed.listed,
      bne_iff_ne]
    refine and_congr_right fun carried => not_congr ⟨fun same => ?_, fun same => ?_⟩
    · -- The index gives a sign to one task only.
      rw [show sign = own from same] at carried
      rw [(indexed.holder?_eq_some_iff own id).mpr carried] at holder
      exact Option.some.inj holder
    · rw [unique carried same] at signed
      exact Option.some.inj signed

theorem settle_absent {report : RunReport} (apply : Task → Task)
    (missing : queue.find? report.id = none) :
    queue.settle report apply = (.error (.notFound report.id.display), queue) := by
  unfold settle
  rw [missing]

theorem settle_unheld {report : RunReport} (apply : Task → Task) {held : Task}
    (found : queue.find? report.id = some held) (unheld : held.status ≠ .process) :
    queue.settle report apply = (.error (.notInProcess report.id), queue) := by
  unfold settle
  rw [found]
  exact if_pos unheld

theorem settle_process {report : RunReport} (apply : Task → Task) {held : Task}
    (found : queue.find? report.id = some held) (process : held.status = .process) :
    queue.settle report apply =
      (.ok (apply (held.absorb report)),
        if (apply (held.absorb report)).status.isInFlight then
          queue.store (apply (held.absorb report))
        else (queue.store (apply (held.absorb report))).releaseSign
          (apply (held.absorb report))) := by
  unfold settle
  rw [found]
  exact if_neg (not_not_intro process)

theorem settle_effect (indexed : queue.Indexed) (distinct : (queue.tasks.map Task.id).Nodup)
    {operation : QueueOperation} {report : RunReport} {apply : Task → Task}
    (reports : operation.settlement? = some (report, apply)) :
    StoredTask.Effect (queue.tasks.map .task) operation
        ((queue.settle report apply).1.map .settled)
        ((queue.settle report apply).2.tasks.map .task) ∧
      (queue.settle report apply).2.Indexed := by
  cases looked : queue.find? report.id with
  | none =>
    rw [settle_absent apply looked]
    exact ⟨.absent _ _ _ reports (find?_eq_none looked), indexed⟩
  | some held =>
    obtain ⟨member, named⟩ := find?_eq_some looked
    have stored : StoredTask.task held ∈ queue.tasks.map .task :=
      List.mem_map.mpr ⟨held, member, rfl⟩
    by_cases process : held.status = .process
    · have origin := QueueOperation.sameOrigin_settlement reports held
      have replaced : queue.store (apply (held.absorb report)) =
          { queue with
            tasks := queue.tasks.map fun other =>
              if other.id = held.id then apply (held.absorb report) else other } := by
        rw [store_present queue _ member origin.id.symm, origin.id]
      have effect : StoredTask.Effect (queue.tasks.map .task) operation
          (.ok (.settled (apply (held.absorb report))))
          ((queue.store (apply (held.absorb report))).tasks.map .task) := by
        rw [replaced, named, ← StoredTask.replace_tasks]
        exact .settled _ _ _ (.task held) held reports stored (congrArg some named) rfl process
      rw [settle_process apply looked process]
      split
      · next flight =>
        refine ⟨effect, ?_⟩
        rw [replaced]
        refine ⟨indexed.once, fun sign id => ?_⟩
        rw [indexed.listed, carriedBy_fly distinct member origin]
        rw [flight, process]
        rfl
      · next landed =>
        rw [releaseSign_tasks]
        refine ⟨effect, ?_⟩
        rw [replaced]
        exact indexed.releaseSign distinct member process origin (Bool.eq_false_iff.mpr landed) rfl
    · rw [settle_unheld apply looked process]
      exact ⟨.unheld _ _ _ (.task held) held reports stored (congrArg some named) rfl process,
        indexed⟩

theorem get_effect (queue : MemoryQueue) (id : TaskId) :
    StoredTask.Effect (queue.tasks.map .task) (.get id) (.ok (.found (queue.find? id)))
      (queue.tasks.map .task) := by
  cases looked : queue.find? id with
  | none => exact .notFound id (find?_eq_none looked)
  | some held =>
    obtain ⟨member, named⟩ := find?_eq_some looked
    exact .found id (.task held) (List.mem_map.mpr ⟨held, member, rfl⟩) (congrArg some named)

theorem of_countTasks (tasks : List Task) (status : TaskStatus) :
    (countTasks tasks).of status = tasks.countP fun task => task.status = status := by
  have counted (start : TaskCounts) :
      (tasks.foldl (fun counts task => counts.add task.status 1) start).of status =
        start.of status + tasks.countP fun task => task.status = status := by
    induction tasks generalizing start with
    | nil => rfl
    | cons task rest inductionHypothesis =>
      rw [List.foldl_cons, inductionHypothesis, TaskCounts.of_add, List.countP_cons]
      by_cases same : task.status = status
      · simp only [same, decide_true, if_true]
        omega
      · simp [same]
  rw [countTasks, counted]
  cases status <;> exact Nat.zero_add _

theorem counts_effect (queue : MemoryQueue) :
    StoredTask.Effect (queue.tasks.map .task) .counts (.ok (.counted queue.counts))
      (queue.tasks.map .task) := by
  refine .counted queue.counts fun status => ?_
  rw [counts, of_countTasks, List.countP_map]
  exact List.countP_congr fun task _ => by simp [StoredTask.status?]

theorem reap_effect (indexed : queue.Indexed) (now cutoff : Instant) :
    StoredTask.Effect (queue.tasks.map .task) (.reap now cutoff)
        (.ok (.changed (queue.reap now cutoff).1)) ((queue.reap now cutoff).2.tasks.map .task) ∧
      (queue.reap now cutoff).2.Indexed := by
  refine ⟨?_, indexed.once, fun sign id => ?_⟩
  · exact .reaped_map queue.tasks (fun _ => rfl) fun _ => rfl
  · refine (indexed.listed sign id).trans ?_
    refine (carriedBy_map (fun held inside => ?_) (fun held inside => ?_) sign id).symm
    · split
      · exact held.sameOrigin_reaped now
      · exact .refl held
    · split
      · next stale =>
        simp only [isStale, Bool.and_eq_true, decide_eq_true_eq] at stale
        rw [stale.1]
        rfl
      · rfl

theorem purge_effect (indexed : queue.Indexed) (before : Instant) :
    StoredTask.Effect (queue.tasks.map .task) (.purge before)
        (.ok (.changed (queue.purge before).1)) ((queue.purge before).2.tasks.map .task) ∧
      (queue.purge before).2.Indexed := by
  refine ⟨?_, indexed.once, fun sign id => ?_⟩
  · exact .purged_map queue.tasks fun _ => rfl
  · refine (indexed.listed sign id).trans ?_
    constructor
    · rintro ⟨held, member, named, signed, inFlight⟩
      refine ⟨held, List.mem_filter.mpr ⟨member, ?_⟩, named, signed, inFlight⟩
      simp [isExpired, TaskStatus.isTerminal, inFlight]
    · rintro ⟨held, member, carries⟩
      exact ⟨held, (List.mem_filter.mp member).1, carries⟩

end

end MemoryQueue

end TaskAutomation
