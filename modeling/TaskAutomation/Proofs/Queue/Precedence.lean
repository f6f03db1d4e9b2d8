import Mathlib.Data.Prod.Lex
import Mathlib.Order.MinMax
import TaskAutomation.Proofs.Id.Text
import TaskAutomation.Proofs.Queue.MemoryEffect
import TaskAutomation.Proofs.Time.Millis

/-!
This file proves that a claim in memory hands out the first of the tasks that are due. Every task
has a rank made of its priority, its start and its identifier, one task precedes another if its rank
is smaller, and no two tasks of a queue have the same rank; so of all tasks that are due exactly one
precedes all others, and it is the one that is found.
-/

namespace TaskAutomation

namespace Task

/-- The place of a task among those that wait: the higher its priority, the earlier its start and
the smaller its identifier, the smaller is its rank. -/
def rank (task : Task) : ℤ ×ₗ ℤ ×ₗ ℕ ×ₗ ℕ :=
  toLex (-task.priority,
    toLex (task.startAt.seconds, toLex (task.startAt.nanos, task.id.ulid.value)))

theorem precedes_iff (a b : Task) : a.precedes b = true ↔ a.rank < b.rank := by
  simp only [precedes, Ulid.lt, Bool.or_eq_true, Bool.and_eq_true, decide_eq_true_eq,
    Instant.lt_iff, rank, Prod.Lex.toLex_lt_toLex]
  have same : a.startAt = b.startAt ↔
      a.startAt.seconds = b.startAt.seconds ∧ a.startAt.nanos = b.startAt.nanos := by
    cases a.startAt
    cases b.startAt
    exact Instant.mk.injEq .. ▸ Iff.rfl
  rw [same]
  omega

theorem id_eq_of_rank_eq {a b : Task} (same : a.rank = b.rank) : a.id = b.id := by
  have value : a.id.ulid.value = b.id.ulid.value := by
    simp only [rank, EmbeddingLike.apply_eq_iff_eq, Prod.mk.injEq] at same
    exact same.2.2.2
  exact Id.eq_of_value_eq value

theorem rank_earlier (a b : Task) : (a.earlier b).rank = min a.rank b.rank := by
  unfold earlier
  split
  · next before => exact (min_eq_right ((precedes_iff b a).mp before).le).symm
  · next not => exact (min_eq_left (not_lt.mp fun less => not ((precedes_iff b a).mpr less))).symm

theorem rank_foldl_earlier_le (start : Task) (rest : List Task) :
    ∀ other ∈ start :: rest, (rest.foldl earlier start).rank ≤ other.rank := by
  induction rest generalizing start with
  | nil =>
    intro other member
    rw [List.mem_singleton.mp member]
    exact le_refl _
  | cons next rest inductionHypothesis =>
    have least := inductionHypothesis (start.earlier next) _ List.mem_cons_self
    rw [rank_earlier, le_min_iff] at least
    intro other member
    obtain rfl | member := List.mem_cons.mp member
    · exact least.1
    · obtain rfl | later := List.mem_cons.mp member
      · exact least.2
      · exact inductionHypothesis (start.earlier next) other (List.mem_cons_of_mem _ later)

/-- A task of a queue is due and precedes all other tasks that are. -/
structure IsFirstDue (tasks : List Task) (topics : List String) (now : Instant) (task : Task) :
    Prop where
  member : task ∈ tasks
  due : task.isDue topics now = true
  first : ∀ other ∈ tasks, other.isDue topics now = true → other.id ≠ task.id →
    task.precedes other = true

variable {tasks : List Task} {topics : List String} {now : Instant} {task : Task}

theorem isFirstDue_of_nextDue? (found : nextDue? tasks topics now = some task) :
    IsFirstDue tasks topics now task := by
  obtain ⟨member, due⟩ := mem_of_nextDue? found
  refine ⟨member, due, fun other inside ready different => ?_⟩
  unfold nextDue? at found
  split at found
  · cases found
  · next start rest waiting =>
    cases found
    have listed : other ∈ start :: rest := waiting ▸ List.mem_filter.mpr ⟨inside, ready⟩
    have least := rank_foldl_earlier_le start rest other listed
    rw [precedes_iff]
    exact lt_of_le_of_ne least fun same => different (id_eq_of_rank_eq same).symm

/-- No other task comes first. -/
theorem IsFirstDue.unique {other : Task} (first : IsFirstDue tasks topics now task)
    (second : IsFirstDue tasks topics now other) : task.id = other.id := by
  by_contra different
  have before := first.first other second.member second.due fun same => different same.symm
  have after := second.first task first.member first.due different
  rw [precedes_iff] at before after
  exact lt_asymm before after

/-- A task comes first if and only if it is the one that is found. -/
theorem nextDue?_eq_some_iff (distinct : (tasks.map Task.id).Nodup) :
    nextDue? tasks topics now = some task ↔ IsFirstDue tasks topics now task := by
  refine ⟨isFirstDue_of_nextDue?, fun first => ?_⟩
  cases found : nextDue? tasks topics now with
  | none =>
    have idle := isDue_eq_false_of_nextDue? found task first.member
    rw [first.due] at idle
    cases idle
  | some other =>
    have other := isFirstDue_of_nextDue? found
    exact congrArg some (MemoryQueue.eq_of_id_eq distinct other.member first.member
      (other.unique first))

end Task

end TaskAutomation
