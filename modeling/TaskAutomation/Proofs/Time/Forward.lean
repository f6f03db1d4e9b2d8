import TaskAutomation.Proofs.Time.Millis
import TaskAutomation.Task.Retry

/-!
This file proves that time goes forward: a span that is not negative leads to a point of time that
is not earlier, out of a leap second too, and so does the wait before another attempt, unless it
ends beyond the latest point of time and is cut there.
-/

namespace TaskAutomation

namespace Span

variable {span : Span}

theorem seconds_nonneg (forward : 0 ≤ span.nanos) : 0 ≤ span.seconds :=
  Int.tdiv_nonneg forward (Int.natCast_nonneg _)

theorem subsecond_nonneg (forward : 0 ≤ span.nanos) : 0 ≤ span.subsecond :=
  Int.tmod_nonneg _ forward

theorem nanos_of_ofDelay? {delay : Delay} (found : ofDelay? delay = some span) :
    0 ≤ span.nanos := by
  unfold ofDelay? at found
  split at found
  · cases found
    exact Int.natCast_nonneg _
  · cases found

end Span

namespace Instant

variable {instant later : Instant} {span : Span}

theorem le_refl (instant : Instant) : instant ≤ instant := by
  rw [le_iff]
  exact Or.inr ⟨rfl, Nat.le_refl _⟩

theorem le_trans {a b c : Instant} (former : a ≤ b) (latter : b ≤ c) : a ≤ c := by
  rw [le_iff] at former latter ⊢
  omega

/-- The point of time at a second and nanoseconds that are still to be carried over into it. -/
def carried? (seconds nanos : Int) : Option Instant :=
  let (seconds, nanos) :=
    if nanos < 0 then (seconds - 1, nanos + nanosPerSecond)
    else if nanosPerSecond ≤ nanos then (seconds + 1, nanos - nanosPerSecond)
    else (seconds, nanos)
  if inRange seconds then some ⟨seconds, nanos.toNat⟩ else none

/-- A span leads out of the leap second that it starts in. -/
def Leaves (instant : Instant) (span : Span) : Prop :=
  0 < span.seconds ∨
    (0 < span.subsecond ∧ 2 * (nanosPerSecond : Int) - span.subsecond ≤ instant.nanos)

instance (instant : Instant) (span : Span) : Decidable (instant.Leaves span) := by
  unfold Leaves
  infer_instance

/-- The addition of a span that is not negative. -/
theorem add?_forward (forward : 0 ≤ span.nanos) :
    instant.add? span =
      if instant.isLeap then
        if instant.Leaves span then
          carried? (instant.seconds + span.seconds)
            (instant.nanos - nanosPerSecond + span.subsecond)
        else some ⟨instant.seconds, (instant.nanos + span.subsecond).toNat⟩
      else carried? (instant.seconds + span.seconds) (instant.nanos + span.subsecond) := by
  have whole := Int.not_lt.mpr (Span.seconds_nonneg forward)
  by_cases leap : instant.isLeap = true
  · by_cases leaves : instant.Leaves span
    · rw [if_pos leap, if_pos leaves]
      unfold Leaves at leaves
      simp only [add?, leap, leaves, if_true, not_true_eq_false, false_and, and_false, if_false]
      rfl
    · rw [if_pos leap, if_neg leaves]
      unfold Leaves at leaves
      simp only [add?, leap, leaves, whole, if_true, not_false_eq_true, and_self,
        Bool.false_eq_true, if_false]
  · rw [if_neg leap]
    rw [Bool.not_eq_true] at leap
    simp only [add?, leap, Bool.false_eq_true, false_and, if_false, not_false_eq_true, if_true]
    rfl

theorem le_of_carried? {seconds nanos : Int} (present : 0 ≤ nanos)
    (carried : carried? seconds nanos = some later) :
    seconds < later.seconds ∨ seconds = later.seconds ∧ nanos.toNat = later.nanos ∧
      nanos < nanosPerSecond := by
  simp only [carried?, if_neg (Int.not_lt.mpr present)] at carried
  by_cases full : (nanosPerSecond : Int) ≤ nanos
  · simp only [if_pos full, Option.ite_none_right_eq_some, Option.some.injEq] at carried
    obtain ⟨-, rfl⟩ := carried
    exact Or.inl (Int.lt_succ _)
  · simp only [if_neg full, Option.ite_none_right_eq_some, Option.some.injEq] at carried
    obtain ⟨-, rfl⟩ := carried
    exact Or.inr ⟨rfl, rfl, Int.not_le.mp full⟩

theorem le_of_add? (forward : 0 ≤ span.nanos) (added : instant.add? span = some later) :
    instant ≤ later := by
  have whole := Span.seconds_nonneg forward
  have part := Span.subsecond_nonneg forward
  rw [add?_forward forward] at added
  rw [le_iff]
  split at added
  · next leap =>
    have beyond : nanosPerSecond ≤ instant.nanos := of_decide_eq_true leap
    split at added
    · next leaves =>
      have further := le_of_carried? (by omega) added
      unfold Leaves at leaves
      omega
    · cases added
      refine Or.inr ⟨rfl, ?_⟩
      show instant.nanos ≤ (instant.nanos + span.subsecond).toNat
      omega
  · have further := le_of_carried? (by omega) added
    omega

/-- A span forwards leads to a point of time that is not earlier, or to the latest one. -/
theorem le_addClamped (instant : Instant) (forward : 0 ≤ span.nanos) :
    instant ≤ instant.addClamped span ∨ instant.addClamped span = max := by
  unfold addClamped
  cases added : instant.add? span with
  | none => exact Or.inr rfl
  | some later => exact Or.inl (le_of_add? forward added)

end Instant

/-- The next attempt is not before the end of the last one, unless it is at the latest point of
time. -/
theorem RetryPolicy.le_nextRunAt (policy : RetryPolicy) (attempts : Nat) (now : Instant) :
    now ≤ policy.nextRunAt attempts now ∨ policy.nextRunAt attempts now = Instant.max := by
  unfold nextRunAt
  split
  · next span found => exact now.le_addClamped (Span.nanos_of_ofDelay? found)
  · exact Or.inr rfl

end TaskAutomation
