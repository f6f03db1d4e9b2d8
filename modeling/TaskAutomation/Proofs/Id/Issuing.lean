import TaskAutomation.Id.Basic
import Mathlib.Data.List.Induction
import Mathlib.Order.Bounds.Basic
import Mathlib.Order.MinMax

/-!
This file proves that a source issues greater and greater identifiers, whatever its clock and its
random bits are. What it issues next comes after the last one, and its time is the later one of the
time of the last one and the reading of the clock, as long as the last one has a next one of the
same time. So the last identifier is the greatest one, and it has the greatest time of all readings.
-/

namespace TaskAutomation

/-- The time part that an identifier of this moment has: the milliseconds since 1970, of which there
are none before, in 48 bits. -/
def Instant.timePart (now : Instant) : Nat := now.millis.toNat % Ulid.timeSize

namespace Ulid

variable {id : Ulid}

theorem value_ofParts (millis draw : Nat) :
    (ofParts millis draw).value = millis % timeSize * drawSize + draw % drawSize := by
  have time : millis % timeSize < timeSize := Nat.mod_lt _ (by decide)
  have bits : draw % drawSize < drawSize := Nat.mod_lt _ (by decide)
  refine Nat.mod_eq_of_lt ?_
  unfold timeSize drawSize at *
  unfold size
  omega

@[simp] theorem millis_ofParts (millis draw : Nat) :
    (ofParts millis draw).millis = millis % timeSize := by
  have bits : draw % drawSize < drawSize := Nat.mod_lt _ (by decide)
  rw [Ulid.millis, value_ofParts, Nat.mul_comm, Nat.mul_add_div (by decide),
    Nat.div_eq_of_lt bits, Nat.add_zero]

/-- An identifier whose random bits are not all set has a next one of the same time. -/
theorem exists_next (spare : id.draw ≠ drawSize - 1) :
    ∃ next, id.next? = some next ∧ next.value = id.value + 1 ∧ next.millis = id.millis := by
  have bound := id.value_lt
  have room : id.value + 1 < size ∧ (id.value + 1) / drawSize = id.value / drawSize := by
    unfold draw drawSize at spare
    unfold size drawSize at *
    omega
  have value : (ofNat (id.value + 1)).value = id.value + 1 := Nat.mod_eq_of_lt room.1
  refine ⟨ofNat (id.value + 1), if_neg fun full => spare ?_, value, ?_⟩
  · rw [← full, Nat.add_sub_cancel]
  · rw [Ulid.millis, value, room.2, Ulid.millis]

end Ulid

namespace IdSource

variable {source : IdSource} {last : Ulid} {ids : List Ulid} {times : List Nat}

/-- All identifiers that a new source issues for readings of the clock and random bits, and the
source behind them. -/
def issued (readings : List (Instant × Nat)) : List Ulid × IdSource :=
  readings.foldl (fun (ids, source) (now, draw) =>
    let (id, source) := source.issue now draw
    (ids ++ [id], source)) ([], fresh)

theorem issued_append_singleton (past : List (Instant × Nat)) (now : Instant) (draw : Nat) :
    issued (past ++ [(now, draw)]) =
      ((issued past).1 ++ [((issued past).2.issue now draw).1],
        ((issued past).2.issue now draw).2) := by
  rw [issued, List.foldl_append]
  rfl

/-! ### One identifier after another -/

/-- The first identifier has the time of the clock. -/
theorem millis_issue_of_none (first : source.last = none) (now : Instant) (draw : Nat) :
    (source.issue now draw).1.millis = now.timePart := by
  simp only [issue, first]
  exact Ulid.millis_ofParts _ _

/-- An identifier comes after the last one, at the later one of the two times. -/
theorem issue_after (follows : source.last = some last) (spare : last.draw ≠ Ulid.drawSize - 1)
    (now : Instant) (draw : Nat) :
    last.value < (source.issue now draw).1.value ∧
      (source.issue now draw).1.millis = max last.millis now.timePart := by
  have time : (Ulid.ofParts now.millis.toNat draw).millis = now.timePart := Ulid.millis_ofParts _ _
  simp only [issue, follows, Ulid.le, decide_eq_true_eq]
  rw [← time]
  generalize Ulid.ofParts now.millis.toNat draw = made
  split
  · next behind =>
    -- The clock stands still or has gone back: the last identifier is counted up.
    obtain ⟨next, exists_next, value, millis⟩ := Ulid.exists_next spare
    have earlier : made.millis ≤ last.millis := Nat.div_le_div_right behind
    rw [exists_next, Option.getD_some, value, millis, max_eq_left earlier]
    exact ⟨Nat.lt_succ_self _, rfl⟩
  · next ahead =>
    have after : last.value < made.value := Nat.lt_of_not_le ahead
    have later : last.millis ≤ made.millis := Nat.div_le_div_right after.le
    exact ⟨after, (max_eq_right later).symm⟩

/-! ### All identifiers -/

/-- The source remembers the greatest of the identifiers it has issued, and it has the greatest of
the times. -/
structure Remembers (source : IdSource) (ids : List Ulid) (times : List Nat) : Prop where
  start : source.last = none → ids = [] ∧ times = []
  greatest : ∀ last ∈ source.last, ∀ id ∈ ids, id.value ≤ last.value
  time : ∀ last ∈ source.last, IsGreatest {time | time ∈ times} last.millis

theorem remembers_fresh : fresh.Remembers [] [] := ⟨fun _ => ⟨rfl, rfl⟩, nofun, nofun⟩

/-- What is issued next is greater than all before, and it has the greatest of the times. -/
theorem Remembers.issue (remembers : source.Remembers ids times)
    (spare : ∀ last ∈ source.last, last.draw ≠ Ulid.drawSize - 1) (now : Instant) (draw : Nat) :
    (∀ earlier ∈ ids, earlier.value < (source.issue now draw).1.value) ∧
      IsGreatest {time | time ∈ times ++ [now.timePart]} (source.issue now draw).1.millis := by
  cases follows : source.last with
  | none =>
    obtain ⟨rfl, rfl⟩ := remembers.start follows
    refine ⟨nofun, ?_⟩
    rw [millis_issue_of_none follows]
    simp [IsGreatest]
  | some last =>
    obtain ⟨after, millis⟩ := issue_after follows (spare last follows) now draw
    obtain ⟨among, above⟩ := remembers.time last follows
    refine ⟨fun earlier member =>
      (remembers.greatest last follows earlier member).trans_lt after, ?_, ?_⟩
    · rw [millis]
      obtain held | read := max_choice last.millis now.timePart
      · rw [held]
        exact List.mem_append_left _ among
      · rw [read]
        exact List.mem_append_right _ List.mem_cons_self
    · rw [millis]
      intro time member
      obtain before | read := List.mem_append.mp member
      · exact (above before).trans (le_max_left _ _)
      · rw [List.mem_singleton.mp read]
        exact le_max_right _ _

theorem Remembers.next (remembers : source.Remembers ids times)
    (spare : ∀ last ∈ source.last, last.draw ≠ Ulid.drawSize - 1) (now : Instant) (draw : Nat) :
    (source.issue now draw).2.Remembers (ids ++ [(source.issue now draw).1])
      (times ++ [now.timePart]) := by
  obtain ⟨greater, time⟩ := remembers.issue spare now draw
  refine ⟨nofun, ?_, ?_⟩
  · intro last follows id member
    obtain rfl := Option.some.inj follows
    obtain earlier | own := List.mem_append.mp member
    · exact (greater id earlier).le
    · exact le_of_eq (congrArg Ulid.value (List.mem_singleton.mp own))
  · intro last follows
    obtain rfl := Option.some.inj follows
    exact time

/-- What a source remembers is among what it has issued. -/
theorem mem_issued_of_last (past : List (Instant × Nat))
    (follows : (issued past).2.last = some last) : last ∈ (issued past).1 := by
  induction past using List.reverseRecOn with
  | nil => cases follows
  | append_singleton past reading =>
    rw [issued_append_singleton] at follows ⊢
    cases follows
    exact List.mem_append_right _ List.mem_cons_self

theorem remembers_issued (past : List (Instant × Nat))
    (spare : ∀ id ∈ (issued past).1, id.draw ≠ Ulid.drawSize - 1) :
    (issued past).2.Remembers (issued past).1 (past.map fun reading => reading.1.timePart) := by
  induction past using List.reverseRecOn with
  | nil => exact remembers_fresh
  | append_singleton past reading inductionHypothesis =>
    rw [issued_append_singleton] at spare ⊢
    have before : ∀ id ∈ (issued past).1, id.draw ≠ Ulid.drawSize - 1 :=
      fun id member => spare id (List.mem_append_left _ member)
    rw [List.map_append]
    exact (inductionHypothesis before).next
      (fun last follows => before last (mem_issued_of_last past follows)) reading.1 reading.2

/-- As long as no identifier has all of its random bits set, the one that is issued next is greater
than all before, and its time is the greatest reading of the clock so far. -/
theorem issue_greatest (past : List (Instant × Nat)) (now : Instant) (draw : Nat)
    (spare : ∀ id ∈ (issued past).1, id.draw ≠ Ulid.drawSize - 1) :
    (∀ earlier ∈ (issued past).1, earlier.value < ((issued past).2.issue now draw).1.value) ∧
      IsGreatest {time | ∃ reading ∈ past ++ [(now, draw)], time = reading.1.timePart}
        ((issued past).2.issue now draw).1.millis := by
  obtain ⟨greater, time⟩ := (remembers_issued past spare).issue
    (fun last follows => spare last (mem_issued_of_last past follows)) now draw
  refine ⟨greater, ?_⟩
  have same : {time | ∃ reading ∈ past ++ [(now, draw)], time = reading.1.timePart} =
      {time | time ∈ (past.map fun reading => reading.1.timePart) ++ [now.timePart]} := by
    ext time
    simp [eq_comm]
  rw [same]
  exact time

/-- A clock that stands still, goes back to before 1970, leaves the times of 48 bits, and is put
right. -/
def wanderingReadings : List (Instant × Nat) :=
  [(⟨1, 0⟩, 7), (⟨1, 0⟩, 3), (⟨-5, 0⟩, 9), (⟨281474976711, 0⟩, 1)]

theorem issue_greatest_wandering :
    (∀ id ∈ (issued wanderingReadings).1, id.draw ≠ Ulid.drawSize - 1) ∧
      (issued wanderingReadings).1.map (fun id => (id.millis, id.draw)) =
        [(1000, 7), (1000, 8), (1000, 9), (1000, 10)] ∧
      (∀ earlier ∈ (issued wanderingReadings).1,
        earlier.value < ((issued wanderingReadings).2.issue ⟨2, 0⟩ 5).1.value) ∧
      IsGreatest {time | ∃ reading ∈ wanderingReadings ++ [(⟨2, 0⟩, 5)], time = reading.1.timePart}
        ((issued wanderingReadings).2.issue ⟨2, 0⟩ 5).1.millis := by
  have spare : ∀ id ∈ (issued wanderingReadings).1, id.draw ≠ Ulid.drawSize - 1 := by decide
  exact ⟨spare, by decide, issue_greatest wanderingReadings ⟨2, 0⟩ 5 spare⟩

end IdSource

end TaskAutomation
