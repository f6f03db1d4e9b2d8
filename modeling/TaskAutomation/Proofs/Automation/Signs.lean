import TaskAutomation.Automation.Params
import TaskAutomation.Proofs.Id.Text
import Mathlib.Data.List.Basic

/-!
This file says what a collision sign tells about the work it stands for. A sign starts with the name
of a kind of task, so kinds never share one, and the sign of a trigger's run ends with the trigger's
identifier. But the sign of a transaction joins two texts that anyone may choose, and the mark between
them may stand in either: then the same sign can be cut in more than one place, and contracts that
have nothing to do with each other share it.
-/

namespace TaskAutomation

/-! ### Texts joined by a mark -/

namespace Text

variable {Mark : Type} {mark : Mark} {left right before behind : List Mark}

/-- What is joined by a mark may be cut at any mark, so what stands behind the first part may belong
to it as well. -/
theorem append_mark_eq_iff : left ++ mark :: right = before ++ mark :: behind ↔
    (left = before ∧ right = behind) ∨
      (∃ between, left = before ++ mark :: between ∧ behind = between ++ mark :: right) ∨
      ∃ between, before = left ++ mark :: between ∧ right = between ++ mark :: behind := by
  constructor
  · intro same
    obtain ⟨more, front, rest⟩ | ⟨more, front, rest⟩ := List.append_eq_append_iff.mp same
    · cases more with
      | nil => exact Or.inl ⟨by simpa using front.symm, (List.cons.inj rest).2⟩
      | cons first between =>
        obtain ⟨rfl, tail⟩ := List.cons.inj rest
        exact Or.inr (Or.inr ⟨between, front, tail⟩)
    · cases more with
      | nil => exact Or.inl ⟨by simpa using front, (List.cons.inj rest).2.symm⟩
      | cons first between =>
        obtain ⟨rfl, tail⟩ := List.cons.inj rest
        exact Or.inr (Or.inl ⟨between, front, tail⟩)
  · rintro (⟨rfl, rfl⟩ | ⟨between, rfl, rfl⟩ | ⟨between, rfl, rfl⟩)
    · rfl
    · rw [List.append_assoc, List.cons_append]
    · rw [List.append_assoc, List.cons_append]

/-- The same for texts and the colon. -/
theorem append_colon_eq_iff {left right before behind : String} :
    left ++ ":" ++ right = before ++ ":" ++ behind ↔
      (left = before ∧ right = behind) ∨
        (∃ between, left = before ++ ":" ++ between ∧ behind = between ++ ":" ++ right) ∨
        ∃ between, before = left ++ ":" ++ between ∧ right = between ++ ":" ++ behind := by
  have joined (front back : String) :
      (front ++ ":" ++ back).toList = front.toList ++ ':' :: back.toList := by
    rw [String.toList_append, String.toList_append, List.append_assoc]
    rfl
  have cut (whole front back other : String) :
      (∃ between : String, whole = front ++ ":" ++ between ∧ back = between ++ ":" ++ other) ↔
        ∃ between : List Char, whole.toList = front.toList ++ ':' :: between ∧
          back.toList = between ++ ':' :: other.toList := by
    constructor
    · rintro ⟨between, rfl, rfl⟩
      exact ⟨between.toList, joined front between, joined between other⟩
    · rintro ⟨between, start, stop⟩
      refine ⟨String.ofList between, String.toList_inj.mp ?_, String.toList_inj.mp ?_⟩
      · rw [joined, String.toList_ofList, start]
      · rw [joined, String.toList_ofList, stop]
  rw [cut, cut, ← String.toList_inj, joined, joined, append_mark_eq_iff, String.toList_inj,
    String.toList_inj]

end Text

/-! ### Signs of transactions -/

namespace TransactionRun

variable {run other : TransactionRun}

/-- Both are of one contract, whose address may be written in any case. -/
def SameContract (run other : TransactionRun) : Prop :=
  run.network = other.network ∧ Text.lowerCase run.automate = Text.lowerCase other.automate

/-- The name of a network goes on where the address of the other contract starts. -/
def RunsInto (run other : TransactionRun) : Prop :=
  ∃ between, run.network = other.network ++ ":" ++ between ∧
    Text.lowerCase other.automate = between ++ ":" ++ Text.lowerCase run.automate

/-- A sign stands for a contract and for all those whose texts are the same when read together. -/
theorem collisionSign_eq_iff : run.collisionSign = other.collisionSign ↔
    run.SameContract other ∨ run.RunsInto other ∨ other.RunsInto run := by
  have tail : run.collisionSign = other.collisionSign ↔
      run.network ++ ":" ++ Text.lowerCase run.automate =
        other.network ++ ":" ++ Text.lowerCase other.automate := by
    simp only [collisionSign, String.append_assoc, String.append_right_inj]
  exact tail.trans Text.append_colon_eq_iff

theorem RunsInto.not_sameContract (into : run.RunsInto other) : ¬ run.SameContract other := by
  obtain ⟨between, name, -⟩ := into
  rintro ⟨same, -⟩
  have lengths := congrArg String.length (same.symm.trans name)
  simp only [String.length_append] at lengths
  have mark : String.length ":" = 1 := rfl
  omega

/-- A sign tells two contracts apart exactly if the texts of neither run into those of the other. -/
theorem collisionSign_faithful_iff :
    (run.collisionSign = other.collisionSign ↔ run.SameContract other) ↔
      ¬ run.RunsInto other ∧ ¬ other.RunsInto run := by
  rw [collisionSign_eq_iff]
  constructor
  · intro told
    refine ⟨fun into => into.not_sameContract (told.mp (Or.inr (Or.inl into))), fun into => ?_⟩
    obtain ⟨network, automate⟩ := told.mp (Or.inr (Or.inr into))
    exact into.not_sameContract ⟨network.symm, automate.symm⟩
  · rintro ⟨front, back⟩
    exact or_iff_left (not_or.mpr ⟨front, back⟩)

end TransactionRun

/-! ### Signs of all kinds -/

theorem TriggerRun.collisionSign_eq_iff {id other : TriggerId} :
    collisionSign ⟨id⟩ = collisionSign ⟨other⟩ ↔ id = other := by
  refine ⟨fun same => Id.bare_injective ?_, fun same => by rw [same]⟩
  unfold collisionSign Id.display at same
  exact String.append_right_inj _ |>.mp (String.append_right_inj _ |>.mp same)

/-- The name of the kind is the start of the sign, and the names of two kinds differ in their first
eleven letters. -/
theorem TransactionRun.collisionSign_ne (run : TransactionRun) (id : TriggerId) :
    run.collisionSign ≠ TriggerRun.collisionSign ⟨id⟩ := by
  intro same
  have letters := congrArg (fun sign => sign.toList.take 11) same
  simp only [collisionSign, TriggerRun.collisionSign, String.toList_append] at letters
  simp [TaskKind.name] at letters

/-- No more text follows the name of the kind in the sign of the watcher. -/
theorem ScheduleTick.collisionSign_ne {kind : TaskKind} (other : kind ≠ .scheduleTick)
    (rest : String) : collisionSign ≠ kind.name ++ rest := by
  intro same
  have letters := congrArg (fun sign => sign.toList.take 11) same
  cases kind <;> simp [collisionSign, TaskKind.name, String.toList_append] at letters other

/-- What signs say about the work they stand for: two transactions share one just if they are of one
contract, unless the texts of one run into those of the other; runs of triggers share one just if they
are of one trigger; and work of different kinds never shares one. -/
theorem signs_of_work (run other : TransactionRun) (id otherId : TriggerId) :
    ((run.collisionSign = other.collisionSign ↔ run.SameContract other) ↔
        ¬ run.RunsInto other ∧ ¬ other.RunsInto run) ∧
      (TriggerRun.collisionSign ⟨id⟩ = TriggerRun.collisionSign ⟨otherId⟩ ↔ id = otherId) ∧
      run.collisionSign ≠ TriggerRun.collisionSign ⟨id⟩ ∧
      run.collisionSign ≠ ScheduleTick.collisionSign ∧
      TriggerRun.collisionSign ⟨id⟩ ≠ ScheduleTick.collisionSign := by
  refine ⟨TransactionRun.collisionSign_faithful_iff, TriggerRun.collisionSign_eq_iff,
    run.collisionSign_ne id, ?_, ?_⟩
  · intro same
    simp only [TransactionRun.collisionSign, String.append_assoc] at same
    have other : TaskKind.transactionRun ≠ .scheduleTick := by decide
    exact ScheduleTick.collisionSign_ne other _ same.symm
  · intro same
    simp only [TriggerRun.collisionSign, String.append_assoc] at same
    have other : TaskKind.triggerRun ≠ .scheduleTick := by decide
    exact ScheduleTick.collisionSign_ne other _ same.symm

/-- Two contracts that have neither the network nor the address in common share a sign, although
nothing is wrong with either. -/
theorem contracts_share_sign :
    TransactionRun.verify ⟨"a:b", "c", none⟩ = .ok () ∧
      TransactionRun.verify ⟨"a", "b:c", none⟩ = .ok () ∧
      ¬ TransactionRun.SameContract ⟨"a:b", "c", none⟩ ⟨"a", "b:c", none⟩ ∧
      TransactionRun.collisionSign ⟨"a:b", "c", none⟩ =
        TransactionRun.collisionSign ⟨"a", "b:c", none⟩ := by
  refine ⟨by decide, by decide, fun same => absurd same.1 (by decide), by decide +kernel⟩

end TaskAutomation
