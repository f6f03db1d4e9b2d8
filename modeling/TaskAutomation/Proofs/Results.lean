/-!
This file is about results that may be faults: when a chain of steps gives a value, every step of it
has given one.
-/

namespace TaskAutomation

theorem bind_eq_ok {fault α β : Type} {first : Except fault α} {next : α → Except fault β}
    {result : β} :
    (first >>= next) = .ok result ↔ ∃ value, first = .ok value ∧ next value = .ok result := by
  cases first <;> simp [bind, Except.bind]

theorem map_eq_ok {fault α β : Type} {change : α → β} {first : Except fault α} {result : β} :
    first.map change = .ok result ↔ ∃ value, first = .ok value ∧ change value = result := by
  cases first <;> simp [Except.map]

theorem mapError_eq_ok {fault other α : Type} {change : fault → other} {first : Except fault α}
    {result : α} : first.mapError change = .ok result ↔ first = .ok result := by
  cases first with
  | ok value =>
    exact ⟨fun same => congrArg _ (Except.ok.inj same), fun same => congrArg _ (Except.ok.inj same)⟩
  | error fault => exact ⟨nofun, nofun⟩

end TaskAutomation
