/-!
# Outcomes

A value or a failure.  When steps are taken one after the other and the last one
gives a value, each of them has given one.
-/

namespace WorkspaceStartup

theorem exists_of_bind_eq_ok {outcome : Except ε α} {next : α → Except ε β}
    {result : β} (succeeded : outcome >>= next = .ok result) :
    ∃ value, outcome = .ok value ∧ next value = .ok result := by
  cases outcome with
  | error => cases succeeded
  | ok value => exact ⟨value, rfl, succeeded⟩

theorem map_eq_ok_iff {outcome : Except ε α} {apply : α → β} {result : β} :
    outcome.map apply = .ok result ↔
      ∃ value, outcome = .ok value ∧ apply value = result := by
  cases outcome <;> simp [Except.map]

end WorkspaceStartup
