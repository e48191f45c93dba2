import ViewLayout.Proofs.Constraint.Echo
import ViewLayout.Proofs.Constraint.Invariants

/-!
# Kinds of diagnostics

Establishing a directive tells warnings of parts of it that cannot be used, and errors that there is
cause for. That all that was told is of these kinds is an invariant, whatever the directive is
asked.
-/

namespace ViewLayout

/-- Only what there is cause for is told while a directive is established. -/
theorem Ask.invariant_caused (scope : Scope) (sink : Sink) (target : ViewId) :
    Invariant scope sink target fun inquiry =>
      ∀ notice, Step.notice notice ∈ inquiry.told →
        notice.diagnostic.isOfField = true ∨ scope.Faults target notice.diagnostic where
  notes := fun _ _ caused => caused
  remembers := fun _ _ caused => caused
  warns := by
    intro inquiry diagnostic ofField caused notice member
    rcases List.mem_cons.1 member with same | earlier
    · cases same
      exact .inl ofField
    · exact caused notice earlier
  constrains := by
    intro inquiry spec caused notice member
    rcases List.mem_cons.1 member with same | earlier
    · cases same
    · exact caused notice earlier
  faults := by
    intro inquiry diagnostic faults caused notice member
    rcases List.mem_cons.1 member with same | earlier
    · cases same
      exact .inr faults
    · exact caused notice earlier

namespace Scope

variable {scope : Scope} {sink : Sink} {target : ViewId} {directive : Directive}

/-- **A directive comes to warnings of its parts and to errors that there is cause for**, whether it
can be read or not. -/
theorem isOfField_or_faults {notice : Notice}
    (told : .notice notice ∈ (scope.establishment sink target directive).steps) :
    notice.diagnostic.isOfField = true ∨ scope.Faults target notice.diagnostic := by
  rw [establishment_eq] at told
  exact (Ask.invariant_caused scope sink target).establishSteps (inquiryOf sink directive)
    (fun _ none => absurd none List.not_mem_nil) notice (List.mem_reverse.1 told)

end Scope

end ViewLayout
