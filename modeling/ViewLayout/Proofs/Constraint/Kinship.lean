import ViewLayout.Proofs.Constraint.Kinds
import ViewLayout.Proofs.Forest.Ancestry

/-!
# Kinship

An attribute can be compared with a view of the same tree only. A target is `Kindred` if all that
references come to for it is in its tree; then each attribute of a directive that is resolved gives
a constraint, and no error says that two views are in different trees.
-/

namespace ViewLayout.Scope

/-- All views that references come to for a target are in its tree. -/
def Kindred (scope : Scope) (target : ViewId) : Prop :=
  ∀ reference view, scope.resolve target reference = .view view →
    scope.forest.root view = scope.forest.root target

variable {scope : Scope} {sink : Sink} {target : ViewId} {directive : Directive}

/-- A view that is compared with is in the tree of the target. -/
theorem Kindred.root_eq_of_view? (kindred : scope.Kindred target) {reference : Option String}
    {view : ViewId} (given : (scope.resolve target reference).view? = some view) :
    scope.forest.root view = scope.forest.root target := by
  refine kindred reference view ?_
  cases meant : scope.resolve target reference with
  | view other =>
    rw [meant] at given
    exact congrArg Comparable.view (Option.some.inj given)
  | _ =>
    rw [meant] at given
    cases given

/-- An attribute of a kindred target is compared within its tree, be it with the view that is
given or with the parent. -/
theorem Kindred.isShared (kindred : scope.Kindred target) (formed : scope.forest.WellFormed)
    {reference : Option String} {context : Context} (aimed : context.target = target)
    (given : (scope.resolve target reference).view? = context.givenView) :
    scope.isShared context = true := by
  subst aimed
  have same : ∀ view, context.comparableView scope.forest = some view →
      scope.forest.root view = scope.forest.root context.target := by
    intro view compared
    unfold Context.comparableView at compared
    split at compared
    · cases compared
    · split at compared
      · next other meant =>
        cases compared
        exact kindred.root_eq_of_view? (given.trans meant)
      · split at compared
        · cases compared
        · exact (formed.root_eq_of_atOrAbove (.single compared)).symm
  rw [Scope.isShared, Forest.sharesAncestry, beq_iff_eq]
  cases compared : context.comparableView scope.forest with
  | none => rfl
  | some view => exact (same view compared).symm

/-- There is no cause to say that a kindred target is compared with a view of another tree. -/
theorem Kindred.not_faults (kindred : scope.Kindred target) (formed : scope.forest.WellFormed)
    (identifier : Option String) : ¬ scope.Faults target (.ancestryNotShared identifier) := by
  rintro ⟨⟩
  next aimed given apart =>
    rw [kindred.isShared formed aimed given] at apart
    cases apart

/-- So nothing of the kind is told, whether a directive can be read or not. -/
theorem Kindred.ne_ancestryNotShared (kindred : scope.Kindred target)
    (formed : scope.forest.WellFormed) {notice : Notice}
    (told : .notice notice ∈ (scope.establishment sink target directive).steps)
    (identifier : Option String) : notice.diagnostic ≠ .ancestryNotShared identifier := by
  intro same
  rcases isOfField_or_faults told with ofField | faults
  · rw [same] at ofField
    cases ofField
  · rw [same] at faults
    exact kindred.not_faults formed identifier faults

/-- **Each attribute of a directive that is resolved for a kindred target gives a constraint.** -/
theorem Kindred.specsOf_eq (kindred : scope.Kindred target) (formed : scope.forest.WellFormed)
    (unfailed : (scope.establishment .log target directive).failure = none)
    (resolved : ∀ name, scope.resolve target (directive.answer .reference) ≠ .unresolved name) :
    scope.specsOf target directive =
      (directive.answer .leftAttributes).map fun leftAttribute =>
        scope.specOf directive
          (scope.contextOf target directive
            (scope.resolve target (directive.answer .reference)).view? leftAttribute) := by
  rw [(Scope.specsOf_eq unfailed).1, verdicts_of_resolved resolved, List.filterMap_map,
    ← List.filterMap_eq_map]
  refine congrArg (List.filterMap · _) (funext fun leftAttribute => ?_)
  exact congrArg Verdict.spec? (if_pos (kindred.isShared formed rfl rfl))

end ViewLayout.Scope
