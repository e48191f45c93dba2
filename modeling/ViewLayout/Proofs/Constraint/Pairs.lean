import Mathlib.Data.List.Basic
import ViewLayout.Proofs.Constraint.Echo

/-!
# Pairs of directives

What is established with two settings is compared part by part. A relation between lists that goes
through appending holds between the constraints of a directive in two scopes that resolve it alike,
if it holds between what each attribute comes to.
-/

namespace ViewLayout

section Additive

variable {ι α : Type}

/-- A relation between lists that goes through appending. -/
structure Additive (relates : List α → List α → Prop) : Prop where
  nil : relates [] []
  append : ∀ {first second third fourth}, relates first second → relates third fourth →
    relates (first ++ third) (second ++ fourth)

/-- A relation that holds of each part holds of them one after the other. -/
theorem Additive.flatMap {relates : List α → List α → Prop} (additive : Additive relates)
    {list : List ι} {first second : ι → List α}
    (each : ∀ item ∈ list, relates (first item) (second item)) :
    relates (list.flatMap first) (list.flatMap second) := by
  induction list with
  | nil => exact additive.nil
  | cons item rest inner =>
    have later := inner fun other member => each other (List.mem_cons_of_mem _ member)
    exact additive.append (each item List.mem_cons_self) later

/-- Sublists add up. -/
theorem additive_sublist : Additive (α := α) List.Sublist :=
  ⟨.slnil, List.Sublist.append⟩

/-- To have the same entries of some kind is such a relation. -/
theorem additive_filter (keeps other : α → Bool) :
    Additive fun first second : List α => first.filter keeps = second.filter other where
  nil := rfl
  append := by
    intro first second third fourth same later
    rw [List.filter_append, List.filter_append, same, later]

end Additive

namespace Scope

variable {scope other : Scope} {target : ViewId} {directive : Directive}

/-- The specs of a directive are one for each attribute that is finished. -/
theorem specsOf_eq_flatMap
    (unfailed : (scope.establishment .log target directive).failure = none)
    (resolved : ∀ name, scope.resolve target (directive.answer .reference) ≠ .unresolved name) :
    scope.specsOf target directive =
      (directive.answer .leftAttributes).flatMap fun leftAttribute =>
        (scope.verdict directive
          (scope.contextOf target directive
            (scope.resolve target (directive.answer .reference)).view?
            leftAttribute)).spec?.toList := by
  rw [(specsOf_eq unfailed).1, verdicts_of_resolved resolved, List.filterMap_map,
    List.filterMap_eq_flatMap_toList]
  rfl

/-- A directive with an unresolved reference has no specs. -/
theorem specsOf_eq_nil (unfailed : (scope.establishment .log target directive).failure = none)
    {name : String}
    (unresolved : scope.resolve target (directive.answer .reference) = .unresolved name) :
    scope.specsOf target directive = [] := by
  rw [(specsOf_eq unfailed).1, verdicts, unresolved]
  rfl

/-- **What relates the constraints of all attributes relates those of a directive** in two scopes
that resolve it alike. -/
theorem relates_specsOf {relates : List Spec → List Spec → Prop} (additive : Additive relates)
    (same : other.resolve target (directive.answer .reference) =
      scope.resolve target (directive.answer .reference))
    (unfailed : (scope.establishment .log target directive).failure = none)
    (unfailedOther : (other.establishment .log target directive).failure = none)
    (each : ∀ givenView leftAttribute,
      relates
        (scope.verdict directive
          (scope.contextOf target directive givenView leftAttribute)).spec?.toList
        (other.verdict directive
          (other.contextOf target directive givenView leftAttribute)).spec?.toList) :
    relates (scope.specsOf target directive) (other.specsOf target directive) := by
  cases meant : scope.resolve target (directive.answer .reference) with
  | unresolved name =>
    rw [specsOf_eq_nil unfailed meant, specsOf_eq_nil unfailedOther (same.trans meant)]
    exact additive.nil
  | _ =>
    rw [specsOf_eq_flatMap unfailed (by simp [meant]),
      specsOf_eq_flatMap unfailedOther (by simp [same, meant]), same]
    exact additive.flatMap fun leftAttribute _ => each _ leftAttribute

end Scope

end ViewLayout
