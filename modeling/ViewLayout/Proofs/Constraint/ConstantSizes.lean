import ViewLayout.Proofs.Constraint.Fallback

/-!
# Constant sizes

Sizes may be compared with a constant even if a view is given. Whether they are is a setting that
nothing but their constraints depends on: the verdict on any other attribute is the same, and a size
comes to the constraint against a constant that has all else in common with the one that it comes
to otherwise.
-/

namespace ViewLayout

/-- A constraint that is compared with a constant instead. -/
def Spec.againstConstant (spec : Spec) : Spec :=
  { spec with
    comparableView := none
    rightAttribute := some .noAttribute }

/-- That the constraints for sizes are among others against constants goes through appending. -/
theorem additive_sizes : Additive fun first second : List Spec =>
    ((first.filter (·.leftAttribute.isSize)).map Spec.againstConstant).Sublist
      (second.filter (·.leftAttribute.isSize)) where
  nil := .slnil
  append := by
    intro first second third fourth here later
    rw [List.filter_append, List.filter_append, List.map_append]
    exact here.append later

namespace Context

variable {context : Context} {forest : Forest}

/-- An attribute that is no size has the attribute on the right that is given. -/
theorem rightAttribute_of_other (other : context.leftAttribute.isSize = false) :
    context.rightAttribute = context.givenAttribute := by
  simp [rightAttribute, isConstantSize, other]

/-- It is compared with the view that is given or else with the parent. -/
theorem comparableView_of_other (other : context.leftAttribute.isSize = false) :
    context.comparableView forest =
      context.givenView.or
        (if context.givenAttribute = some .noAttribute then none
          else forest.parent? context.target) := by
  have right := rightAttribute_of_other other
  cases given : context.givenView <;> simp [comparableView, isConstantSize, other, right, given]

/-- A size where given views do not count is for a constant. -/
theorem isConstantSize_of_ignores (size : context.leftAttribute.isSize = true)
    (ignores : context.ignoresGivenView = true) : context.isConstantSize = true := by
  simp [isConstantSize, size, ignores]

end Context

namespace Scope

/-- The scope in which given views count for sizes or not. -/
def ignoring (scope : Scope) (flag : Value) : Scope :=
  { scope with config := { scope.config with independentIgnoresExplicitView := flag } }

variable {scope : Scope} {target : ViewId} {directive : Directive} {givenView : Option ViewId}
  {leftAttribute : Attribute} {off on : Value}

/-- What an attribute comes to that is no size does not depend on it. -/
theorem verdict_ignoring_of_other (other : leftAttribute.isSize = false) (first second : Value) :
    (scope.ignoring first).verdict directive
        ((scope.ignoring first).contextOf target directive givenView leftAttribute) =
      (scope.ignoring second).verdict directive
        ((scope.ignoring second).contextOf target directive givenView leftAttribute) := by
  have free (flag : Value) : ((scope.ignoring flag).contextOf target directive givenView
      leftAttribute).leftAttribute.isSize = false := other
  simp only [verdict, specOf, Context.comparableView_of_other (free _),
    Context.rightAttribute_of_other (free _)]
  rfl

/-- A size comes to a constraint against a constant where given views do not count, which has
all else of the constraint where they do. -/
theorem verdict_ignoring_of_size (size : leftAttribute.isSize = true)
    (truthy : on.isTruthy = true) (off : Value) :
    (scope.ignoring on).verdict directive
        ((scope.ignoring on).contextOf target directive givenView leftAttribute) =
      .spec
        ((scope.ignoring off).specOf directive
          ((scope.ignoring off).contextOf target directive givenView
            leftAttribute)).againstConstant := by
  have constant : ((scope.ignoring on).contextOf target directive givenView
      leftAttribute).isConstantSize = true := Context.isConstantSize_of_ignores size truthy
  simp only [verdict, specOf, Context.comparableView, Context.rightAttribute, constant, ↓reduceIte,
    Option.getD_none, Forest.sharesAncestry, beq_self_eq_true]
  rfl

/-- The constraint that an attribute comes to is for it. -/
theorem leftAttribute_of_mem_verdict {spec : Spec}
    (member : spec ∈ (scope.verdict directive
      (scope.contextOf target directive givenView leftAttribute)).spec?.toList) :
    spec.leftAttribute = leftAttribute := by
  unfold verdict at member
  split at member
  · rw [List.mem_singleton.1 member]
    rfl
  · cases member

/-- What an attribute comes to is kept or left out by the attribute. -/
theorem filter_verdict (keeps : Attribute → Bool) :
    (scope.verdict directive
        (scope.contextOf target directive givenView leftAttribute)).spec?.toList.filter
          (keeps ·.leftAttribute) =
      if keeps leftAttribute then
        (scope.verdict directive
          (scope.contextOf target directive givenView leftAttribute)).spec?.toList
      else [] := by
  split
  · next kept =>
    refine List.filter_eq_self.2 fun spec member => ?_
    rwa [leftAttribute_of_mem_verdict member]
  · next left =>
    refine List.filter_eq_nil_iff.2 fun spec member => ?_
    rwa [leftAttribute_of_mem_verdict member]

section Directives

variable (unfailed : ((scope.ignoring off).establishment .log target directive).failure = none)
  (unfailedOn : ((scope.ignoring on).establishment .log target directive).failure = none)
include unfailed unfailedOn

/-- The constraints of a directive that are for no size do not depend on it. -/
theorem filter_others_specsOf :
    ((scope.ignoring off).specsOf target directive).filter (!·.leftAttribute.isSize) =
      ((scope.ignoring on).specsOf target directive).filter (!·.leftAttribute.isSize) := by
  refine relates_specsOf (additive_filter _ _) rfl unfailed unfailedOn fun givenView attr => ?_
  rw [filter_verdict (!·.isSize), filter_verdict (!·.isSize)]
  cases size : attr.isSize with
  | true => rfl
  | false => rw [verdict_ignoring_of_other size off on]

/-- **The constraints of a directive for sizes are among those against constants.** -/
theorem sublist_sizes_specsOf (truthy : on.isTruthy = true) :
    ((((scope.ignoring off).specsOf target directive).filter (·.leftAttribute.isSize)).map
        Spec.againstConstant).Sublist
      (((scope.ignoring on).specsOf target directive).filter (·.leftAttribute.isSize)) := by
  refine relates_specsOf additive_sizes rfl unfailed unfailedOn fun givenView attr => ?_
  rw [filter_verdict Attribute.isSize, filter_verdict Attribute.isSize]
  cases size : attr.isSize with
  | false => exact List.Sublist.refl _
  | true =>
    rw [if_pos rfl, if_pos rfl, verdict_ignoring_of_size size truthy off]
    unfold verdict
    split
    · exact List.Sublist.refl _
    · exact List.nil_sublist _

end Directives

/-- Constraints for sizes are against constants where given views do not count. -/
theorem constant_of_mem_specsOf (truthy : on.isTruthy = true)
    (unfailed : ((scope.ignoring on).establishment .log target directive).failure = none)
    {spec : Spec} (own : spec ∈ (scope.ignoring on).specsOf target directive)
    (size : spec.leftAttribute.isSize = true) :
    spec.comparableView = none ∧ spec.rightAttribute = some .noAttribute := by
  cases meant : (scope.ignoring on).resolve target (directive.answer .reference) with
  | unresolved name =>
    rw [specsOf_eq_nil unfailed meant] at own
    cases own
  | _ =>
    rw [specsOf_eq_flatMap unfailed (by simp [meant])] at own
    obtain ⟨attr, _, member⟩ := List.mem_flatMap.1 own
    rw [leftAttribute_of_mem_verdict member] at size
    rw [verdict_ignoring_of_size size truthy on] at member
    rw [List.mem_singleton.1 member]
    exact ⟨rfl, rfl⟩

section Resolved

variable (truthy : on.isTruthy = true)
  (unfailed : ((scope.ignoring on).establishment .log target directive).failure = none)
  (resolved : ∀ name,
    (scope.ignoring on).resolve target (directive.answer .reference) ≠ .unresolved name)
include truthy unfailed resolved

/-- Every size on the left of a directive that is resolved has a constraint where given views do
not count. -/
theorem leftAttributes_sizes :
    (((scope.ignoring on).specsOf target directive).filter (·.leftAttribute.isSize)).map
        Spec.leftAttribute =
      (directive.answer .leftAttributes).filter Attribute.isSize := by
  rw [specsOf_eq_flatMap unfailed resolved]
  induction directive.answer .leftAttributes with
  | nil => rfl
  | cons attr rest inner =>
    rw [List.flatMap_cons, List.filter_append, List.map_append, inner,
      filter_verdict Attribute.isSize, List.filter_cons]
    cases size : attr.isSize with
    | false => rfl
    | true =>
      rw [if_pos rfl, if_pos rfl, verdict_ignoring_of_size size truthy on]
      rfl

/-- The errors of a directive that is resolved are those of its other attributes, whether given
views count for sizes or not. -/
theorem errors_others (off : Value) :
    ((scope.ignoring on).diagnosticsOf target directive).filter (·.level == .error) =
      ((directive.answer .leftAttributes).filter (!·.isSize)).filterMap fun leftAttribute =>
        ((scope.ignoring off).verdict directive
          ((scope.ignoring off).contextOf target directive
            (scope.resolve target (directive.answer .reference)).view? leftAttribute)).fault? := by
  rw [(specsOf_eq unfailed).2, verdicts_of_resolved resolved, List.filterMap_map,
    List.filterMap_filter]
  refine List.filterMap_congr fun attr _ => ?_
  cases size : attr.isSize with
  | true => exact congrArg Verdict.fault? (verdict_ignoring_of_size size truthy on)
  | false => exact congrArg Verdict.fault? (verdict_ignoring_of_other size on off)

end Resolved

end Scope

end ViewLayout
