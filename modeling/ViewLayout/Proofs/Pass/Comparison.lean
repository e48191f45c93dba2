import ViewLayout.Proofs.Directive.Attributes
import ViewLayout.Proofs.Pass.Tolerance

/-!
# What constraints are compared with

A constraint for a size is compared with a constant if no view is given, and any other constraint
with the view that is given or else with the parent. `compile_compares` says when a constraint has
no view and when it has no attribute on the right. Both come to the same but for the constraints of
a root view that has no parent: there is no view that such a constraint could be compared with by
default, and yet it has the attribute on its left on the right too.
-/

namespace ViewLayout

namespace Context

variable {context : Context}

/-- A context has no attribute on the right exactly if it is for a constant size. -/
theorem getD_rightAttribute_eq_iff (left : context.leftAttribute ≠ .noAttribute)
    (right : context.givenAttribute ≠ some .noAttribute) :
    context.rightAttribute.getD context.leftAttribute = .noAttribute ↔
      context.isConstantSize = true := by
  unfold rightAttribute
  by_cases constant : context.isConstantSize = true
  · simp [constant]
  · cases given : context.givenAttribute with
    | none => simpa [constant] using left
    | some attr =>
      rw [given] at right
      simpa [constant] using right

/-- A context has no view exactly if it is for a constant size, or if no view is given and there is
no parent. -/
theorem comparableView_eq_none_iff (right : context.givenAttribute ≠ some .noAttribute)
    (forest : Forest) :
    context.comparableView forest = none ↔
      context.isConstantSize = true ∨
        context.givenView = none ∧ forest.parent? context.target = none := by
  unfold comparableView rightAttribute
  by_cases constant : context.isConstantSize = true
  · simp [constant]
  · cases given : context.givenView <;> simp [constant, right]

end Context

namespace Scope

variable {scope : Scope} {target : ViewId} {directive : Directive} {spec : Spec}

/-- What a reference comes to is no view exactly if there is none, unless it is unresolved. -/
theorem view?_resolve_eq_none_iff {reference : Option String}
    (resolved : ∀ name, scope.resolve target reference ≠ .unresolved name) :
    (scope.resolve target reference).view? = none ↔ reference = none := by
  cases reference with
  | none => simp [resolve, Comparable.view?]
  | some name =>
    have known := resolved name
    simp only [resolve] at known ⊢
    split <;> simp_all [Comparable.view?]

/-- A constraint of a directive is the verdict on an attribute on its left, and the directive's
reference is not unresolved. -/
theorem exists_verdict_of_mem_specsOf
    (unfailed : (scope.establishment .log target directive).failure = none)
    (own : spec ∈ scope.specsOf target directive) :
    (∀ name, scope.resolve target (directive.answer .reference) ≠ .unresolved name) ∧
      ∃ leftAttribute ∈ directive.answer .leftAttributes,
        scope.verdict directive (scope.contextOf target directive
          (scope.resolve target (directive.answer .reference)).view? leftAttribute) =
            .spec spec := by
  rw [(specsOf_eq unfailed).1] at own
  obtain ⟨verdict, member, told⟩ := List.mem_filterMap.1 own
  cases verdict with
  | fault diagnostic => cases told
  | spec finished =>
    cases told
    unfold verdicts at member
    cases meant : scope.resolve target (directive.answer .reference) with
    | unresolved name =>
      rw [meant] at member
      cases List.mem_singleton.1 member
    | _ =>
      rw [meant] at member
      exact ⟨by simp, List.mem_map.1 member⟩

/-- The verdict on a context is its constraint only if the view that it is compared with is in the
same tree. -/
theorem eq_specOf_of_verdict {context : Context}
    (finished : scope.verdict directive context = .spec spec) :
    spec = scope.specOf directive context ∧
      scope.forest.sharesAncestry context.target
        ((context.comparableView scope.forest).getD context.target) = true := by
  unfold verdict at finished
  split at finished
  · next shares =>
    cases finished
    exact ⟨rfl, shares⟩
  · cases finished

/-- A constraint of a directive is that of an attribute on its left, whose reference comes to
a view or is not there. -/
theorem exists_context_of_mem_specsOf
    (unfailed : (scope.establishment .log target directive).failure = none)
    (own : spec ∈ scope.specsOf target directive) :
    ∃ leftAttribute ∈ directive.answer .leftAttributes, ∃ givenView : Option ViewId,
      givenView = (scope.resolve target (directive.answer .reference)).view? ∧
        (givenView = none ↔ directive.answer .reference = none) ∧
          spec = scope.specOf directive
            (scope.contextOf target directive givenView leftAttribute) := by
  obtain ⟨resolved, leftAttribute, left, finished⟩ := exists_verdict_of_mem_specsOf unfailed own
  exact ⟨leftAttribute, left, _, rfl, view?_resolve_eq_none_iff resolved,
    (eq_specOf_of_verdict finished).1⟩

/-- A directive's constraint has no attribute on the right exactly if it is for a size, and no view
is given or those that are given do not count. -/
theorem effectiveRightAttribute_specOf_iff (scope : Scope) (target : ViewId)
    {leftAttribute : Attribute}
    (left : leftAttribute ∈ directive.answer .leftAttributes) (givenView : Option ViewId) :
    (scope.specOf directive
        (scope.contextOf target directive givenView leftAttribute)).effectiveRightAttribute =
          .noAttribute ↔
      leftAttribute.isSize = true ∧
        (givenView = none ∨ scope.config.independentIgnoresExplicitView.isTruthy = true) := by
  refine (Context.getD_rightAttribute_eq_iff (Directive.ne_noAttribute_of_mem_answer left)
    directive.answer_rightAttribute_ne).trans ?_
  simp [Context.isConstantSize, contextOf]

/-- It has no view exactly in these cases, and if no view is given and there is no parent. -/
theorem comparableView_specOf_iff (scope : Scope) (target : ViewId) {leftAttribute : Attribute}
    (left : leftAttribute ∈ directive.answer .leftAttributes) (givenView : Option ViewId) :
    (scope.specOf directive
        (scope.contextOf target directive givenView leftAttribute)).comparableView = none ↔
      (scope.specOf directive
          (scope.contextOf target directive givenView leftAttribute)).effectiveRightAttribute =
            .noAttribute ∨
        givenView = none ∧ scope.forest.parent? target = none := by
  have right := directive.answer_rightAttribute_ne
  refine (Context.comparableView_eq_none_iff right scope.forest).trans (or_congr_left ?_)
  exact (Context.getD_rightAttribute_eq_iff (Directive.ne_noAttribute_of_mem_answer left)
    right).symm

end Scope

namespace Pass

variable {settings : Settings} {document : Document} {root : ViewId} {scene : Scene}

/-- What a constraint of a pass is compared with, by the directive that it comes from. -/
structure Compares (settings : Settings) (document : Document) (root : ViewId) (scene : Scene)
    (directive : Directive) (spec : Spec) : Prop where
  given : Given document root scene spec.target directive
  own : spec ∈ (scope settings document root scene).specsOf spec.target directive
  /-- There is no attribute on the right exactly for sizes for which no view is given, or for which
  views that are given do not count. -/
  attribute_iff : spec.effectiveRightAttribute = .noAttribute ↔
    spec.leftAttribute.isSize = true ∧
      (directive.answer .reference = none ∨
        settings.config.independentIgnoresExplicitView.isTruthy = true)
  /-- There is no view exactly for these, and where no view is given for a root view without a
  parent. -/
  view_iff : spec.comparableView = none ↔
    spec.effectiveRightAttribute = .noAttribute ∨
      directive.answer .reference = none ∧ spec.target = root ∧ scene.forest.parent? root = none
  /-- So a constraint without a view has an attribute on the right exactly if it is not for a size,
  and for a root view without a parent. -/
  agree_iff : (spec.effectiveRightAttribute = .noAttribute ↔ spec.comparableView = none) ↔
    ¬ (spec.leftAttribute.isSize = false ∧ directive.answer .reference = none ∧
      spec.target = root ∧ scene.forest.parent? root = none)

/-- A view that was built and has no parent is the root view. -/
theorem parent?_built_eq_none_iff (formed : scene.forest.WellFormed)
    (inside : root < scene.forest.size)
    (indexed : ∀ name id, scene.index.get? name = some id → id < scene.forest.size)
    {entry : Description × ViewId} (built : entry ∈ (hierarchy document root scene).built) :
    (hierarchy document root scene).scene.forest.parent? entry.2 = none ↔
      entry.2 = root ∧ scene.forest.parent? root = none := by
  have leads := leads_hierarchy formed inside indexed document
  constructor
  · intro top
    rcases Relation.ReflTransGen.cases_head (leads.sound.under entry built) with same | ⟨_, step, _⟩
    · refine ⟨same, ?_⟩
      rw [same, leads.parent?_root] at top
      exact top
    · rw [Forest.HasParent, top] at step
      cases step
  · rintro ⟨same, top⟩
    rw [same, leads.parent?_root]
    exact top

/-- **A constraint has no view exactly if it has no attribute on the right**, but for those of a
root view without a parent. -/
theorem compile_compares (formed : scene.forest.WellFormed) (inside : root < scene.forest.size)
    (indexed : ∀ name id, scene.index.get? name = some id → id < scene.forest.size)
    {layout : Layout} (returned : (compile settings document root scene).result = .ok layout) :
    ∀ spec ∈ layout.constraints, ∃ directive,
      Compares settings document root scene directive spec := by
  intro spec member
  have done := done_of_compile returned
  rw [eq_layoutOf_of_compile returned, layoutOf, specs_steps] at member
  obtain ⟨entry, built, found⟩ := List.mem_flatMap.1 member
  obtain ⟨directive, listed, own⟩ := List.mem_flatMap.1 found
  obtain ⟨leftAttribute, left, givenView, _, absent, rfl⟩ :=
    Scope.exists_context_of_mem_specsOf (done.unfailed built listed .log) own
  have constant := (scope settings document root scene).effectiveRightAttribute_specOf_iff
    entry.2 left givenView
  have view := (scope settings document root scene).comparableView_specOf_iff entry.2 left givenView
  have top := parent?_built_eq_none_iff formed inside indexed built
  rw [absent] at constant view
  have orphaned := view.trans (or_congr_right (and_congr_right fun _ => top))
  exact ⟨directive, {
    given := ⟨entry, built, rfl, listed⟩
    own := own
    attribute_iff := constant
    view_iff := orphaned
    agree_iff := by
      constructor
      · rintro same ⟨wide, absent, orphan⟩
        have size := (constant.1 (same.2 (orphaned.2 (.inr ⟨absent, orphan⟩)))).1
        exact Bool.false_ne_true (wide.symm.trans size)
      · intro anchored
        refine ⟨fun none => orphaned.2 (.inl none), fun none => ?_⟩
        rcases orphaned.1 none with none | ⟨absent, orphan⟩
        · exact none
        · refine constant.2 ⟨?_, .inl absent⟩
          by_contra wide
          exact anchored ⟨Bool.eq_false_iff.2 wide, absent, orphan⟩ }⟩

/-- A directive for the leading edge of a view, and one for its width. -/
def unanchored : Document where
  root :=
    { name := "window"
      constraints := [⟨"leading", .shorthand "+8", .log⟩, ⟨"width", .shorthand "+20", .log⟩] }

/-- That document is compiled to a layout. -/
theorem returned_unanchored : ∃ layout, (compile {} unanchored 0 oneView).result = .ok layout := by
  refine ⟨_, congrArg Outcome.result (compile_eq_ending (done_of_leaf rfl rfl ?_))⟩
  intro directive own
  rcases List.mem_cons.1 own with rfl | rest
  · decide
  · rw [List.mem_singleton.1 rest]
    decide

/-- The width of the window is against a constant, and its leading edge is not. -/
theorem compile_compares_unanchored :
    ∃ layout, (compile {} unanchored 0 oneView).result = .ok layout ∧
      layout.constraints.map Spec.effectiveRightAttribute = [.leading, .noAttribute] ∧
      ∀ spec ∈ layout.constraints, ∃ directive,
        Compares {} unanchored 0 oneView directive spec := by
  obtain ⟨layout, returned⟩ := returned_unanchored
  refine ⟨layout, returned, ?_, compile_compares
    (Forest.wellFormed_after [.create "window" none none]) (by decide)
    (fun name id meant => by cases meant) returned⟩
  rw [constraints_of_leaf rfl rfl returned]
  decide

/-- The leading edge of a window without a parent is compared with no view, and yet it stands on
both sides. -/
theorem exists_leading_without_view :
    ∃ layout, (compile {} unanchored 0 oneView).result = .ok layout ∧
      ∃ spec ∈ layout.constraints,
        spec.comparableView = none ∧ spec.effectiveRightAttribute = .leading := by
  obtain ⟨layout, returned⟩ := returned_unanchored
  refine ⟨layout, returned, ?_⟩
  rw [constraints_of_leaf rfl rfl returned]
  decide

end Pass

end ViewLayout
