import ViewLayout.Proofs.Directive.Bounds
import ViewLayout.Proofs.Pass.Naming

/-!
# Soundness of constraints

What makes up a constraint is found out in different places: its numbers and its identifier when the
directive is read, the view on its right when a reference is resolved, and whether the two views are
in one tree at the end. `Spec.WellMade` puts it together, and `compile_sound` says that it holds of
every constraint of a layout among the views as the pass leaves them.
-/

namespace ViewLayout

/-- The sizes are the width and the height. -/
theorem Attribute.isSize_iff {attr : Attribute} :
    attr.isSize = true ↔ attr = .width ∨ attr = .height := by
  cases attr <;> decide

namespace Context

variable {context : Context}

/-- The attribute on the right is the one for none exactly for a constant size. -/
theorem rightAttribute_eq_iff (right : context.givenAttribute ≠ some .noAttribute) :
    context.rightAttribute = some .noAttribute ↔ context.isConstantSize = true := by
  unfold rightAttribute
  cases context.isConstantSize with
  | true => simp
  | false => simpa using right

/-- A constant size is compared with no view. -/
theorem comparableView_of_isConstantSize (constant : context.isConstantSize = true)
    (forest : Forest) : context.comparableView forest = none := by
  rw [comparableView, if_pos constant]

/-- What is no constant size is compared with the view that is given. -/
theorem comparableView_of_given (other : context.isConstantSize ≠ true) {view : ViewId}
    (given : context.givenView = some view) (forest : Forest) :
    context.comparableView forest = some view := by
  rw [comparableView, if_neg other, given]

/-- A constant stays finite under its sign. -/
theorem isFinite_constant (finite : context.givenConstant.value.isFinite = true) :
    context.constant.isFinite = true := by
  unfold constant
  split
  · rwa [Binary64.isFinite_negate]
  · exact finite

end Context

/-- A constraint is well made in a scope, by the directive that it comes from. -/
structure Spec.WellMade (scope : Scope) (directive : Directive) (spec : Spec) : Prop where
  /-- It is compared with no view or with one of the same tree. -/
  related : ∀ view, spec.comparableView = some view →
    scope.forest.root view = scope.forest.root spec.target
  left : spec.leftAttribute ≠ .noAttribute
  /-- It has no attribute on the right exactly if it is for a size and the directive refers to no
  view, or those that are given do not count. -/
  constantSize_iff : spec.rightAttribute = some .noAttribute ↔
    (spec.leftAttribute = .width ∨ spec.leftAttribute = .height) ∧
      (directive.answer .reference = none ∨
        scope.config.independentIgnoresExplicitView.isTruthy = true)
  /-- Then it is compared with no view. -/
  constantSize : spec.rightAttribute = some .noAttribute → spec.comparableView = none
  /-- Otherwise it is compared with the parent if the directive refers to it. -/
  parent : spec.rightAttribute ≠ some .noAttribute →
    ∀ name, directive.answer .reference = some name →
      scope.config.parentReference.text? = some name →
        ∃ parent, scope.forest.parent? spec.target = some parent ∧
          spec.comparableView = some parent
  /-- The constant is finite. -/
  constant : ∃ value, spec.constant.value? = some value
  priority : ∀ priority, spec.priority = some priority →
    ∃ value, priority.value? = some value ∧ 0 ≤ value ∧ value ≤ 1000
  identifier : spec.identifier ≠ some ""

namespace Scope

variable {scope : Scope} {target : ViewId} {directive : Directive} {spec : Spec}

/-- A reference that means the parent and is not unresolved comes to the parent. -/
theorem view?_resolve_of_meansParent {name : String} (means : scope.meansParent name = true)
    (resolved : scope.resolve target (some name) ≠ .unresolved name) :
    ∃ parent, scope.forest.parent? target = some parent ∧
      (scope.resolve target (some name)).view? = some parent := by
  simp only [resolve, means, ↓reduceIte] at resolved ⊢
  cases above : scope.forest.parent? target with
  | none =>
    rw [above] at resolved
    exact absurd rfl resolved
  | some parent => exact ⟨parent, rfl, rfl⟩

/-- Every constraint of a directive is for the target and well made. -/
theorem wellMade_of_mem_specsOf
    (unfailed : (scope.establishment .log target directive).failure = none)
    (own : spec ∈ scope.specsOf target directive) :
    spec.target = target ∧ spec.WellMade scope directive := by
  obtain ⟨resolved, leftAttribute, named, finished⟩ := exists_verdict_of_mem_specsOf unfailed own
  have absent := view?_resolve_eq_none_iff resolved
  generalize meant : (scope.resolve target (directive.answer .reference)).view? = givenView
    at finished absent
  obtain ⟨rfl, shares⟩ := eq_specOf_of_verdict finished
  have right := @Context.rightAttribute_eq_iff
    (scope.contextOf target directive givenView leftAttribute) directive.answer_rightAttribute_ne
  exact ⟨rfl, {
    related := by
      intro view compared
      have same : (scope.contextOf target directive givenView leftAttribute).comparableView
        scope.forest = some view := compared
      rw [same] at shares
      exact (beq_iff_eq.1 shares).symm
    left := Directive.ne_noAttribute_of_mem_answer named
    constantSize_iff := by
      refine right.trans ?_
      simp [Context.isConstantSize, contextOf, specOf, Attribute.isSize_iff, absent]
    constantSize := fun none => Context.comparableView_of_isConstantSize (right.1 none) _
    parent := by
      intro other name given means
      rw [given] at meant resolved
      obtain ⟨parent, above, same⟩ := view?_resolve_of_meansParent (beq_iff_eq.2 means)
        (resolved name)
      refine ⟨parent, above, ?_⟩
      refine Context.comparableView_of_given (fun size => other (right.2 size)) ?_ _
      exact meant.symm.trans same
    constant := Binary64.exists_value?_iff.2
      (Context.isFinite_constant directive.isFinite_answer_constant)
    priority := fun priority answered => Directive.bounds_of_answer_priority answered
    identifier := directive.answer_identifier_ne }⟩

end Scope

namespace Pass

/-- A directive comes to a constraint and is to be established for its target. -/
structure Origin (settings : Settings) (document : Document) (root : ViewId) (scene : Scene)
    (directive : Directive) (spec : Spec) : Prop where
  given : Given document root scene spec.target directive
  own : spec ∈ (scope settings document root scene).specsOf spec.target directive

variable {settings : Settings} {document : Document} {root : ViewId} {scene : Scene}

/-- The constraints of a layout are those that directives come to. -/
theorem mem_constraints_iff {layout : Layout}
    (returned : (compile settings document root scene).result = .ok layout) {spec : Spec} :
    spec ∈ layout.constraints ↔
      ∃ directive, Origin settings document root scene directive spec := by
  have done := done_of_compile returned
  rw [eq_layoutOf_of_compile returned, layoutOf, specs_steps]
  constructor
  · intro member
    obtain ⟨entry, built, found⟩ := List.mem_flatMap.1 member
    obtain ⟨directive, listed, own⟩ := List.mem_flatMap.1 found
    have target := (Scope.wellMade_of_mem_specsOf (done.unfailed built listed .log) own).1
    rw [← target] at own
    exact ⟨directive, ⟨entry, built, target.symm, listed⟩, own⟩
  · rintro ⟨directive, ⟨entry, built, same, listed⟩, own⟩
    rw [← same] at own
    exact List.mem_flatMap.2 ⟨entry, built, List.mem_flatMap.2 ⟨directive, listed, own⟩⟩

/-- **Every constraint of a layout is for a view that was built and comes from a directive**, and it
is well made among the views as the pass leaves them, whichever directive it comes from. -/
theorem compile_sound {layout : Layout}
    (returned : (compile settings document root scene).result = .ok layout) :
    ∀ spec ∈ layout.constraints,
      (∃ entry ∈ (hierarchy document root scene).built, entry.2 = spec.target) ∧
        (∃ directive, Origin settings document root scene directive spec) ∧
          ∀ directive, Origin settings document root scene directive spec →
            spec.WellMade (settings.scope (compile settings document root scene).scene)
              directive := by
  intro spec member
  obtain ⟨directive, origin⟩ := (mem_constraints_iff returned).1 member
  obtain ⟨entry, built, target, _⟩ := origin.given
  refine ⟨⟨entry, built, target⟩, ⟨directive, origin⟩, fun other origin => ?_⟩
  have unfailed := origin.given.unfailed (done_of_compile returned) .log
  have own := origin.own
  have same := (alike_compile settings document root scene).establishment_eq settings
  rw [Scope.specsOf, scope, ← same] at own
  rw [scope, ← same] at unfailed
  exact (Scope.wellMade_of_mem_specsOf unfailed own).2

/-- A window with a panel in it, and a view of another tree. -/
def beside : Scene where
  forest :=
    { views :=
        [{ name := "window", subviews := [1] }, { name := "panel", parent := some 0 },
          { name := "stranger" }] }
  index := [("panel", 1)]

/-- Settings by which the view of the other tree is known. -/
def acquainted : Settings where
  environment := [("stranger", .view 2)]

/-- A window with a label that the panel is moved into. -/
def gathering : Document where
  root :=
    { name := "window"
      subviews :=
        [{ name := "label", isNew := true
           constraints :=
            [⟨"width", .shorthand ">=50 p750 #wide", .log⟩, ⟨"top", .shorthand "@stranger", .log⟩]
           subviews :=
            [{ name := "panel"
               constraints := [⟨"leading height", .shorthand "@super <4", .log⟩] }] }] }

/-- The panel is compared with the label, and nothing with the view of the other tree. -/
theorem compile_sound_gathering :
    ∃ layout, (compile acquainted gathering 0 beside).result = .ok layout ∧
      layout.constraints.map (fun spec => (spec.target, spec.leftAttribute, spec.comparableView)) =
        [(3, .width, none), (1, .leading, some 3), (1, .height, some 3)] ∧
      ∀ spec ∈ layout.constraints,
        (∃ entry ∈ (hierarchy gathering 0 beside).built, entry.2 = spec.target) ∧
          (∃ directive, Origin acquainted gathering 0 beside directive spec) ∧
            ∀ directive, Origin acquainted gathering 0 beside directive spec →
              spec.WellMade (acquainted.scope (compile acquainted gathering 0 beside).scene)
                directive := by
  have done : Done acquainted gathering 0 beside := done_of_untemplated (by decide) (by decide)
  have returned := congrArg Outcome.result (compile_eq_ending done)
  refine ⟨_, returned, ?_, compile_sound returned⟩
  rw [constraints_of_untemplated returned (by decide)]
  decide

end Pass

end ViewLayout
