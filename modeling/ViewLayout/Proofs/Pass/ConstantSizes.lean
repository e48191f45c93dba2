import ViewLayout.Proofs.Constraint.ConstantSizes
import ViewLayout.Proofs.Pass.Pairs
import ViewLayout.Proofs.Pass.Soundness

/-!
# Passes with constant sizes

One setting says whether sizes are compared with a constant even if a view is given. `FixesSizes`
compares a pass where they are not and one where they are: nothing but the constraints for sizes is
different, and each of these that the first one has, the second one has against a constant.
-/

namespace ViewLayout

/-- The settings in which given views count for sizes or not. -/
def Settings.ignoring (settings : Settings) (flag : Value) : Settings :=
  { settings with config := { settings.config with independentIgnoresExplicitView := flag } }

namespace Pass

/-- How the layout of a pass where given views do not count for sizes compares to the one where
they do. -/
structure FixesSizes (settings : Settings) (off on : Value) (document : Document) (root : ViewId)
    (scene : Scene) (free fixed : Layout) : Prop where
  /-- The views and the names are left alike. -/
  scenes : (compile (settings.ignoring off) document root scene).scene.Alike
    (compile (settings.ignoring on) document root scene).scene
  /-- Each layout is what its directives come to, in the same order. -/
  layouts : free = ordered (settings.ignoring off) document root scene ∧
    fixed = ordered (settings.ignoring on) document root scene
  /-- References are unresolved in both or in none. -/
  unresolved : free.unresolved = fixed.unresolved
  /-- Constraints that are for no size are the same. -/
  others : free.constraints.filter (!·.leftAttribute.isSize) =
    fixed.constraints.filter (!·.leftAttribute.isSize)
  /-- Those for sizes are all against constants, -/
  constant : ∀ spec ∈ fixed.constraints, spec.leftAttribute.isSize = true →
    spec.comparableView = none ∧ spec.rightAttribute = some .noAttribute
  /-- and those that the first layout has are among them, in the same order. -/
  sizes : ((free.constraints.filter (·.leftAttribute.isSize)).map Spec.againstConstant).Sublist
    (fixed.constraints.filter (·.leftAttribute.isSize))
  /-- Every size on the left of a directive that is resolved has its constraint, -/
  complete : ∀ target directive, Given document root scene target directive →
    (∀ name, (scope (settings.ignoring on) document root scene).resolve target
      (directive.answer .reference) ≠ .unresolved name) →
      (((scope (settings.ignoring on) document root scene).specsOf target directive).filter
          (·.leftAttribute.isSize)).map Spec.leftAttribute =
        (directive.answer .leftAttributes).filter Attribute.isSize
  /-- and the errors of such a directive are those that its other attributes have in both. -/
  errors : ∀ target directive, Given document root scene target directive →
    (∀ name, (scope (settings.ignoring on) document root scene).resolve target
      (directive.answer .reference) ≠ .unresolved name) → ∀ flag,
        ((scope (settings.ignoring on) document root scene).diagnosticsOf target directive).filter
            (·.level == .error) =
          ((directive.answer .leftAttributes).filter (!·.isSize)).filterMap fun leftAttribute =>
            ((scope (settings.ignoring flag) document root scene).verdict directive
              ((scope (settings.ignoring flag) document root scene).contextOf target directive
                ((scope settings document root scene).resolve target
                  (directive.answer .reference)).view? leftAttribute)).fault?

variable {settings : Settings} {document : Document} {root : ViewId} {scene : Scene}

/-- The scope of the settings with the flag is the scope with it. -/
theorem scope_ignoring (settings : Settings) (document : Document) (root : ViewId) (scene : Scene)
    (flag : Value) :
    scope (settings.ignoring flag) document root scene =
      (scope settings document root scene).ignoring flag :=
  rfl

/-- **Whether given views count for sizes makes no difference to anything but sizes.** -/
theorem compile_fixesSizes {off on : Value} {free fixed : Layout} (truthy : on.isTruthy = true)
    (returnedOff : (compile (settings.ignoring off) document root scene).result = .ok free)
    (returnedOn : (compile (settings.ignoring on) document root scene).result = .ok fixed) :
    FixesSizes settings off on document root scene free fixed := by
  have doneOff := done_of_compile returnedOff
  have doneOn := done_of_compile returnedOn
  obtain rfl := eq_ordered returnedOff
  obtain rfl := eq_ordered returnedOn
  have unfailedOff {target : ViewId} {directive : Directive}
      (given : Given document root scene target directive) :
      (((scope settings document root scene).ignoring off).establishment .log target
        directive).failure = none := given.unfailed doneOff .log
  have unfailedOn {target : ViewId} {directive : Directive}
      (given : Given document root scene target directive) :
      (((scope settings document root scene).ignoring on).establishment .log target
        directive).failure = none := given.unfailed doneOn .log
  exact {
    scenes := alike_compile_compile ..
    layouts := ⟨rfl, rfl⟩
    unresolved := by
      refine relates_diagnostics (additive_filter _ _) (fun _ _ => rfl) ?_
      intro target directive given
      rw [scope_ignoring, scope_ignoring, Scope.unresolved_diagnosticsOf (unfailedOff given),
        Scope.unresolved_diagnosticsOf (unfailedOn given)]
      rfl
    others := by
      refine relates_constraints (additive_filter _ _) fun target directive given => ?_
      rw [scope_ignoring, scope_ignoring]
      exact Scope.filter_others_specsOf (unfailedOff given) (unfailedOn given)
    constant := by
      intro spec member size
      obtain ⟨directive, origin⟩ := (mem_constraints_iff returnedOn).1 member
      exact Scope.constant_of_mem_specsOf truthy (unfailedOn origin.given) origin.own size
    sizes := by
      refine relates_constraints additive_sizes fun target directive given => ?_
      rw [scope_ignoring, scope_ignoring]
      exact Scope.sublist_sizes_specsOf (unfailedOff given) (unfailedOn given) truthy
    complete := by
      intro target directive given resolved
      rw [scope_ignoring] at resolved ⊢
      exact Scope.leftAttributes_sizes truthy (unfailedOn given) resolved
    errors := by
      intro target directive given resolved flag
      rw [scope_ignoring] at resolved
      rw [scope_ignoring, scope_ignoring]
      exact Scope.errors_others truthy (unfailedOn given) resolved flag }

/-- A window that refers to a view of another tree and to the panel in it. -/
def measuring : Document where
  root :=
    { name := "window"
      constraints :=
        [⟨"size top", .shorthand "@stranger +4 #apart", .log⟩,
          ⟨"height leading", .shorthand "@panel", .log⟩, ⟨"width", .shorthand "@nowhere", .log⟩] }

/-- The sizes of the window that are related to the other tree have constraints if they are
constant, and its height is no longer related to the panel. -/
theorem compile_fixesSizes_measuring :
    ∃ free fixed,
      (compile (acquainted.ignoring (.bool false)) measuring 0 beside).result = .ok free ∧
        (compile (acquainted.ignoring (.bool true)) measuring 0 beside).result = .ok fixed ∧
        FixesSizes acquainted (.bool false) (.bool true) measuring 0 beside free fixed ∧
        free.constraints.map (fun spec => (spec.leftAttribute, spec.comparableView)) =
          [(.height, some 1), (.leading, some 1)] ∧
        fixed.constraints.map (fun spec => (spec.leftAttribute, spec.comparableView)) =
          [(.width, none), (.height, none), (.height, none), (.leading, some 1)] ∧
        free.unresolved.filterMap Diagnostic.unresolved? = ["nowhere"] := by
  have doneOff : Done (acquainted.ignoring (.bool false)) measuring 0 beside :=
    done_of_leaf rfl rfl (by decide)
  have doneOn : Done (acquainted.ignoring (.bool true)) measuring 0 beside :=
    done_of_leaf rfl rfl (by decide)
  have returnedOff := congrArg Outcome.result (compile_eq_ending doneOff)
  have returnedOn := congrArg Outcome.result (compile_eq_ending doneOn)
  refine ⟨_, _, returnedOff, returnedOn, compile_fixesSizes rfl returnedOff returnedOn, ?_, ?_, ?_⟩
  · rw [constraints_of_leaf rfl rfl returnedOff]
    decide
  · rw [constraints_of_leaf rfl rfl returnedOn]
    decide
  · rw [Layout.unresolved, diagnostics_of_leaf rfl rfl returnedOff]
    decide

end Pass

end ViewLayout
