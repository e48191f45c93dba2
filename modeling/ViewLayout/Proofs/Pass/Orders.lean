import ViewLayout.Proofs.Pass.Tolerance

/-!
# Passes by their orders

All that a pass establishes is in the orders of the views that were built. `Order.specs` and
`Order.told` say what comes of one order, and a pass that returns gives that of all of them in turn.
So passes with the same orders come to the same, wherever the views come from.
-/

namespace ViewLayout

namespace Scope

variable {scope other : Scope}

/-- Scopes in which directives are established alike give the same constraints. -/
theorem specsOf_congr (same : other.establishment = scope.establishment) :
    other.specsOf = scope.specsOf := by
  funext target directive
  rw [specsOf, same, specsOf]

/-- Scopes with the same establishments find the same diagnostics. -/
theorem diagnosticsOf_congr (same : other.establishment = scope.establishment) :
    other.diagnosticsOf = scope.diagnosticsOf := by
  funext target directive
  rw [diagnosticsOf, same, diagnosticsOf]

end Scope

namespace Order

/-- The constraints that an order comes to. -/
def specs (templates : Table Description) (scope : Scope) (order : Order) : List Spec :=
  (order.directives templates).flatMap (scope.specsOf order.target)

/-- The diagnostics that an order comes to. -/
def told (templates : Table Description) (scope : Scope) (order : Order) : List Diagnostic :=
  (Template.expand templates [] order.templates).diagnostics ++
    (order.directives templates).flatMap (scope.diagnosticsOf order.target)

end Order

namespace Pass

/-- The orders of a pass, one for each view that was built. -/
def orders (document : Document) (root : ViewId) (scene : Scene) : List Order :=
  (hierarchy document root scene).built.map Order.of

/-- The layout that the orders of a pass come to. -/
def ordered (settings : Settings) (document : Document) (root : ViewId) (scene : Scene) :
    Layout where
  constraints := (orders document root scene).flatMap
    (Order.specs document.templates (scope settings document root scene))
  diagnostics := (hierarchy document root scene).diagnostics ++
    (orders document root scene).flatMap
      (Order.told document.templates (scope settings document root scene))

variable {settings : Settings} {document : Document} {root : ViewId} {scene : Scene}

/-- A pass that can do its tasks returns what its orders come to. -/
theorem result_eq (done : Done settings document root scene) :
    (compile settings document root scene).result = .ok (ordered settings document root scene) := by
  rw [compile_eq_ending done, ordered, orders, List.flatMap_map, List.flatMap_map]
  simp only [ending, layoutOf, specs_steps, diagnostics_steps]
  rfl

/-- A layout is that of its orders. -/
theorem eq_ordered {layout : Layout}
    (returned : (compile settings document root scene).result = .ok layout) :
    layout = ordered settings document root scene := by
  rw [result_eq (done_of_compile returned)] at returned
  exact (Except.ok.inj returned).symm

/-- A directive is to be established exactly if it is in an order for its target. -/
theorem given_iff {target : ViewId} {directive : Directive} :
    Given document root scene target directive ↔
      ∃ order ∈ orders document root scene, order.target = target ∧
        directive ∈ order.directives document.templates := by
  constructor
  · rintro ⟨entry, built, own⟩
    exact ⟨Order.of entry, List.mem_map_of_mem built, own⟩
  · rintro ⟨order, listed, own⟩
    obtain ⟨entry, built, rfl⟩ := List.mem_map.1 listed
    exact ⟨entry, built, own⟩

/-- **Passes with the same orders come to the same**, if directives come to the same in both and
the same was told before. -/
theorem result_of_orders {other : Settings} {again : Document} {after : Scene}
    (done : Done settings document root scene)
    (built : (hierarchy again root after).failure = none)
    (templates : again.templates = document.templates)
    (same : orders again root after = orders document root scene)
    (establishment : (scope other again root after).establishment =
      (scope settings document root scene).establishment)
    (told : (hierarchy again root after).diagnostics =
      (hierarchy document root scene).diagnostics) :
    (compile other again root after).result = (compile settings document root scene).result := by
  have doneAgain : Done other again root after := by
    refine done_of_given built fun target directive given => ?_
    rw [given_iff, same, templates, ← given_iff] at given
    rw [establishment]
    exact given.unfailed done _
  have specs : Order.specs document.templates (scope other again root after) =
      Order.specs document.templates (scope settings document root scene) := by
    funext order
    simp only [Order.specs, Scope.specsOf_congr establishment]
  have diagnostics : Order.told document.templates (scope other again root after) =
      Order.told document.templates (scope settings document root scene) := by
    funext order
    simp only [Order.told, Scope.diagnosticsOf_congr establishment]
  rw [result_eq doneAgain, result_eq done, ordered, ordered, same, templates, told, specs,
    diagnostics]

end Pass

end ViewLayout
