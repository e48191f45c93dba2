import ViewLayout.Proofs.Constraint.Fallback
import ViewLayout.Proofs.Constraint.Pairs
import ViewLayout.Proofs.Pass.Orders
import ViewLayout.Proofs.Pass.Stages

/-!
# Pairs of passes

Two passes over one document with other settings build the same hierarchy and establish the same
directives. So a relation between lists that goes through appending holds between their layouts as
soon as it holds between what they make of each directive.
-/

namespace ViewLayout

/-- What a layout says of unresolved references. -/
def Layout.unresolved (layout : Layout) : List Diagnostic :=
  layout.diagnostics.filter (·.unresolved?.isSome)

/-- Only establishing says that a reference is unresolved. -/
theorem Diagnostic.unresolved?_eq_none {diagnostic : Diagnostic}
    (stage : diagnostic.stage ≠ .establishing) : diagnostic.unresolved? = none := by
  cases diagnostic <;> first | rfl | exact absurd rfl stage

namespace Pass

variable {settings other : Settings} {document : Document} {root : ViewId} {scene : Scene}

/-- Two passes leave the hierarchy alike, whatever their settings. -/
theorem alike_compile_compile (settings other : Settings) (document : Document) (root : ViewId)
    (scene : Scene) :
    (compile settings document root scene).scene.Alike
      (compile other document root scene).scene :=
  (alike_compile settings document root scene).trans (alike_compile other document root scene).symm

/-- **What relates the constraints of all directives relates those of the layouts.** -/
theorem relates_constraints {relates : List Spec → List Spec → Prop} (additive : Additive relates)
    (each : ∀ target directive, Given document root scene target directive →
      relates ((scope settings document root scene).specsOf target directive)
        ((scope other document root scene).specsOf target directive)) :
    relates (ordered settings document root scene).constraints
      (ordered other document root scene).constraints := by
  refine additive.flatMap fun order listed => additive.flatMap fun directive own => ?_
  exact each order.target directive (given_iff.2 ⟨order, listed, rfl, own⟩)

/-- What relates the diagnostics of all directives relates those of the layouts, if it lets
those of the stages before be the same. -/
theorem relates_diagnostics {relates : List Diagnostic → List Diagnostic → Prop}
    (additive : Additive relates)
    (earlier : ∀ diagnostics : List Diagnostic,
      (∀ diagnostic ∈ diagnostics, diagnostic.stage ≠ .establishing) →
        relates diagnostics diagnostics)
    (each : ∀ target directive, Given document root scene target directive →
      relates ((scope settings document root scene).diagnosticsOf target directive)
        ((scope other document root scene).diagnosticsOf target directive)) :
    relates (ordered settings document root scene).diagnostics
      (ordered other document root scene).diagnostics := by
  refine additive.append (earlier _ fun diagnostic told => ?_) ?_
  · rw [Scene.stage_of_mem_buildHierarchy told]
    decide
  refine additive.flatMap fun order listed => additive.append (earlier _ ?_) ?_
  · intro diagnostic told
    rw [Template.stage_of_mem_expand told]
    decide
  refine additive.flatMap fun directive own => ?_
  exact each order.target directive (given_iff.2 ⟨order, listed, rfl, own⟩)

end Pass

end ViewLayout
