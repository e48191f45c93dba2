import ViewLayout.Proofs.Pass.Naming
import ViewLayout.Proofs.Pass.Pairs

/-!
# Passes with surroundings

What is around a pass is looked at only for references that mean nothing else. `FallsBack` compares
a pass with some surroundings and one with nothing around: the second one's constraints are among
those of the first, and what the first one adds are directives whose references are supplied.
-/

namespace ViewLayout

/-- The settings with nothing around. -/
def Settings.alone (settings : Settings) : Settings :=
  { settings with environment := [] }

namespace Pass

/-- How the layout of a pass with surroundings compares to the one with nothing around. -/
structure FallsBack (settings : Settings) (document : Document) (root : ViewId) (scene : Scene)
    (alone surrounded : Layout) : Prop where
  /-- The views and the names are left alike. -/
  scenes : (compile settings document root scene).scene.Alike
    (compile settings.alone document root scene).scene
  /-- Each layout is what its directives come to, in the same order, -/
  layouts : alone = ordered settings.alone document root scene ∧
    surrounded = ordered settings document root scene
  /-- and a directive that is resolved with nothing around comes to the same in both. -/
  resolved : ∀ target directive, Given document root scene target directive →
    (∀ name, (scope settings.alone document root scene).resolve target
      (directive.answer .reference) ≠ .unresolved name) →
      (scope settings document root scene).specsOf target directive =
          (scope settings.alone document root scene).specsOf target directive ∧
        (scope settings document root scene).diagnosticsOf target directive =
          (scope settings.alone document root scene).diagnosticsOf target directive
  /-- No constraint is lost or changed. -/
  constraints : alone.constraints.Sublist surrounded.constraints
  /-- The unresolved references are those that are not supplied. -/
  unresolved : surrounded.unresolved =
    alone.unresolved.filter fun diagnostic =>
      diagnostic.unresolved?.all fun name =>
        !(scope settings document root scene).supplies name

variable {settings : Settings} {document : Document} {root : ViewId} {scene : Scene}

/-- The scope of the settings without an environment is the scope without it. -/
theorem scope_alone : scope settings.alone document root scene =
    (scope settings document root scene).alone :=
  rfl

/-- **What is around is nothing but a fallback**: it makes directives resolved that were not, and
changes nothing else. -/
theorem compile_fallsBack {alone surrounded : Layout}
    (returnedAlone : (compile settings.alone document root scene).result = .ok alone)
    (returned : (compile settings document root scene).result = .ok surrounded) :
    FallsBack settings document root scene alone surrounded := by
  have done := done_of_compile returned
  have doneAlone := done_of_compile returnedAlone
  obtain rfl := eq_ordered returnedAlone
  obtain rfl := eq_ordered returned
  have unfailed {target : ViewId} {directive : Directive}
      (given : Given document root scene target directive) :
      ((scope settings document root scene).alone.establishment .log target directive).failure =
        none := given.unfailed doneAlone .log
  exact {
    scenes := alike_compile_compile settings settings.alone document root scene
    layouts := ⟨rfl, rfl⟩
    resolved := by
      intro target directive _ resolved
      rw [scope_alone] at resolved ⊢
      simp only [Scope.specsOf, Scope.diagnosticsOf, Scope.establishment_alone resolved, and_self]
    constraints := by
      refine relates_constraints additive_sublist fun target directive given => ?_
      rw [scope_alone]
      exact Scope.sublist_specsOf_alone (unfailed given)
    unresolved := by
      rw [Layout.unresolved, Layout.unresolved, List.filter_filter]
      refine (relates_diagnostics (additive_filter _ _) ?_ ?_).symm
      · intro diagnostics earlier
        refine List.filter_congr fun diagnostic member => ?_
        rw [Diagnostic.unresolved?_eq_none (earlier diagnostic member)]
        rfl
      · intro target directive given
        rw [← List.filter_filter, scope_alone]
        exact (Scope.unresolved_diagnosticsOf_alone (given.unfailed done .log)
          (unfailed given)).symm }

/-- A window with a panel and a guide in it, and a view of another tree. -/
def guided : Scene where
  forest := Forest.after
    [.create "window" none none, .create "panel" none (some 0), .create "guide" none (some 0),
      .create "stranger" none none]
  index := [("panel", 1)]

/-- Surroundings with views for the guide, for the view of the other tree, for the name of the panel
and for the one that means the parent. -/
def guides : Settings where
  environment :=
    [("guide", .view 2), ("stranger", .view 3), ("panel", .view 3), ("super", .view 2),
      ("label", .other)]

/-- A window that refers to all of these. -/
def leaning : Document where
  root :=
    { name := "window"
      constraints :=
        [⟨"top", .shorthand "@guide", .log⟩, ⟨"left", .shorthand "@stranger", .log⟩,
          ⟨"size", .shorthand "@panel", .log⟩, ⟨"bottom", .shorthand "@super", .log⟩,
          ⟨"leading", .shorthand "@label", .log⟩] }

/-- The guide gives a constraint and the view of the other tree another error, and the panel is the
one of the index. -/
theorem compile_fallsBack_leaning :
    ∃ alone surrounded,
      (compile guides.alone leaning 0 guided).result = .ok alone ∧
        (compile guides leaning 0 guided).result = .ok surrounded ∧
        FallsBack guides leaning 0 guided alone surrounded ∧
        alone.constraints.map (fun spec => (spec.leftAttribute, spec.comparableView)) =
          [(.width, some 1), (.height, some 1)] ∧
        surrounded.constraints.map (fun spec => (spec.leftAttribute, spec.comparableView)) =
          [(.top, some 2), (.width, some 1), (.height, some 1)] ∧
        alone.unresolved.filterMap Diagnostic.unresolved? =
          ["guide", "stranger", "super", "label"] ∧
        surrounded.unresolved.filterMap Diagnostic.unresolved? = ["super", "label"] := by
  have doneAlone : Done guides.alone leaning 0 guided := done_of_leaf rfl rfl (by decide)
  have done : Done guides leaning 0 guided := done_of_leaf rfl rfl (by decide)
  have returnedAlone := congrArg Outcome.result (compile_eq_ending doneAlone)
  have returned := congrArg Outcome.result (compile_eq_ending done)
  refine ⟨_, _, returnedAlone, returned, compile_fallsBack returnedAlone returned, ?_, ?_, ?_, ?_⟩
  · rw [constraints_of_leaf rfl rfl returnedAlone]
    decide
  · rw [constraints_of_leaf rfl rfl returned]
    decide
  · rw [Layout.unresolved, diagnostics_of_leaf rfl rfl returnedAlone]
    decide
  · rw [Layout.unresolved, diagnostics_of_leaf rfl rfl returned]
    decide

end Pass

end ViewLayout
