import ViewLayout.Proofs.Constraint.Verdicts

/-!
# What directives read of a forest

A directive is resolved by the names and the parents of views. `Forest.bare` is a forest without the
constraints that were applied to its views, and nothing comes out otherwise in it, so that what
earlier directives had emitted does not reach the later ones.
-/

namespace ViewLayout

/-- A view without the constraints that were applied to it. -/
def View.bare (view : View) : View :=
  { view with applied := [] }

namespace Forest

/-- A forest without the constraints that were applied to its views. -/
def bare (forest : Forest) : Forest where
  views := forest.views.map View.bare

variable (forest : Forest)

theorem size_bare : forest.bare.size = forest.size := by
  simp [bare, size]

/-- A view that is looked up is the bare one. -/
theorem view?_bare (id : ViewId) : forest.bare.view? id = (forest.view? id).map View.bare := by
  simp [bare, view?]

/-- Names and links do not depend on what was applied. -/
theorem nameOf_bare (id : ViewId) : forest.bare.nameOf id = forest.nameOf id := by
  rw [nameOf, nameOf, view?_bare, Option.map_map]
  rfl

theorem parent?_bare (id : ViewId) : forest.bare.parent? id = forest.parent? id := by
  rw [parent?, parent?, view?_bare]
  cases forest.view? id <;> rfl

theorem subviewsOf_bare (id : ViewId) : forest.bare.subviewsOf id = forest.subviewsOf id := by
  simp [subviewsOf, view?_bare, Option.map_map, Function.comp_def, View.bare]

theorem ancestors_bare (id : ViewId) : forest.bare.ancestors id = forest.ancestors id := by
  have within : ∀ fuel id,
      forest.bare.ancestorsWithin fuel id = forest.ancestorsWithin fuel id := by
    intro fuel
    induction fuel with
    | zero => exact fun _ => rfl
    | succ fuel inner =>
      intro id
      simp only [ancestorsWithin, parent?_bare, inner]
  rw [ancestors, ancestors, size_bare, within]

theorem sharesAncestry_bare (first second : ViewId) :
    forest.bare.sharesAncestry first second = forest.sharesAncestry first second := by
  simp only [sharesAncestry, root, ancestors_bare]

/-- A change that only applies constraints leaves the bare forest as it is. -/
theorem bare_modify {change : View → View} (applies : ∀ view, (change view).bare = view.bare)
    (id : ViewId) : (forest.modify id change).bare = forest.bare := by
  rw [bare, bare, Forest.mk.injEq]
  apply List.ext_getElem?
  intro other
  simp only [modify, List.getElem?_map, List.getElem?_modify]
  cases forest.views[other]? with
  | none => simp
  | some view => by_cases same : id = other <;> simp [same, applies]

end Forest

namespace Scope

/-- A scope in which nothing was applied to views. -/
def bare (scope : Scope) : Scope :=
  { scope with forest := scope.forest.bare }

variable (scope : Scope)

/-- So references are resolved as before. -/
theorem resolve_bare (target : ViewId) (reference : Option String) :
    scope.bare.resolve target reference = scope.resolve target reference := by
  cases reference with
  | none => rfl
  | some name =>
    simp only [resolve, bare, meansParent, lookup?, Forest.parent?_bare]
    rfl

theorem finish_bare (sink : Sink) (context : Context) :
    Model.finish scope.bare sink context = Model.finish scope sink context := by
  have compared : context.comparableView scope.forest.bare =
      context.comparableView scope.forest := by
    simp only [Context.comparableView, Forest.parent?_bare]
  simp only [Model.finish, bare, compared, Forest.sharesAncestry_bare]

/-- All attributes are finished as before. -/
theorem finishAll_bare (sink : Sink) (target : ViewId) (givenView : Option ViewId)
    (attributes : List Attribute) :
    Model.finishAll scope.bare sink target givenView attributes =
      Model.finishAll scope sink target givenView attributes := by
  induction attributes with
  | nil => rfl
  | cons leftAttribute rest inner =>
    simp only [Model.finishAll, finish_bare, inner]
    rfl

/-- All that establishing tells is as before. -/
theorem establishSteps_bare (sink : Sink) (target : ViewId) :
    Model.establishSteps scope.bare sink target = Model.establishSteps scope sink target := by
  have named : scope.bare.forest.nameOf target = scope.forest.nameOf target :=
    scope.forest.nameOf_bare target
  simp only [Model.establishSteps, Model.resolveReference, resolve_bare, finishAll_bare, named]

/-- What was applied to views changes nothing of what a model comes to. -/
theorem establishTo_bare (model : Model) (target : ViewId) (errors : Sink) :
    model.establishTo scope.bare target errors = model.establishTo scope target errors := by
  simp only [Model.establishTo, establishSteps_bare]

end Scope

end ViewLayout
