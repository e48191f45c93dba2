import ViewLayout.Proofs.Constraint.Echo

/-!
# Renumbering views

The number of a view means nothing to a directive: in a scope in which all views have other numbers,
but the same names and places, it comes to the same constraints of the renumbered views and to the
same diagnostics. `Ask.Renumbers` relates two steps that differ in that, and follows the steps of
establishing a directive.
-/

namespace ViewLayout

variable {number : ViewId → ViewId}

/-- A context with other numbers for its views. -/
def Context.renumber (number : ViewId → ViewId) (context : Context) : Context :=
  { context with target := number context.target, givenView := context.givenView.map number }

/-- Numbers do not decide whether a size is constant. -/
theorem Context.isConstantSize_renumber (context : Context) :
    (context.renumber number).isConstantSize = context.isConstantSize := by
  simp [isConstantSize, renumber]

theorem Context.rightAttribute_renumber (context : Context) :
    (context.renumber number).rightAttribute = context.rightAttribute := by
  rw [rightAttribute, isConstantSize_renumber]
  rfl

/-- A spec with other numbers for its views. -/
def Spec.renumber (number : ViewId → ViewId) (spec : Spec) : Spec :=
  { spec with target := number spec.target, comparableView := spec.comparableView.map number }

/-- What is compared with, under another number. -/
def Comparable.renumber (number : ViewId → ViewId) : Comparable → Comparable
  | unspecified => unspecified
  | view id => view (number id)
  | unresolved reference => unresolved reference

/-- A step with other numbers for the views of its spec. -/
def Step.renumber (number : ViewId → ViewId) : Step → Step
  | notice told => notice told
  | spec finished => spec (finished.renumber number)

/-- Two scopes that differ in the numbers of views, which have the same names and places and are
meant by the same names. -/
structure Scope.Renumbers (number : ViewId → ViewId) (scope other : Scope) : Prop where
  parents : ∀ id, other.forest.parent? (number id) = (scope.forest.parent? id).map number
  named : ∀ id, other.forest.nameOf (number id) = scope.forest.nameOf id
  shares : ∀ first second, other.forest.sharesAncestry (number first) (number second) =
    scope.forest.sharesAncestry first second
  meant : ∀ name, other.lookup? name = (scope.lookup? name).map number
  config : other.config = scope.config

namespace Scope.Renumbers

variable {scope other : Scope}

/-- A reference is resolved to the view of the other number. -/
theorem resolve_eq (renumbers : Renumbers number scope other) (target : ViewId)
    (reference : Option String) :
    other.resolve (number target) reference = (scope.resolve target reference).renumber number := by
  cases reference with
  | none => rfl
  | some name =>
    have found : (if other.meansParent name then other.forest.parent? (number target)
          else other.lookup? name) =
        (if scope.meansParent name then scope.forest.parent? target
          else scope.lookup? name).map number := by
      rw [meansParent, renumbers.config, renumbers.parents, renumbers.meant]
      exact (apply_ite (Option.map number) _ _ _).symm
    simp only [resolve, found]
    cases (if scope.meansParent name then scope.forest.parent? target else scope.lookup? name) <;>
      rfl

/-- The view that is compared with has the other number. -/
theorem comparableView_eq (renumbers : Renumbers number scope other) (context : Context) :
    (context.renumber number).comparableView other.forest =
      (context.comparableView scope.forest).map number := by
  unfold Context.comparableView
  rw [context.isConstantSize_renumber, context.rightAttribute_renumber]
  split
  · rfl
  · cases given : context.givenView with
    | some view => simp [Context.renumber, given]
    | none =>
      have target : other.forest.parent? (context.renumber number).target =
          (scope.forest.parent? context.target).map number := renumbers.parents _
      simp only [target]
      simp only [Context.renumber, given, Option.map_none]
      split <;> rfl

end Scope.Renumbers

/-- An inquiry in which the same was told of views with other numbers. -/
def Inquiry.renumber (number : ViewId → ViewId) (inquiry : Inquiry Step) : Inquiry Step :=
  { inquiry with told := inquiry.told.map (Step.renumber number) }

namespace Ask

variable {α β γ δ : Type}

/-- A step does the same as another one for views with other numbers, and comes to the same but
for these. -/
def Renumbers (number : ViewId → ViewId) (result : α → β) (step : Ask Step α) (other : Ask Step β) :
    Prop :=
  ∀ inquiry : Inquiry Step, runFrom other (inquiry.renumber number) =
    ((runFrom step inquiry).1.map result, (runFrom step inquiry).2.renumber number)

theorem Renumbers.pure (result : α → β) (value : α) :
    Renumbers number result (Pure.pure value) (Pure.pure (result value)) :=
  fun _ => rfl

/-- What is renumbered goes on to be. -/
theorem Renumbers.bind {result : α → β} {last : γ → δ} {step : Ask Step α} {other : Ask Step β}
    {next : α → Ask Step γ} {later : β → Ask Step δ} (first : Renumbers number result step other)
    (rest : ∀ value, Renumbers number last (next value) (later (result value))) :
    Renumbers number last (step >>= next) (other >>= later) := by
  intro inquiry
  rw [runFrom_bind, runFrom_bind, first inquiry]
  cases ran : runFrom step inquiry with
  | mk found after =>
    cases found with
    | error fault => rfl
    | ok value => exact rest value after

/-- Goes on from a step that comes to the same whatever the numbers are. -/
theorem Renumbers.seq {last : γ → δ} {step other : Ask Step α} {next : α → Ask Step γ}
    {later : α → Ask Step δ} (first : Renumbers number id step other)
    (rest : ∀ value, Renumbers number last (next value) (later value)) :
    Renumbers number last (step >>= next) (other >>= later) :=
  first.bind rest

/-- A step is told with the other numbers. -/
theorem Renumbers.tell (item : Step) :
    Renumbers number id (Ask.tell item) (Ask.tell (item.renumber number)) :=
  fun _ => rfl

theorem Renumbers.note (field : Field) :
    Renumbers number id (Ask.note field) (Ask.note field) :=
  fun _ => rfl

theorem Renumbers.warn (sink : Sink) (diagnostics : List Diagnostic) :
    Renumbers number id (diagnostics.forM fun diagnostic => Ask.tell (.notice ⟨sink, diagnostic⟩))
      (diagnostics.forM fun diagnostic => Ask.tell (.notice ⟨sink, diagnostic⟩)) := by
  induction diagnostics with
  | nil => exact Renumbers.pure id ()
  | cons diagnostic rest inner =>
    have here : Renumbers number id (Ask.tell (.notice ⟨sink, diagnostic⟩))
        (Ask.tell (.notice ⟨sink, diagnostic⟩)) := Renumbers.tell (.notice ⟨sink, diagnostic⟩)
    exact here.seq fun _ => inner

/-- What depends on the inquiry is renumbered if it is for each of them. -/
theorem Renumbers.get_bind {result : α → β} {next : Inquiry Step → Ask Step α}
    {later : Inquiry Step → Ask Step β}
    (each : ∀ inquiry, Renumbers number result (next inquiry) (later (inquiry.renumber number))) :
    Renumbers number result (get >>= next) (get >>= later) :=
  fun inquiry => each inquiry inquiry

/-- Answers hold no numbers of views. -/
theorem Renumbers.ask (field : Field) :
    Renumbers number id (Model.ask field) (Model.ask field) := by
  refine Renumbers.get_bind fun inquiry => ?_
  dsimp only [Inquiry.renumber]
  cases inquiry.model.memory field with
  | some answer => exact Renumbers.pure id answer
  | none =>
    refine (Renumbers.note field).seq fun _ => ?_
    cases inquiry.model.directive.read field with
    | error fault => exact fun _ => rfl
    | ok reported =>
      have remembered (answer : field.Answer) : Renumbers number id
          (modify fun inquiry : Inquiry Step =>
            { inquiry with
              model :=
                { inquiry.model with memory := inquiry.model.memory.remember field answer } })
          (modify fun inquiry =>
            { inquiry with
              model :=
                { inquiry.model with memory := inquiry.model.memory.remember field answer } }) :=
        fun _ => rfl
      exact (Renumbers.warn inquiry.model.sink reported.diagnostics).seq fun _ =>
        (remembered _).seq fun _ => Renumbers.pure id _

variable {scope other : Scope}

/-- A context is found with the other numbers. -/
theorem Renumbers.contextOf (renumbers : scope.Renumbers number other) (target : ViewId)
    (givenView : Option ViewId) (leftAttribute : Attribute) :
    Renumbers number (Context.renumber number)
      (Model.contextOf scope target givenView leftAttribute)
      (Model.contextOf other (number target) (givenView.map number) leftAttribute) := by
  unfold Model.contextOf
  refine (Renumbers.ask .relation).seq fun _ => (Renumbers.ask .rightAttribute).seq fun _ => ?_
  refine (Renumbers.ask .constant).seq fun _ => (Renumbers.ask .multiplier).seq fun _ => ?_
  rw [renumbers.config]
  exact fun _ => rfl

/-- An attribute is finished with the other numbers. -/
theorem Renumbers.finish (renumbers : scope.Renumbers number other) (sink : Sink)
    (context : Context) :
    Renumbers number id (Model.finish scope sink context)
      (Model.finish other sink (context.renumber number)) := by
  have shared : other.forest.sharesAncestry (context.renumber number).target
        (((context.comparableView scope.forest).map number).getD
          (context.renumber number).target) =
      scope.forest.sharesAncestry context.target
        ((context.comparableView scope.forest).getD context.target) := by
    rw [← renumbers.shares]
    cases context.comparableView scope.forest <;> rfl
  unfold Model.finish
  simp only [renumbers.comparableView_eq, shared, context.rightAttribute_renumber]
  split
  · refine (Renumbers.ask .priority).seq fun _ => (Renumbers.ask .identifier).seq fun _ => ?_
    refine (Renumbers.ask .horizontalSizeClass).seq fun _ =>
      (Renumbers.ask .verticalSizeClass).seq fun _ => ?_
    exact Renumbers.tell (.spec _)
  · exact (Renumbers.ask .identifier).seq fun _ => Renumbers.tell (.notice _)

/-- All attributes are finished with the other numbers. -/
theorem Renumbers.finishAll (renumbers : scope.Renumbers number other) (sink : Sink)
    (target : ViewId) (givenView : Option ViewId) (attributes : List Attribute) :
    Renumbers number id (Model.finishAll scope sink target givenView attributes)
      (Model.finishAll other sink (number target) (givenView.map number) attributes) := by
  induction attributes with
  | nil => exact Renumbers.pure id ()
  | cons leftAttribute rest inner =>
    refine (Renumbers.contextOf renumbers target givenView leftAttribute).bind fun context => ?_
    exact (Renumbers.finish renumbers sink context).seq fun _ => inner

/-- Establishing a directive does the same for views with other numbers. -/
theorem Renumbers.establishSteps (renumbers : scope.Renumbers number other) (sink : Sink)
    (target : ViewId) :
    Renumbers number id (Model.establishSteps scope sink target)
      (Model.establishSteps other sink (number target)) := by
  have resolved : Renumbers number (Comparable.renumber number)
      (Model.resolveReference scope target) (Model.resolveReference other (number target)) := by
    refine (Renumbers.ask .reference).seq fun reference => ?_
    rw [renumbers.resolve_eq]
    exact Renumbers.pure (Comparable.renumber number) _
  refine resolved.bind fun comparable => ?_
  cases comparable with
  | unresolved reference =>
    dsimp only [Comparable.renumber]
    rw [renumbers.named]
    exact (Renumbers.ask .identifier).seq fun _ => Renumbers.tell (.notice _)
  | unspecified =>
    exact (Renumbers.ask .leftAttributes).seq fun _ =>
      Renumbers.finishAll renumbers sink target none _
  | view id =>
    exact (Renumbers.ask .leftAttributes).seq fun _ =>
      Renumbers.finishAll renumbers sink target (some id) _

end Ask

namespace Scope.Renumbers

variable {scope other : Scope}

/-- **A directive comes to the same for views with other numbers.** -/
theorem establishment_eq (renumbers : Renumbers number scope other) (sink : Sink) (target : ViewId)
    (directive : Directive) :
    (other.establishment sink (number target) directive).steps =
        (scope.establishment sink target directive).steps.map (Step.renumber number) ∧
      (other.establishment sink (number target) directive).failure =
        (scope.establishment sink target directive).failure := by
  have ran := Ask.Renumbers.establishSteps renumbers sink target (inquiryOf sink directive)
  have start : (inquiryOf sink directive).renumber number = inquiryOf sink directive := rfl
  rw [start] at ran
  rw [Scope.establishment_eq, Scope.establishment_eq]
  simp only [ran]
  refine ⟨?_, ?_⟩
  · rw [Inquiry.renumber, List.map_reverse]
  · cases (Ask.runFrom (Model.establishSteps scope sink target) (inquiryOf sink directive)).1 <;>
      rfl

/-- The specs of a directive have the other numbers. -/
theorem specsOf_eq (renumbers : Renumbers number scope other) (target : ViewId)
    (directive : Directive) :
    other.specsOf (number target) directive =
      (scope.specsOf target directive).map (Spec.renumber number) := by
  have told (steps : List Step) : (steps.map (Step.renumber number)).filterMap Step.spec? =
      (steps.filterMap Step.spec?).map (Spec.renumber number) := by
    rw [List.filterMap_map, List.map_filterMap]
    exact congrArg (List.filterMap · steps) (funext fun step => by cases step <;> rfl)
  rw [specsOf, Model.Establishment.specs, (renumbers.establishment_eq .log target directive).1,
    told]
  rfl

/-- Its diagnostics are the same. -/
theorem diagnosticsOf_eq (renumbers : Renumbers number scope other) (target : ViewId)
    (directive : Directive) :
    other.diagnosticsOf (number target) directive = scope.diagnosticsOf target directive := by
  have told (steps : List Step) : (steps.map (Step.renumber number)).filterMap Step.notice? =
      steps.filterMap Step.notice? := by
    rw [List.filterMap_map]
    exact congrArg (List.filterMap · steps) (funext fun step => by cases step <;> rfl)
  rw [diagnosticsOf, Model.Establishment.diagnostics,
    (renumbers.establishment_eq .log target directive).1, told]
  rfl

end Scope.Renumbers

end ViewLayout
