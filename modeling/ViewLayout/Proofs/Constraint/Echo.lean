import ViewLayout.Proofs.Constraint.Verdicts

/-!
# Whoever is told

What a directive comes to does not depend on the sink that is told about it: the same is said in the
same order to any other one, and fails in the same way. `Ask.Echoes` relates two steps that differ
only in their sinks, and follows the steps of establishing a directive.
-/

namespace ViewLayout

/-- What is said in a step, whoever is told. -/
inductive Saying
  | diagnostic (diagnostic : Diagnostic)
  | spec (spec : Spec)

/-- What a step says, whoever is told. -/
def Step.saying : Step → Saying
  | .notice told => .diagnostic told.diagnostic
  | .spec finished => .spec finished

/-- Two models of one directive that remember the same and tell two sinks. -/
structure Model.Paired (first second : Sink) (model other : Model) : Prop where
  directive : model.directive = other.directive
  memory : model.memory = other.memory
  sink : model.sink = first
  otherSink : other.sink = second

namespace Ask

variable {α β : Type} {first second : Sink}

/-- Two inquiries in which the same was said to two sinks. -/
structure Paired (first second : Sink) (inquiry other : Inquiry Step) : Prop where
  models : inquiry.model.Paired first second other.model
  told : inquiry.told.map Step.saying = other.told.map Step.saying

/-- Two steps say the same to two sinks and come to the same. -/
def Echoes (first second : Sink) (step other : Ask Step α) : Prop :=
  ∀ inquiry reply, Paired first second inquiry reply →
    (runFrom step inquiry).1 = (runFrom other reply).1 ∧
      Paired first second (runFrom step inquiry).2 (runFrom other reply).2

theorem Echoes.pure (value : α) :
    Echoes first second (Pure.pure value) (Pure.pure value) :=
  fun _ _ paired => ⟨rfl, paired⟩

/-- What echoes goes on to echo. -/
theorem Echoes.bind {step other : Ask Step α} {next last : α → Ask Step β}
    (started : Echoes first second step other)
    (rest : ∀ value, Echoes first second (next value) (last value)) :
    Echoes first second (step >>= next) (other >>= last) := by
  intro inquiry reply paired
  have middle := started inquiry reply paired
  rw [runFrom_bind, runFrom_bind]
  cases ran : runFrom step inquiry with
  | mk result after =>
    cases replied : runFrom other reply with
    | mk answer later =>
      rw [ran, replied] at middle
      obtain ⟨same, still⟩ := middle
      dsimp only at same still
      subst same
      cases result with
      | error fault => exact ⟨rfl, still⟩
      | ok value => exact rest value after later still

/-- Steps that say the same echo each other. -/
theorem Echoes.tell {item echo : Step} (same : item.saying = echo.saying) :
    Echoes first second (Ask.tell item) (Ask.tell echo) := by
  intro inquiry reply paired
  refine ⟨rfl, paired.models, ?_⟩
  change (item :: inquiry.told).map Step.saying = (echo :: reply.told).map Step.saying
  rw [List.map_cons, List.map_cons, same, paired.told]

/-- Warnings echo each other, whoever is told. -/
theorem Echoes.warn (diagnostics : List Diagnostic) :
    Echoes first second
      (diagnostics.forM fun diagnostic => Ask.tell (.notice ⟨first, diagnostic⟩))
      (diagnostics.forM fun diagnostic => Ask.tell (.notice ⟨second, diagnostic⟩)) := by
  induction diagnostics with
  | nil => exact Echoes.pure ()
  | cons diagnostic rest inner =>
    have here : Echoes first second (Ask.tell (.notice ⟨first, diagnostic⟩))
        (Ask.tell (.notice ⟨second, diagnostic⟩)) := Echoes.tell rfl
    exact here.bind fun _ => inner

/-- What depends on the inquiry echoes if it does for each pair of them. -/
theorem Echoes.get_bind {next last : Inquiry Step → Ask Step α}
    (each : ∀ inquiry reply, Paired first second inquiry reply →
      Echoes first second (next inquiry) (last reply)) :
    Echoes first second (get >>= next) (get >>= last) := by
  intro inquiry reply paired
  exact each inquiry reply paired inquiry reply paired

theorem Echoes.note (field : Field) : Echoes first second (Ask.note field) (Ask.note field) :=
  fun _ _ paired => ⟨rfl, paired.models, paired.told⟩

theorem Echoes.remember (field : Field) (answer : field.Answer) :
    Echoes first second
      (modify fun inquiry =>
        { inquiry with
          model := { inquiry.model with memory := inquiry.model.memory.remember field answer } })
      (modify fun inquiry =>
        { inquiry with
          model :=
            { inquiry.model with memory := inquiry.model.memory.remember field answer } }) := by
  intro inquiry reply paired
  have models := paired.models
  refine ⟨rfl, ⟨models.directive, ?_, models.sink, models.otherSink⟩, paired.told⟩
  exact congrArg (Memory.remember · field answer) models.memory

/-- A field that is asked for is answered alike. -/
theorem Echoes.ask (field : Field) :
    Echoes first second (Model.ask field) (Model.ask field) := by
  refine Echoes.get_bind fun inquiry reply paired => ?_
  obtain ⟨directive, memory, sink, otherSink⟩ := paired.models
  simp only [directive, memory, sink, otherSink]
  cases reply.model.memory field with
  | some answer => exact Echoes.pure answer
  | none =>
    refine (Echoes.note field).bind fun _ => ?_
    cases reply.model.directive.read field with
    | error fault => exact fun _ _ paired => ⟨rfl, paired⟩
    | ok reported =>
      exact (Echoes.warn reported.diagnostics).bind fun _ =>
        (Echoes.remember field _).bind fun _ => Echoes.pure _

/-- An attribute is finished alike, whoever is told of its errors. -/
theorem Echoes.finish (scope : Scope) (errors others : Sink) (context : Context) :
    Echoes first second (Model.finish scope errors context)
      (Model.finish scope others context) := by
  unfold Model.finish
  dsimp only
  split
  · refine (Echoes.ask .priority).bind fun _ => (Echoes.ask .identifier).bind fun _ => ?_
    refine (Echoes.ask .horizontalSizeClass).bind fun _ =>
      (Echoes.ask .verticalSizeClass).bind fun _ => ?_
    exact Echoes.tell rfl
  · exact (Echoes.ask .identifier).bind fun _ => Echoes.tell rfl

/-- Contexts are found alike. -/
theorem Echoes.contextOf (scope : Scope) (target : ViewId) (givenView : Option ViewId)
    (leftAttribute : Attribute) :
    Echoes first second (Model.contextOf scope target givenView leftAttribute)
      (Model.contextOf scope target givenView leftAttribute) := by
  refine (Echoes.ask .relation).bind fun _ => (Echoes.ask .rightAttribute).bind fun _ => ?_
  refine (Echoes.ask .constant).bind fun _ => (Echoes.ask .multiplier).bind fun _ => ?_
  exact Echoes.pure _

/-- All attributes are finished alike. -/
theorem Echoes.finishAll (scope : Scope) (errors others : Sink) (target : ViewId)
    (givenView : Option ViewId) (attributes : List Attribute) :
    Echoes first second (Model.finishAll scope errors target givenView attributes)
      (Model.finishAll scope others target givenView attributes) := by
  induction attributes with
  | nil => exact Echoes.pure ()
  | cons leftAttribute rest inner =>
    refine (Echoes.contextOf scope target givenView leftAttribute).bind fun context => ?_
    exact (Echoes.finish scope errors others context).bind fun _ => inner

/-- Establishing a directive says the same to both sinks, whoever is told of errors. -/
theorem Echoes.establishSteps (scope : Scope) (errors others : Sink) (target : ViewId) :
    Echoes first second (Model.establishSteps scope errors target)
      (Model.establishSteps scope others target) := by
  have resolved : Echoes first second (Model.resolveReference scope target)
      (Model.resolveReference scope target) :=
    (Echoes.ask .reference).bind fun _ => Echoes.pure _
  refine resolved.bind fun comparable => ?_
  cases comparable with
  | unresolved reference => exact (Echoes.ask .identifier).bind fun _ => Echoes.tell rfl
  | unspecified => exact (Echoes.ask .leftAttributes).bind fun _ => Echoes.finishAll _ _ _ _ _ _
  | view id => exact (Echoes.ask .leftAttributes).bind fun _ => Echoes.finishAll _ _ _ _ _ _

end Ask

/-- An establishment is what a run of its steps leaves. -/
theorem Model.establishTo_eq (model : Model) (scope : Scope) (target : ViewId) (errors : Sink) :
    model.establishTo scope target errors =
      let ran := Ask.runFrom (Model.establishSteps scope errors target) { model }
      { model := ran.2.model
        steps := ran.2.told.reverse
        readings := ran.2.readings.reverse
        failure :=
          match ran.1 with
          | .ok _ => none
          | .error fault => some fault } :=
  rfl

/-- What a model comes to does not depend on who is told, of warnings or of errors. -/
theorem Model.sayings_eq (model other : Model) (same : model.directive = other.directive)
    (memory : model.memory = other.memory) (scope : Scope) (target : ViewId)
    (errors others : Sink) :
    (model.establishTo scope target errors).steps.map Step.saying =
        (other.establishTo scope target others).steps.map Step.saying ∧
      (model.establishTo scope target errors).failure =
        (other.establishTo scope target others).failure := by
  have start : Ask.Paired model.sink other.sink { model } { model := other } :=
    ⟨⟨same, memory, rfl, rfl⟩, rfl⟩
  obtain ⟨answer, paired⟩ := Ask.Echoes.establishSteps scope errors others target _ _ start
  rw [establishTo_eq, establishTo_eq]
  refine ⟨?_, ?_⟩
  · rw [List.map_reverse, List.map_reverse, paired.told]
  · simp only [answer]

/-- **What a directive comes to does not depend on who is told.** -/
theorem Scope.sayings_eq (scope : Scope) (first second : Sink) (target : ViewId)
    (directive : Directive) :
    (scope.establishment first target directive).steps.map Step.saying =
        (scope.establishment second target directive).steps.map Step.saying ∧
      (scope.establishment first target directive).failure =
        (scope.establishment second target directive).failure :=
  Model.sayings_eq { directive, ownSink := some first } { directive, ownSink := some second }
    rfl rfl scope target first second

namespace Model.Establishment

/-- The diagnostics among the steps of an establishment. -/
def diagnostics (establishment : Establishment) : List Diagnostic :=
  (establishment.steps.filterMap Step.notice?).map Notice.diagnostic

variable {establishment other : Establishment}

/-- Steps that say the same hold the same specs. -/
theorem specs_eq_of_sayings
    (same : establishment.steps.map Step.saying = other.steps.map Step.saying) :
    establishment.specs = other.specs := by
  have said (steps : List Step) : steps.filterMap Step.spec? =
      (steps.map Step.saying).filterMap fun
        | .diagnostic _ => none
        | .spec spec => some spec := by
    rw [List.filterMap_map]
    exact congrArg (List.filterMap · steps) (funext fun step => by cases step <;> rfl)
  rw [specs, specs, said, said, same]

/-- Steps that say the same hold the same diagnostics. -/
theorem diagnostics_eq_of_sayings
    (same : establishment.steps.map Step.saying = other.steps.map Step.saying) :
    establishment.diagnostics = other.diagnostics := by
  have said (steps : List Step) : (steps.filterMap Step.notice?).map Notice.diagnostic =
      (steps.map Step.saying).filterMap fun
        | .diagnostic diagnostic => some diagnostic
        | .spec _ => none := by
    rw [List.filterMap_map, List.map_filterMap]
    exact congrArg (List.filterMap · steps) (funext fun step => by cases step <;> rfl)
  rw [diagnostics, diagnostics, said, said, same]

end Model.Establishment

namespace Scope

/-- The constraints that a directive comes to. -/
def specsOf (scope : Scope) (target : ViewId) (directive : Directive) : List Spec :=
  (scope.establishment .log target directive).specs

/-- The diagnostics that a directive comes to. -/
def diagnosticsOf (scope : Scope) (target : ViewId) (directive : Directive) : List Diagnostic :=
  (scope.establishment .log target directive).diagnostics

/-- The specs are those of the log, whoever is told. -/
theorem specs_establishment (scope : Scope) (sink : Sink) (target : ViewId)
    (directive : Directive) :
    (scope.establishment sink target directive).specs = scope.specsOf target directive :=
  Model.Establishment.specs_eq_of_sayings (scope.sayings_eq sink .log target directive).1

/-- The diagnostics are those of the log, whoever is told. -/
theorem diagnostics_establishment (scope : Scope) (sink : Sink) (target : ViewId)
    (directive : Directive) :
    (scope.establishment sink target directive).diagnostics =
      scope.diagnosticsOf target directive :=
  Model.Establishment.diagnostics_eq_of_sayings (scope.sayings_eq sink .log target directive).1

/-- The constraints of a directive that can be read are those of its verdicts, and so are its
errors. -/
theorem specsOf_eq {scope : Scope} {target : ViewId} {directive : Directive}
    (unfailed : (scope.establishment .log target directive).failure = none) :
    scope.specsOf target directive =
        (scope.verdicts target directive).filterMap Verdict.spec? ∧
      (scope.diagnosticsOf target directive).filter (·.level == .error) =
        (scope.verdicts target directive).filterMap Verdict.fault? := by
  have said := (verdicts_of_unfailed unfailed).1
  constructor
  · rw [← said]
    exact filterMap_spec?_eq _
  · rw [← said]
    exact filter_level_eq _

end Scope

end ViewLayout
