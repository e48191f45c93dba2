import ViewLayout.Config
import ViewLayout.Constraint.Context
import ViewLayout.Constraint.Model

/-!
# Establishing constraints

A model of a directive and a view give one constraint for each attribute on the left. The view that
the directive refers to is looked for as the parent, then in the index, then in the environment.
What is found out is a list of steps in order: notices, and finished constraints.
-/

namespace ViewLayout

/-- What a name means outside the index: a view, or something else. -/
inductive Surrounding
  | view (id : ViewId)
  | other
deriving DecidableEq

/-- The view that a name in the surroundings means. -/
def Surrounding.view? : Surrounding → Option ViewId
  | view id => some id
  | other => none

/-- The names that are looked up after the index. -/
abbrev Environment : Type := Table Surrounding

/-- What a directive is resolved in. -/
structure Scope where
  forest : Forest
  index : ViewIndex
  environment : Environment := []
  config : Config := {}

/-- What is found out while a directive is resolved. -/
inductive Step
  | notice (notice : Notice)
  | spec (spec : Spec)

namespace Step

/-- The spec that a step is. -/
def spec? : Step → Option Spec
  | notice _ => none
  | spec finished => some finished

/-- The notice that a step is. -/
def notice? : Step → Option Notice
  | notice told => some told
  | spec _ => none

end Step

/-- What a directive's reference to a view comes to. -/
inductive Comparable
  | unspecified
  | view (id : ViewId)
  | unresolved (reference : String)
deriving DecidableEq

/-- The view that is compared with, if one is given and found. -/
def Comparable.view? : Comparable → Option ViewId
  | view id => some id
  | _ => none

namespace Scope

/-- Whether a reference is the word for the parent. -/
def meansParent (scope : Scope) (reference : String) : Bool :=
  scope.config.parentReference.text? == some reference

/-- The view that a name means in the index or else in the environment. -/
def lookup? (scope : Scope) (name : String) : Option ViewId :=
  (scope.index.get? name).or (scope.environment.get? name >>= Surrounding.view?)

/-- What a reference comes to for a target. -/
def resolve (scope : Scope) (target : ViewId) (reference : Option String) : Comparable :=
  match reference with
  | none => .unspecified
  | some name =>
    let found :=
      if scope.meansParent name then scope.forest.parent? target else scope.lookup? name
    match found with
    | some view => .view view
    | none => .unresolved name

end Scope

namespace Model

/-- The model's answer for a field, with its diagnostics told as notices. -/
def ask (field : Field) : Ask Step field.Answer :=
  Ask.read Step.notice field

/-- Tells a diagnostic to a sink. -/
def tell (sink : Sink) (diagnostic : Diagnostic) : Ask Step Unit :=
  Ask.tell (.notice ⟨sink, diagnostic⟩)

/-- What the model's reference to a view comes to for a target. -/
def resolveReference (scope : Scope) (target : ViewId) : Ask Step Comparable := do
  return scope.resolve target (← ask .reference)

/-- Asks a directive for all that the context of one attribute is made of. -/
def contextOf (scope : Scope) (target : ViewId) (givenView : Option ViewId)
    (leftAttribute : Attribute) : Ask Step Context := do
  let relation ← ask .relation
  let givenAttribute ← ask .rightAttribute
  let givenConstant ← ask .constant
  let givenMultiplier ← ask .multiplier
  let ignoresGivenView := scope.config.independentIgnoresExplicitView.isTruthy
  return {
    target, leftAttribute, relation, givenView, givenAttribute, givenConstant, givenMultiplier,
    ignoresGivenView }

/-- The constraint of a context, or an error if the view that it is compared with is in another
tree. -/
def finish (scope : Scope) (sink : Sink) (context : Context) : Ask Step Unit := do
  let comparableView := context.comparableView scope.forest
  if scope.forest.sharesAncestry context.target (comparableView.getD context.target) then
    let priority ← ask .priority
    let identifier ← ask .identifier
    let horizontal ← ask .horizontalSizeClass
    let vertical ← ask .verticalSizeClass
    Ask.tell (.spec {
      target := context.target
      leftAttribute := context.leftAttribute
      relation := context.relation
      comparableView
      rightAttribute := context.rightAttribute
      constant := context.constant
      multiplier := context.multiplier
      priority
      identifier
      sizeClasses := ⟨horizontal, vertical⟩ })
  else tell sink (.ancestryNotShared (← ask .identifier))

/-- The constraints of attributes, one after the other. -/
def finishAll (scope : Scope) (sink : Sink) (target : ViewId) (givenView : Option ViewId) :
    List Attribute → Ask Step Unit
  | [] => pure ()
  | leftAttribute :: rest => do
    finish scope sink (← contextOf scope target givenView leftAttribute)
    finishAll scope sink target givenView rest

/-- Resolves a directive for a target, telling errors to the sink. -/
def establishSteps (scope : Scope) (sink : Sink) (target : ViewId) : Ask Step Unit := do
  match ← resolveReference scope target with
  | .unresolved reference =>
    tell sink
      (.referenceUnresolved reference (scope.forest.nameOf target) (← ask .identifier))
  | comparable =>
    finishAll scope sink target comparable.view? (← ask .leftAttributes)

/-- The sink that is told about errors: the given one, or the model's own, or the log. Unlike the
sink that is told about fields, one that counts as false is passed over. -/
def errorSink (model : Model) (sink : Option Sink) : Sink :=
  Sink.firstOrLog sink model.ownSink

/-- What came of establishing the constraints of a directive: the model after it, what was found
out, which fields the directive was read for, and why it stopped, if it did. -/
structure Establishment where
  model : Model
  steps : List Step
  readings : List Field
  failure : Option FieldError

/-- The specs that were established, in their order. -/
def Establishment.specs (establishment : Establishment) : List Spec :=
  establishment.steps.filterMap Step.spec?

/-- Establishes the constraints of a directive for a target, with errors told to a sink. -/
def establishTo (model : Model) (scope : Scope) (target : ViewId) (errors : Sink) :
    Establishment :=
  let (result, inquiry) := (establishSteps scope errors target).runFrom { model }
  { model := inquiry.model
    steps := inquiry.told.reverse
    readings := inquiry.readings.reverse
    failure :=
      match result with
      | .ok _ => none
      | .error fault => some fault }

/-- **Establishes the constraints of a directive for a target.** -/
def establish (model : Model) (scope : Scope) (target : ViewId) (sink : Option Sink) :
    Establishment :=
  model.establishTo scope target (model.errorSink sink)

end Model

end ViewLayout
