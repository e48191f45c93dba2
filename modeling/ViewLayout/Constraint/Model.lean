import ViewLayout.Directive.Read

/-!
# Constraint models

A model asks a directive for its fields and remembers the answers, so that every field is read at
most once and reported at most once. Absent fields answer with their defaults.
-/

namespace ViewLayout

/-- What a model answers for a field. -/
abbrev Field.Answer : Field → Type
  | leftAttributes => List Attribute
  | rightAttribute => Option Attribute
  | relation => Relation
  | constant => SignedConstant
  | multiplier => SignedMultiplier
  | priority => Option Binary64
  | reference => Option String
  | identifier => Option String
  | horizontalSizeClass => SizeClass
  | verticalSizeClass => SizeClass

/-- The answer for a field from what the directive says, with the default where it says nothing. -/
def Field.answer : (field : Field) → Option field.Content → field.Answer
  | leftAttributes, content => content.getD []
  | rightAttribute, content => content
  | relation, content => content.getD .equal
  | constant, content => content.getD .standard
  | multiplier, content => content.getD .standard
  | priority, content => content
  | reference, content => content
  | identifier, content => content
  | horizontalSizeClass, content => content.getD .unspecified
  | verticalSizeClass, content => content.getD .unspecified

/-- The answers that a model remembers. -/
abbrev Memory : Type := (field : Field) → Option field.Answer

/-- A memory that also holds an answer; it replaces an earlier one. -/
def Memory.remember (memory : Memory) (field : Field) (answer : field.Answer) : Memory :=
  fun other => if same : field = other then some (same ▸ answer) else memory other

/-- A directive with the answers that it gave. -/
structure Model where
  directive : Directive
  /-- The sink of the model, if it has one of its own. -/
  ownSink : Option Sink := none
  memory : Memory := fun _ => none

namespace Model

/-- The sink that is told about faults of the directive. -/
def sink (model : Model) : Sink :=
  model.ownSink.getD model.directive.sink

end Model

/-- What a model is asked with: the model as it is by now, what was told so far, and which fields
the directive was read for, the latest first. -/
structure Inquiry (σ : Type) where
  model : Model
  told : List σ := []
  readings : List Field := []

/-- A step that asks a model and tells what it finds; it may fail on a field. -/
abbrev Ask (σ : Type) : Type → Type :=
  ExceptT FieldError (StateM (Inquiry σ))

namespace Ask

variable {σ α : Type}

/-- Tells something. -/
def tell (item : σ) : Ask σ Unit :=
  modify fun inquiry => { inquiry with told := item :: inquiry.told }

/-- Puts down that the directive is read for a field. -/
def note (field : Field) : Ask σ Unit :=
  modify fun inquiry => { inquiry with readings := field :: inquiry.readings }

/-- The model's answer for a field, read from the directive the first time. The diagnostics of
that reading are told in the form that `asItem` gives them. -/
def read (asItem : Notice → σ) (field : Field) : Ask σ field.Answer := do
  let model := (← get).model
  match model.memory field with
  | some answer => pure answer
  | none =>
    note field
    match model.directive.read field with
    | .error fault => throw fault
    | .ok reported =>
      reported.diagnostics.forM fun diagnostic => tell (asItem ⟨model.sink, diagnostic⟩)
      let answer := field.answer reported.value
      modify fun inquiry =>
        { inquiry with
          model := { inquiry.model with memory := inquiry.model.memory.remember field answer } }
      pure answer

/-- Goes on with an inquiry by a step: its result, and the inquiry after it. -/
def runFrom (step : Ask σ α) (inquiry : Inquiry σ) : Except FieldError α × Inquiry σ :=
  StateT.run (ExceptT.run step) inquiry

/-- Runs a step: its result, the model after it, and what was told, in order. -/
def run (step : Ask σ α) (model : Model) : Except FieldError α × Model × List σ :=
  let (result, inquiry) := step.runFrom { model }
  (result, inquiry.model, inquiry.told.reverse)

end Ask

/-- A field that was remembered is what the memory holds for it. -/
@[simp] theorem Memory.remember_self (memory : Memory) (field : Field) (answer : field.Answer) :
    memory.remember field answer field = some answer := by
  simp [Memory.remember]

/-- Remembering an answer leaves those for other fields as they are. -/
theorem Memory.remember_of_ne (memory : Memory) {field other : Field} (different : field ≠ other)
    (answer : field.Answer) : memory.remember field answer other = memory other := by
  simp [Memory.remember, different]

end ViewLayout
