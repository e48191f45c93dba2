import ViewLayout.Proofs.Constraint.Questions

/-!
# Invariants of establishing a directive

To establish a directive is to ask it for fields, to warn of what cannot be used, and to tell
constraints and errors. `Ask.Invariant` says of a property that it survives each of these, and then
it holds of all that establishing a directive comes to, even if a field cannot be read. That all is
told to one sink is such a property, and that there is a cause for every error.
-/

namespace ViewLayout

/-- The errors that there is cause for when a directive is established for a target. -/
inductive Scope.Faults (scope : Scope) (target : ViewId) : Diagnostic → Prop
  /-- A reference is to no view. -/
  | unresolved {reference : Option String} {name : String} (identifier : Option String)
    (meant : scope.resolve target reference = .unresolved name) :
    Faults scope target (.referenceUnresolved name (scope.forest.nameOf target) identifier)
  /-- An attribute of the target is compared with a view of another tree. -/
  | unrelated {reference : Option String} {context : Context} (identifier : Option String)
    (aimed : context.target = target)
    (given : (scope.resolve target reference).view? = context.givenView)
    (apart : scope.isShared context = false) :
    Faults scope target (.ancestryNotShared identifier)

/-- An inquiry of a model that tells a sink, to which all was told so far. -/
structure Inquiry.Sunk (sink : Sink) (inquiry : Inquiry Step) : Prop where
  own : inquiry.model.sink = sink
  told : ∀ notice, Step.notice notice ∈ inquiry.told → notice.sink = sink

/-- Telling one more notice to the sink keeps all told to it. -/
theorem Inquiry.Sunk.tell {sink : Sink} {inquiry : Inquiry Step} (sunk : inquiry.Sunk sink)
    {item : Step} (here : ∀ notice, item = .notice notice → notice.sink = sink) :
    Inquiry.Sunk sink { inquiry with told := item :: inquiry.told } where
  own := sunk.own
  told := by
    intro notice member
    rcases List.mem_cons.1 member with same | earlier
    · exact here notice same.symm
    · exact sunk.told notice earlier

namespace Ask

variable {α β : Type} {holds : Inquiry Step → Prop} {scope : Scope} {sink : Sink}
  {target : ViewId}

/-- What holds before a step holds after it, whether it fails or not. -/
def Preserves (holds : Inquiry Step → Prop) (step : Ask Step α) : Prop :=
  ∀ inquiry, holds inquiry → holds (runFrom step inquiry).2

theorem Preserves.pure (value : α) : Preserves holds (Pure.pure value) :=
  fun _ held => held

/-- One step after another keeps what both keep. -/
theorem Preserves.bind {step : Ask Step α} {next : α → Ask Step β} (first : Preserves holds step)
    (second : ∀ value, Preserves holds (next value)) : Preserves holds (step >>= next) := by
  intro inquiry held
  have middle := first inquiry held
  rw [runFrom_bind]
  cases ran : runFrom step inquiry with
  | mk result after =>
    rw [ran] at middle
    cases result with
    | error fault => exact middle
    | ok value => exact second value after middle

/-- What depends on the inquiry keeps what it keeps for each of them. -/
theorem Preserves.get_bind {next : Inquiry Step → Ask Step α}
    (each : ∀ inquiry, holds inquiry → holds (runFrom (next inquiry) inquiry).2) :
    Preserves holds (get >>= next) :=
  each

/-- A property that survives whatever establishing a directive for a target does, with errors
told to a sink. -/
structure Invariant (scope : Scope) (sink : Sink) (target : ViewId)
    (holds : Inquiry Step → Prop) : Prop where
  notes : ∀ inquiry readings, holds inquiry → holds { inquiry with readings }
  remembers : ∀ inquiry memory, holds inquiry →
    holds { inquiry with model := { inquiry.model with memory } }
  warns : ∀ inquiry diagnostic, diagnostic.isOfField = true → holds inquiry →
    holds { inquiry with told := .notice ⟨inquiry.model.sink, diagnostic⟩ :: inquiry.told }
  constrains : ∀ inquiry spec, holds inquiry →
    holds { inquiry with told := .spec spec :: inquiry.told }
  faults : ∀ inquiry diagnostic, scope.Faults target diagnostic → holds inquiry →
    holds { inquiry with told := .notice ⟨sink, diagnostic⟩ :: inquiry.told }

namespace Invariant

variable (invariant : Invariant scope sink target holds)
include invariant

/-- Warnings about fields may be told. -/
theorem warn {diagnostics : List Diagnostic}
    (ofField : ∀ diagnostic ∈ diagnostics, diagnostic.isOfField = true) {inquiry : Inquiry Step}
    (held : holds inquiry) :
    holds { inquiry with
      told := (diagnostics.map fun diagnostic =>
        Step.notice ⟨inquiry.model.sink, diagnostic⟩).reverse ++ inquiry.told } := by
  induction diagnostics generalizing inquiry with
  | nil => exact held
  | cons diagnostic rest inner =>
    have later := inner (fun other member => ofField other (List.mem_cons_of_mem _ member))
      (invariant.warns inquiry diagnostic (ofField diagnostic List.mem_cons_self) held)
    rwa [List.map_cons, List.reverse_cons, List.append_assoc]

/-- Asking for a field keeps an invariant, since it warns of nothing else. -/
theorem ask (field : Field) : Preserves holds (Model.ask field) := by
  refine Preserves.get_bind fun inquiry held => ?_
  dsimp only
  cases inquiry.model.memory field with
  | some answer => exact held
  | none =>
    have noted := invariant.notes inquiry (field :: inquiry.readings) held
    dsimp only
    rw [runFrom_bind, runFrom_note]
    cases read : inquiry.model.directive.read field with
    | error fault => exact noted
    | ok reported =>
      have warned := invariant.warn (Directive.warns_read read) noted
      dsimp only
      rw [runFrom_bind, runFrom_warn]
      exact invariant.remembers _ _ warned

/-- An error may be told that the directive has at this target. -/
theorem tell_fault {diagnostic : Diagnostic} (faults : scope.Faults target diagnostic) :
    Preserves holds (Model.tell sink diagnostic) :=
  fun inquiry held => invariant.faults inquiry diagnostic faults held

/-- Finishing an attribute keeps an invariant. -/
theorem finish {context : Context} (aimed : context.target = target) {reference : Option String}
    (given : (scope.resolve target reference).view? = context.givenView) :
    Preserves holds (Model.finish scope sink context) := by
  unfold Model.finish
  dsimp only
  split
  · refine (invariant.ask .priority).bind fun _ => (invariant.ask .identifier).bind fun _ => ?_
    refine (invariant.ask .horizontalSizeClass).bind fun _ =>
      (invariant.ask .verticalSizeClass).bind fun _ => ?_
    exact fun inquiry held => invariant.constrains inquiry _ held
  · next apart =>
    refine (invariant.ask .identifier).bind fun identifier => invariant.tell_fault ?_
    exact .unrelated identifier aimed given (Bool.not_eq_true _ ▸ apart)

/-- Finishing all attributes keeps an invariant. -/
theorem finishAll {reference : Option String} {givenView : Option ViewId}
    (given : (scope.resolve target reference).view? = givenView) (attributes : List Attribute) :
    Preserves holds (Model.finishAll scope sink target givenView attributes) := by
  induction attributes with
  | nil => exact Preserves.pure ()
  | cons leftAttribute rest inner =>
    -- the context is opened: what it is given is not seen of a value that a step finds
    simp only [Model.finishAll, Model.contextOf, bind_assoc, pure_bind]
    refine (invariant.ask .relation).bind fun _ => (invariant.ask .rightAttribute).bind fun _ => ?_
    refine (invariant.ask .constant).bind fun _ => (invariant.ask .multiplier).bind fun _ => ?_
    exact (invariant.finish rfl given).bind fun _ => inner

/-- What survives each step survives establishing a directive. -/
theorem establishSteps : Preserves holds (Model.establishSteps scope sink target) := by
  simp only [Model.establishSteps, Model.resolveReference, bind_assoc, pure_bind]
  refine (invariant.ask .reference).bind fun reference => ?_
  cases meant : scope.resolve target reference with
  | unresolved name =>
    exact (invariant.ask .identifier).bind fun identifier =>
      invariant.tell_fault (.unresolved identifier meant)
  | unspecified =>
    exact (invariant.ask .leftAttributes).bind fun _ =>
      invariant.finishAll (congrArg Comparable.view? meant) _
  | view id =>
    exact (invariant.ask .leftAttributes).bind fun _ =>
      invariant.finishAll (congrArg Comparable.view? meant) _

end Invariant

/-- All is told to the sink while a directive is established, if the model has no other one. -/
theorem invariant_sunk (scope : Scope) (sink : Sink) (target : ViewId) :
    Invariant scope sink target (Inquiry.Sunk sink) where
  notes := fun _ _ sunk => ⟨sunk.own, sunk.told⟩
  remembers := fun _ _ sunk => ⟨sunk.own, sunk.told⟩
  warns := by
    intro inquiry diagnostic _ sunk
    refine sunk.tell ?_
    rintro _ ⟨⟩
    exact sunk.own
  constrains := by
    intro inquiry spec sunk
    refine sunk.tell ?_
    rintro _ ⟨⟩
  faults := by
    intro inquiry diagnostic _ sunk
    refine sunk.tell ?_
    rintro _ ⟨⟩
    rfl

end Ask

/-- **All that a directive comes to is told to the sink**, whether it can be read or not. -/
theorem Scope.sink_eq_of_mem_establishment {scope : Scope} {sink : Sink} {target : ViewId}
    {directive : Directive} {notice : Notice}
    (told : .notice notice ∈ (scope.establishment sink target directive).steps) :
    notice.sink = sink := by
  rw [establishment_eq] at told
  have start : (inquiryOf sink directive).Sunk sink :=
    ⟨rfl, fun _ none => absurd none List.not_mem_nil⟩
  exact ((Ask.invariant_sunk scope sink target).establishSteps _ start).told notice
    (List.mem_reverse.1 told)

end ViewLayout
