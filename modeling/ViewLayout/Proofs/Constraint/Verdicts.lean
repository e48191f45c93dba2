import ViewLayout.Constraint.Establish
import ViewLayout.Proofs.Directive.Warnings

/-!
# What a directive comes to

A model remembers what its directive answered, so that an answer does not depend on what was asked
before. `Ask.Finds` describes a step by the value that it finds and by the constraints and errors
that it tells, for a model that remembers nothing else, and is put together along the steps of
establishing a directive. What comes out is `Scope.verdicts`: one error if the reference is to no
view, and else one constraint or one error for each attribute on the left.
-/

namespace ViewLayout

/-- A constraint that was finished, or an error in place of one. -/
inductive Verdict
  | spec (spec : Spec)
  | fault (diagnostic : Diagnostic)

/-- The verdict among what a step tells. Warnings are none. -/
def Step.verdict? : Step → Option Verdict
  | .spec finished => some (.spec finished)
  | .notice told =>
    match told.diagnostic.level with
    | .error => some (.fault told.diagnostic)
    | .warning => none

namespace Verdict

/-- The spec of a verdict. -/
def spec? : Verdict → Option Spec
  | spec finished => some finished
  | fault _ => none

/-- The diagnostic of a verdict. -/
def fault? : Verdict → Option Diagnostic
  | spec _ => none
  | fault diagnostic => some diagnostic

end Verdict

/-- The notices among steps. -/
theorem mem_filterMap_notice?_iff {steps : List Step} {notice : Notice} :
    notice ∈ steps.filterMap Step.notice? ↔ .notice notice ∈ steps := by
  rw [List.mem_filterMap]
  constructor
  · rintro ⟨step, told, same⟩
    cases step with
    | spec spec => cases same
    | notice other => exact Option.some.inj same ▸ told
  · exact fun told => ⟨_, told, rfl⟩

/-- The specs among steps are those of their verdicts. -/
theorem filterMap_spec?_eq (steps : List Step) :
    steps.filterMap Step.spec? = (steps.filterMap Step.verdict?).filterMap Verdict.spec? := by
  rw [List.filterMap_filterMap]
  refine congrArg (List.filterMap · steps) (funext fun step => ?_)
  cases step with
  | spec finished => rfl
  | notice told =>
    cases level : told.diagnostic.level <;> simp [Step.spec?, Step.verdict?, Verdict.spec?, level]

/-- The errors among steps are those of their verdicts. -/
theorem filter_level_eq (steps : List Step) :
    ((steps.filterMap Step.notice?).map Notice.diagnostic).filter (·.level == .error) =
      (steps.filterMap Step.verdict?).filterMap Verdict.fault? := by
  induction steps with
  | nil => rfl
  | cons step rest inner =>
    cases step with
    | spec finished =>
      simpa [List.filterMap_cons, Step.notice?, Step.verdict?, Verdict.fault?] using inner
    | notice told =>
      cases level : told.diagnostic.level <;>
        simpa [List.filterMap_cons, Step.notice?, Step.verdict?, Verdict.fault?, level] using inner

/-- The answer of a directive for a field that it can be asked for. -/
def Directive.answer (directive : Directive) (field : Field) : field.Answer :=
  match directive.read field with
  | .ok reported => field.answer reported.value
  | .error _ => field.answer none

/-- A model of a directive that remembers nothing but what the directive answers. -/
structure Model.Recalls (model : Model) (directive : Directive) (sink : Sink) : Prop where
  directive_eq : model.directive = directive
  sink_eq : model.sink = sink
  memory : ∀ field answer, model.memory field = some answer → answer = directive.answer field

/-- Remembering what the directive says keeps the memory true to it. -/
theorem Model.Recalls.remember {model : Model} {directive : Directive} {sink : Sink}
    (recalls : model.Recalls directive sink) (field : Field) :
    { model with memory := model.memory.remember field (directive.answer field) : Model }.Recalls
      directive sink where
  directive_eq := recalls.directive_eq
  sink_eq := recalls.sink_eq
  memory := by
    intro other answer remembered
    dsimp only at remembered
    by_cases same : field = other
    · subst same
      rw [Memory.remember_self] at remembered
      exact (Option.some.inj remembered).symm
    · rw [Memory.remember_of_ne _ same] at remembered
      exact recalls.memory other answer remembered

namespace Ask

variable {α β : Type} {directive : Directive} {sink : Sink}

/-- A step finds a value and tells verdicts, unless it fails, and what it tells goes to the
sink. -/
def Finds (directive : Directive) (sink : Sink) (step : Ask Step α) (value : α)
    (verdicts : List Verdict) : Prop :=
  ∀ inquiry result after, inquiry.model.Recalls directive sink →
    runFrom step inquiry = (.ok result, after) →
      result = value ∧ after.model.Recalls directive sink ∧
        ∃ steps : List Step, after.told = steps.reverse ++ inquiry.told ∧
          steps.filterMap Step.verdict? = verdicts ∧
          ∀ notice, Step.notice notice ∈ steps → notice.sink = sink

/-- One step runs after another if that has not failed. -/
theorem runFrom_bind (step : Ask Step α) (next : α → Ask Step β) (inquiry : Inquiry Step) :
    runFrom (step >>= next) inquiry =
      match runFrom step inquiry with
      | (.ok value, after) => runFrom (next value) after
      | (.error fault, after) => (.error fault, after) := by
  simp only [runFrom, ExceptT.run_bind, StateT.run_bind]
  cases StateT.run (ExceptT.run step) inquiry with
  | mk result after => cases result <;> rfl

/-- The inquiry after a reading was put down. -/
theorem runFrom_note (field : Field) (inquiry : Inquiry Step) :
    runFrom (Ask.note field) inquiry =
      (.ok (), { inquiry with readings := field :: inquiry.readings }) :=
  rfl

/-- The inquiry after diagnostics were told. -/
theorem runFrom_warn (sink : Sink) (diagnostics : List Diagnostic) (inquiry : Inquiry Step) :
    runFrom (diagnostics.forM fun diagnostic => Ask.tell (.notice ⟨sink, diagnostic⟩)) inquiry =
      (.ok (),
        { inquiry with
          told := (diagnostics.map fun diagnostic => Step.notice ⟨sink, diagnostic⟩).reverse ++
            inquiry.told }) := by
  induction diagnostics generalizing inquiry with
  | nil => rfl
  | cons diagnostic rest inner =>
    have first : runFrom (Ask.tell (.notice ⟨sink, diagnostic⟩)) inquiry =
        (.ok (), { inquiry with told := .notice ⟨sink, diagnostic⟩ :: inquiry.told }) := rfl
    have unrolled : runFrom ((diagnostic :: rest).forM fun diagnostic =>
        Ask.tell (.notice ⟨sink, diagnostic⟩)) inquiry =
          runFrom (rest.forM fun diagnostic => Ask.tell (.notice ⟨sink, diagnostic⟩))
            { inquiry with told := .notice ⟨sink, diagnostic⟩ :: inquiry.told } :=
      (runFrom_bind ..).trans (by rw [first])
    rw [unrolled, inner, List.map_cons, List.reverse_cons, List.append_assoc]
    rfl

theorem Finds.pure (value : α) : Finds directive sink (Pure.pure value) value [] := by
  intro inquiry result after recalls ran
  cases ran
  exact ⟨rfl, recalls, [], rfl, rfl, fun _ member => absurd member List.not_mem_nil⟩

/-- One step after another finds the verdicts of both. -/
theorem Finds.bind {step : Ask Step α} {next : α → Ask Step β} {value : α} {last : β}
    {verdicts others : List Verdict} (first : Finds directive sink step value verdicts)
    (second : Finds directive sink (next value) last others) :
    Finds directive sink (step >>= next) last (verdicts ++ others) := by
  intro inquiry result after recalls ran
  rw [runFrom_bind] at ran
  cases started : runFrom step inquiry with
  | mk found middle =>
    rw [started] at ran
    cases found with
    | error fault => simp at ran
    | ok found =>
      obtain ⟨rfl, recalled, steps, told, said, sunk⟩ := first inquiry found middle recalls started
      obtain ⟨same, kept, later, toldLater, saidLater, sunkLater⟩ :=
        second middle result after recalled ran
      refine ⟨same, kept, steps ++ later, ?_, ?_, ?_⟩
      · rw [toldLater, told, List.reverse_append, List.append_assoc]
      · rw [List.filterMap_append, said, saidLater]
      · intro notice member
        rcases List.mem_append.1 member with member | member
        · exact sunk notice member
        · exact sunkLater notice member

theorem Finds.then {step : Ask Step Unit} {next : Ask Step β} {last : β}
    {verdicts others : List Verdict} (first : Finds directive sink step () verdicts)
    (second : Finds directive sink next last others) :
    Finds directive sink (do step; next) last (verdicts ++ others) :=
  first.bind second

/-- A step that is told is its own verdict. -/
theorem Finds.tell {item : Step} (sunk : ∀ notice, item = .notice notice → notice.sink = sink) :
    Finds directive sink (Ask.tell item) () item.verdict?.toList := by
  intro inquiry result after recalls ran
  cases ran
  refine ⟨rfl, recalls, [item], rfl, ?_, ?_⟩
  · cases said : item.verdict? <;> simp [said]
  · intro notice member
    exact sunk notice (List.mem_singleton.1 member).symm

/-- What depends on the inquiry finds what it does for each memory that is true. -/
theorem Finds.get_bind {next : Inquiry Step → Ask Step α} {value : α} {verdicts : List Verdict}
    (each : ∀ inquiry, inquiry.model.Recalls directive sink →
      Finds directive sink (next inquiry) value verdicts) :
    Finds directive sink (get >>= next) value verdicts := by
  intro inquiry result after recalls ran
  exact each inquiry recalls inquiry result after recalls ran

/-- A fault may stand for any verdicts, which are found of runs that do not fail. -/
theorem Finds.throw (fault : FieldError) (value : α) (verdicts : List Verdict) :
    Finds directive sink (MonadExcept.throw fault) value verdicts := by
  intro inquiry result after _ ran
  cases ran

theorem Finds.note (field : Field) : Finds directive sink (Ask.note field) () [] := by
  intro inquiry result after recalls ran
  cases ran
  exact ⟨rfl, recalls, [], rfl, rfl, fun _ member => absurd member List.not_mem_nil⟩

theorem Finds.remember (field : Field) :
    Finds directive sink
      (modify fun inquiry =>
        { inquiry with
          model :=
            { inquiry.model with
              memory := inquiry.model.memory.remember field (directive.answer field) } })
      () [] := by
  intro inquiry result after recalls ran
  cases ran
  exact ⟨rfl, recalls.remember field, [], rfl, rfl, fun _ member => absurd member List.not_mem_nil⟩

/-- Warnings are no verdicts. -/
theorem Finds.warn {diagnostics : List Diagnostic}
    (warns : ∀ diagnostic ∈ diagnostics, diagnostic.level = .warning) :
    Finds directive sink
      (diagnostics.forM fun diagnostic => Ask.tell (.notice ⟨sink, diagnostic⟩)) () [] := by
  induction diagnostics with
  | nil => exact Finds.pure ()
  | cons diagnostic rest inner =>
    have quiet : (Step.notice ⟨sink, diagnostic⟩).verdict? = none := by
      simp only [Step.verdict?, warns diagnostic List.mem_cons_self]
    have told : Finds directive sink (Ask.tell (.notice ⟨sink, diagnostic⟩)) ()
        (Step.notice ⟨sink, diagnostic⟩).verdict?.toList := by
      apply Finds.tell
      rintro notice ⟨⟩
      rfl
    rw [quiet] at told
    exact told.then (inner fun other member => warns other (List.mem_cons_of_mem _ member))

/-- Asking for a field finds the directive's answer and tells no verdict, whatever was asked
before. -/
theorem Finds.ask (field : Field) :
    Finds directive sink (Model.ask field) (directive.answer field) [] := by
  refine Finds.get_bind fun inquiry recalls => ?_
  cases remembered : inquiry.model.memory field with
  | some answer =>
    rw [← recalls.memory field answer remembered]
    simp only [remembered]
    exact Finds.pure answer
  | none =>
    simp only [remembered, recalls.directive_eq, recalls.sink_eq]
    refine (Finds.note field).then ?_
    cases read : directive.read field with
    | error fault => exact Finds.throw fault _ _
    | ok reported =>
      have answered : field.answer reported.value = directive.answer field := by
        rw [Directive.answer, read]
      simp only [answered]
      have warns : ∀ diagnostic ∈ reported.diagnostics, diagnostic.level = .warning :=
        fun diagnostic member => Diagnostic.level_of_isOfField (Directive.warns_read read _ member)
      exact (Finds.warn warns).then
        ((Finds.remember field).then (Finds.pure _))

/-- Asking for a field goes on with what the directive says. -/
theorem Finds.ask_bind {field : Field} {next : field.Answer → Ask Step β} {last : β}
    {verdicts : List Verdict} (rest : Finds directive sink (next (directive.answer field)) last
      verdicts) : Finds directive sink (Model.ask field >>= next) last verdicts :=
  (Finds.ask field).bind rest

/-- An error is a verdict. -/
theorem Finds.tell_error {diagnostic : Diagnostic} (error : diagnostic.level = .error) :
    Finds directive sink (Model.tell sink diagnostic) () [.fault diagnostic] := by
  have loud : (Step.notice ⟨sink, diagnostic⟩).verdict? = some (.fault diagnostic) := by
    simp only [Step.verdict?, error]
  have told : Finds directive sink (Ask.tell (.notice ⟨sink, diagnostic⟩)) ()
      (Step.notice ⟨sink, diagnostic⟩).verdict?.toList := by
    apply Finds.tell
    rintro notice ⟨⟩
    rfl
  rwa [loud] at told

/-- A spec is a verdict. -/
theorem Finds.tell_spec (spec : Spec) :
    Finds directive sink (Ask.tell (.spec spec)) () [.spec spec] := by
  have told : Finds directive sink (Ask.tell (.spec spec)) () (Step.spec spec).verdict?.toList := by
    apply Finds.tell
    rintro notice ⟨⟩
  exact told

end Ask

namespace Scope

/-- The context of an attribute by what the directive answers. -/
def contextOf (scope : Scope) (target : ViewId) (directive : Directive)
    (givenView : Option ViewId) (leftAttribute : Attribute) : Context where
  target := target
  leftAttribute := leftAttribute
  relation := directive.answer .relation
  givenView := givenView
  givenAttribute := directive.answer .rightAttribute
  givenConstant := directive.answer .constant
  givenMultiplier := directive.answer .multiplier
  ignoresGivenView := scope.config.independentIgnoresExplicitView.isTruthy

/-- The constraint of a context by what the directive answers. -/
def specOf (scope : Scope) (directive : Directive) (context : Context) : Spec where
  target := context.target
  leftAttribute := context.leftAttribute
  relation := context.relation
  comparableView := context.comparableView scope.forest
  rightAttribute := context.rightAttribute
  constant := context.constant
  multiplier := context.multiplier
  priority := directive.answer .priority
  identifier := directive.answer .identifier
  sizeClasses := ⟨directive.answer .horizontalSizeClass, directive.answer .verticalSizeClass⟩

/-- What an attribute of a directive comes to: a constraint, or an error if the view that it is
compared with is in another tree. -/
def verdict (scope : Scope) (directive : Directive) (context : Context) : Verdict :=
  if scope.forest.sharesAncestry context.target
      ((context.comparableView scope.forest).getD context.target) then
    .spec (scope.specOf directive context)
  else .fault (.ancestryNotShared (directive.answer .identifier))

/-- What a directive comes to for a target: one error if its reference is to no view, and else a
verdict for each attribute on its left. -/
def verdicts (scope : Scope) (target : ViewId) (directive : Directive) : List Verdict :=
  match scope.resolve target (directive.answer .reference) with
  | .unresolved reference =>
    [.fault (.referenceUnresolved reference (scope.forest.nameOf target)
      (directive.answer .identifier))]
  | comparable =>
    (directive.answer .leftAttributes).map fun leftAttribute =>
      scope.verdict directive (scope.contextOf target directive comparable.view? leftAttribute)

end Scope

namespace Ask

variable {directive : Directive} {sink : Sink}

/-- The context is the one that the directive means. -/
theorem Finds.contextOf (scope : Scope) (target : ViewId) (givenView : Option ViewId)
    (leftAttribute : Attribute) :
    Finds directive sink (Model.contextOf scope target givenView leftAttribute)
      (scope.contextOf target directive givenView leftAttribute) [] := by
  apply Finds.ask_bind
  apply Finds.ask_bind
  apply Finds.ask_bind
  apply Finds.ask_bind
  exact Finds.pure _

/-- Finishing an attribute finds its verdict. -/
theorem Finds.finish (scope : Scope) (context : Context) :
    Finds directive sink (Model.finish scope sink context) ()
      [scope.verdict directive context] := by
  unfold Model.finish Scope.verdict
  simp only
  split
  · apply Finds.ask_bind
    apply Finds.ask_bind
    apply Finds.ask_bind
    apply Finds.ask_bind
    exact Finds.tell_spec _
  · apply Finds.ask_bind
    exact Finds.tell_error rfl

/-- Finishing all attributes finds their verdicts in order. -/
theorem Finds.finishAll (scope : Scope) (target : ViewId) (givenView : Option ViewId)
    (attributes : List Attribute) :
    Finds directive sink (Model.finishAll scope sink target givenView attributes) ()
      (attributes.map fun leftAttribute =>
        scope.verdict directive (scope.contextOf target directive givenView leftAttribute)) := by
  induction attributes with
  | nil => exact Finds.pure ()
  | cons leftAttribute rest inner =>
    exact (Finds.contextOf scope target givenView leftAttribute).bind
      ((Finds.finish scope _).then inner)

/-- Establishing a directive tells its verdicts. -/
theorem Finds.establishSteps (scope : Scope) (target : ViewId) :
    Finds directive sink (Model.establishSteps scope sink target) ()
      (scope.verdicts target directive) := by
  unfold Model.establishSteps Scope.verdicts
  have resolved : Finds directive sink (Model.resolveReference scope target)
      (scope.resolve target (directive.answer .reference)) [] := by
    apply Finds.ask_bind
    exact Finds.pure _
  refine resolved.bind ?_
  cases scope.resolve target (directive.answer .reference) with
  | unresolved reference =>
    apply Finds.ask_bind
    exact Finds.tell_error rfl
  | unspecified =>
    apply Finds.ask_bind
    apply Finds.finishAll
  | view id =>
    apply Finds.ask_bind
    apply Finds.finishAll

end Ask

namespace Scope

/-- Establishing a directive with a model of its own, whose diagnostics all go to one sink. -/
def establishment (scope : Scope) (sink : Sink) (target : ViewId) (directive : Directive) :
    Model.Establishment :=
  ({ directive, ownSink := some sink } : Model).establishTo scope target sink

/-- A sink that is given for errors and is the model's own is told about them, if it counts as
true. -/
theorem establish_of_isTruthy {sink : Sink} (truthy : sink.isTruthy = true) (scope : Scope)
    (target : ViewId) (directive : Directive) :
    ({ directive, ownSink := some sink } : Model).establish scope target (some sink) =
      scope.establishment sink target directive := by
  have given : (some sink).filter Sink.isTruthy = some sink := if_pos truthy
  rw [Model.establish, Model.errorSink, Sink.firstOrLog, given]
  exact congrArg _ (if_pos truthy)

/-- How a directive settles for a target. If its reference is to no view, there is one error;
else there is one constraint or one error for each attribute on the left, in order. -/
inductive Settles (scope : Scope) (target : ViewId) (directive : Directive) : List Verdict → Prop
  | unresolved (reference : String)
    (meant : scope.resolve target (directive.answer .reference) = .unresolved reference) :
    Settles scope target directive
      [.fault (.referenceUnresolved reference (scope.forest.nameOf target)
        (directive.answer .identifier))]
  | resolved
    (meant : ∀ reference,
      scope.resolve target (directive.answer .reference) ≠ .unresolved reference)
    (verdictOf : Attribute → Verdict)
    (either : ∀ leftAttribute,
      (∃ spec : Spec, verdictOf leftAttribute = .spec spec ∧ spec.target = target ∧
        spec.leftAttribute = leftAttribute) ∨
      verdictOf leftAttribute = .fault (.ancestryNotShared (directive.answer .identifier))) :
    Settles scope target directive ((directive.answer .leftAttributes).map verdictOf)

variable {scope : Scope} {sink : Sink} {target : ViewId} {directive : Directive}

/-- The inquiry that establishing a directive starts from. -/
def inquiryOf (sink : Sink) (directive : Directive) : Inquiry Step where
  model := { directive, ownSink := some sink }

/-- The memory that a pass starts with is empty, and so true. -/
theorem recalls_inquiryOf (sink : Sink) (directive : Directive) :
    (inquiryOf sink directive).model.Recalls directive sink :=
  ⟨rfl, rfl, fun _ _ remembered => nomatch remembered⟩

/-- An establishment of the pass is what a run of its steps leaves. -/
theorem establishment_eq (scope : Scope) (sink : Sink) (target : ViewId) (directive : Directive) :
    scope.establishment sink target directive =
      let ran := Ask.runFrom (Model.establishSteps scope sink target) (inquiryOf sink directive)
      { model := ran.2.model
        steps := ran.2.told.reverse
        readings := ran.2.readings.reverse
        failure :=
          match ran.1 with
          | .ok _ => none
          | .error fault => some fault } :=
  rfl

/-- The steps of a directive that can be read are its verdicts, with warnings between them. -/
theorem verdicts_of_unfailed
    (unfailed : (scope.establishment sink target directive).failure = none) :
    (scope.establishment sink target directive).steps.filterMap Step.verdict? =
        scope.verdicts target directive ∧
      ∀ notice, .notice notice ∈ (scope.establishment sink target directive).steps →
        notice.sink = sink := by
  rw [establishment_eq] at unfailed ⊢
  cases ran : Ask.runFrom (Model.establishSteps scope sink target) (inquiryOf sink directive) with
  | mk result after =>
    simp only [ran] at unfailed ⊢
    cases result with
    | error fault => contradiction
    | ok value =>
      obtain ⟨_, _, steps, told, said, sunk⟩ :=
        Ask.Finds.establishSteps scope target _ _ _ (recalls_inquiryOf sink directive) ran
      have empty : (inquiryOf sink directive).told = [] := rfl
      rw [empty, List.append_nil] at told
      rw [told, List.reverse_reverse]
      exact ⟨said, sunk⟩

/-- **A directive settles** for its one reference or for each attribute. -/
theorem settles_verdicts : scope.Settles target directive (scope.verdicts target directive) := by
  unfold verdicts
  cases meant : scope.resolve target (directive.answer .reference) with
  | unresolved reference => exact .unresolved reference meant
  | _ =>
    refine .resolved (by simp [meant]) _ fun leftAttribute => ?_
    unfold verdict
    split
    · exact .inl ⟨_, rfl, rfl, rfl⟩
    · exact .inr rfl

/-- A directive that is resolved comes to a verdict for each attribute on its left. -/
theorem verdicts_of_resolved
    (resolved : ∀ name, scope.resolve target (directive.answer .reference) ≠ .unresolved name) :
    scope.verdicts target directive =
      (directive.answer .leftAttributes).map fun leftAttribute =>
        scope.verdict directive
          (scope.contextOf target directive
            (scope.resolve target (directive.answer .reference)).view? leftAttribute) := by
  unfold verdicts
  cases meant : scope.resolve target (directive.answer .reference) with
  | unresolved name => exact absurd meant (resolved name)
  | _ => rfl

end Scope

end ViewLayout
