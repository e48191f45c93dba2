import ViewLayout.Proofs.Constraint.Echo

/-!
# What a directive is asked

Not every field of a directive is asked for: `Scope.asked` lists those that are. A directive that is
established has answered them all and told what was reported of each, and one that is not has a
field among them that cannot be read. `Ask.Asks` follows the steps of establishing a directive with
the fields that they ask for.
-/

namespace ViewLayout

/-- An inquiry in which all that was reported of the remembered fields is told. -/
structure Inquiry.Honest (inquiry : Inquiry Step) (directive : Directive) (sink : Sink) : Prop where
  recalls : inquiry.model.Recalls directive sink
  told : ∀ field, inquiry.model.memory field ≠ none →
    ∃ reported, directive.read field = .ok reported ∧
      ∀ diagnostic ∈ reported.diagnostics, Step.notice ⟨sink, diagnostic⟩ ∈ inquiry.told

/-- A field may be remembered once what is reported of it is told. -/
theorem Inquiry.Honest.remember {inquiry : Inquiry Step} {directive : Directive} {sink : Sink}
    (honest : inquiry.Honest directive sink) {field : Field}
    {reported : Reported (Option field.Content)} (read : directive.read field = .ok reported)
    (readings : List Field) :
    Inquiry.Honest
      { readings
        model :=
          { inquiry.model with
            memory := inquiry.model.memory.remember field (directive.answer field) }
        told :=
          (reported.diagnostics.map fun diagnostic => Step.notice ⟨sink, diagnostic⟩).reverse ++
            inquiry.told } directive sink where
  recalls := honest.recalls.remember field
  told := by
    intro other kept
    by_cases same : field = other
    · subst same
      refine ⟨reported, read, fun diagnostic member => List.mem_append_left _ ?_⟩
      exact List.mem_reverse.2 (List.mem_map_of_mem member)
    · dsimp only at kept
      rw [Memory.remember_of_ne _ same] at kept
      obtain ⟨given, readOther, told⟩ := honest.told other kept
      exact ⟨given, readOther, fun diagnostic member =>
        List.mem_append_right _ (told diagnostic member)⟩

namespace Ask

variable {α β : Type} {directive : Directive} {sink : Sink}

/-- How a step ends that asks for fields: it fails where one of them cannot be read, or finds a
value and has them all remembered. -/
inductive Ended (directive : Directive) (sink : Sink) (fields : List Field)
    (inquiry : Inquiry Step) (value : α) : Except FieldError α × Inquiry Step → Prop
  | failed {fault : FieldError} {field : Field} {after : Inquiry Step} (member : field ∈ fields)
    (unread : directive.read field = .error fault) :
    Ended directive sink fields inquiry value (.error fault, after)
  | found {after : Inquiry Step} (honest : after.Honest directive sink)
    (kept : ∀ field, inquiry.model.memory field ≠ none → after.model.memory field ≠ none)
    (asked : ∀ field ∈ fields, after.model.memory field ≠ none) :
    Ended directive sink fields inquiry value (.ok value, after)

/-- A step asks for fields and finds a value by them, in any honest inquiry. -/
def Asks (directive : Directive) (sink : Sink) (step : Ask Step α) (value : α)
    (fields : List Field) : Prop :=
  ∀ inquiry : Inquiry Step, inquiry.Honest directive sink →
    Ended directive sink fields inquiry value (runFrom step inquiry)

theorem Asks.pure (value : α) : Asks directive sink (Pure.pure value) value [] :=
  fun _ honest => .found honest (fun _ kept => kept) fun _ member => absurd member List.not_mem_nil

/-- One step after another asks for the fields of both. -/
theorem Asks.bind {step : Ask Step α} {next : α → Ask Step β} {value : α} {last : β}
    {fields others : List Field} (first : Asks directive sink step value fields)
    (second : Asks directive sink (next value) last others) :
    Asks directive sink (step >>= next) last (fields ++ others) := by
  intro inquiry honest
  have started := first inquiry honest
  rw [runFrom_bind]
  cases ran : runFrom step inquiry with
  | mk result middle =>
    rw [ran] at started
    cases started with
    | failed member unread => exact .failed (List.mem_append_left _ member) unread
    | found honestMiddle keptFirst asked =>
      have ended := second middle honestMiddle
      dsimp only
      cases ranLater : runFrom (next value) middle with
      | mk answer after =>
        rw [ranLater] at ended
        cases ended with
        | failed member unread => exact .failed (List.mem_append_right _ member) unread
        | found honestAfter keptLater askedLater =>
          refine .found honestAfter (fun field kept => keptLater field (keptFirst field kept)) ?_
          intro field member
          rcases List.mem_append.1 member with member | member
          · exact keptLater field (asked field member)
          · exact askedLater field member

theorem Asks.then {step : Ask Step Unit} {next : Ask Step β} {last : β}
    {fields others : List Field} (first : Asks directive sink step () fields)
    (second : Asks directive sink next last others) :
    Asks directive sink (do step; next) last (fields ++ others) :=
  first.bind second

/-- Telling asks for nothing. -/
theorem Asks.tell (item : Step) : Asks directive sink (Ask.tell item) () [] := by
  intro inquiry honest
  refine .found ⟨honest.recalls, fun field kept => ?_⟩ (fun _ kept => kept)
    fun _ member => absurd member List.not_mem_nil
  obtain ⟨reported, read, told⟩ := honest.told field kept
  exact ⟨reported, read, fun diagnostic member => List.mem_cons_of_mem _ (told diagnostic member)⟩

/-- What depends on the inquiry asks for what it does in each that is honest. -/
theorem Asks.get_bind {next : Inquiry Step → Ask Step α} {value : α} {fields : List Field}
    (each : ∀ inquiry : Inquiry Step, inquiry.Honest directive sink →
      Ended directive sink fields inquiry value (runFrom (next inquiry) inquiry)) :
    Asks directive sink (get >>= next) value fields :=
  each

/-- A field that is asked for is answered and remembered, and what is reported of it is told,
unless it cannot be read. -/
theorem Asks.ask (field : Field) :
    Asks directive sink (Model.ask field) (directive.answer field) [field] := by
  refine Asks.get_bind fun inquiry honest => ?_
  have recalls := honest.recalls
  cases remembered : inquiry.model.memory field with
  | some answer =>
    rw [← recalls.memory field answer remembered]
    simp only [remembered]
    refine .found honest (fun _ kept => kept) fun other member => ?_
    rw [List.mem_singleton.1 member, remembered]
    exact Option.some_ne_none _
  | none =>
    simp only [remembered, recalls.directive_eq, recalls.sink_eq]
    rw [runFrom_bind, runFrom_note]
    cases read : directive.read field with
    | error fault => exact .failed List.mem_cons_self read
    | ok reported =>
      have answered : field.answer reported.value = directive.answer field := by
        rw [Directive.answer, read]
      simp only [answered]
      rw [runFrom_bind, runFrom_warn]
      refine .found (honest.remember read _) (fun other kept => ?_) fun other member => ?_
      · by_cases same : field = other
        · subst same
          exact absurd remembered kept
        · change inquiry.model.memory.remember field _ other ≠ none
          rwa [Memory.remember_of_ne _ same]
      · change inquiry.model.memory.remember field _ other ≠ none
        rw [List.mem_singleton.1 member, Memory.remember_self]
        exact Option.some_ne_none _

/-- Asking for a field asks for it and goes on with its answer. -/
theorem Asks.ask_bind {field : Field} {next : field.Answer → Ask Step β} {last : β}
    {fields : List Field} (rest : Asks directive sink (next (directive.answer field)) last fields) :
    Asks directive sink (Model.ask field >>= next) last (field :: fields) :=
  (Asks.ask field).bind rest

end Ask

namespace Scope

/-- Whether an attribute is compared within one tree. -/
def isShared (scope : Scope) (context : Context) : Bool :=
  scope.forest.sharesAncestry context.target
    ((context.comparableView scope.forest).getD context.target)

/-- The fields that one attribute asks for: those that say what it is compared with, and the others
if there is a constraint. -/
def askedFor (scope : Scope) (context : Context) : List Field :=
  [.relation, .rightAttribute, .constant, .multiplier] ++
    if scope.isShared context then
      [.priority, .identifier, .horizontalSizeClass, .verticalSizeClass]
    else [.identifier]

/-- The fields that a directive is asked for: the reference, and if that is to a view or there
is none, the attributes on the left with what each of them asks for. -/
def asked (scope : Scope) (target : ViewId) (directive : Directive) : List Field :=
  match scope.resolve target (directive.answer .reference) with
  | .unresolved _ => [.reference, .identifier]
  | comparable =>
    .reference :: .leftAttributes :: (directive.answer .leftAttributes).flatMap fun leftAttribute =>
      scope.askedFor (scope.contextOf target directive comparable.view? leftAttribute)

end Scope

namespace Ask

variable {directive : Directive} {sink : Sink}

/-- What finishing an attribute asks for: the priority and the size classes only if there is a
spec. -/
theorem Asks.finish (scope : Scope) (context : Context) :
    Asks directive sink (Model.finish scope sink context) ()
      (if scope.isShared context then
        [.priority, .identifier, .horizontalSizeClass, .verticalSizeClass]
      else [.identifier]) := by
  unfold Model.finish Scope.isShared
  simp only
  split
  · apply Asks.ask_bind
    apply Asks.ask_bind
    apply Asks.ask_bind
    apply Asks.ask_bind
    exact Asks.tell _
  · apply Asks.ask_bind
    exact Asks.tell _

/-- What finishing all attributes asks for, one after the other. -/
theorem Asks.finishAll (scope : Scope) (target : ViewId) (givenView : Option ViewId)
    (attributes : List Attribute) :
    Asks directive sink (Model.finishAll scope sink target givenView attributes) ()
      (attributes.flatMap fun leftAttribute =>
        scope.askedFor (scope.contextOf target directive givenView leftAttribute)) := by
  induction attributes with
  | nil => exact Asks.pure ()
  | cons leftAttribute rest inner =>
    have context : Asks directive sink (Model.contextOf scope target givenView leftAttribute)
        (scope.contextOf target directive givenView leftAttribute)
        [.relation, .rightAttribute, .constant, .multiplier] := by
      apply Asks.ask_bind
      apply Asks.ask_bind
      apply Asks.ask_bind
      apply Asks.ask_bind
      exact Asks.pure _
    rw [List.flatMap_cons, Scope.askedFor, List.append_assoc]
    exact context.bind ((Asks.finish scope _).then inner)

/-- Establishing a directive asks for its fields. -/
theorem Asks.establishSteps (scope : Scope) (target : ViewId) :
    Asks directive sink (Model.establishSteps scope sink target) ()
      (scope.asked target directive) := by
  unfold Model.establishSteps Scope.asked
  have resolved : Asks directive sink (Model.resolveReference scope target)
      (scope.resolve target (directive.answer .reference)) [.reference] := by
    apply Asks.ask_bind
    exact Asks.pure _
  cases meant : scope.resolve target (directive.answer .reference) with
  | unresolved reference =>
    rw [meant] at resolved
    refine resolved.bind ?_
    apply Asks.ask_bind
    exact Asks.tell _
  | unspecified =>
    rw [meant] at resolved
    refine resolved.bind ?_
    apply Asks.ask_bind
    apply Asks.finishAll
  | view id =>
    rw [meant] at resolved
    refine resolved.bind ?_
    apply Asks.ask_bind
    apply Asks.finishAll

end Ask

namespace Scope

variable {scope : Scope} {sink : Sink} {target : ViewId} {directive : Directive}

/-- The inquiry that a pass starts is honest. -/
theorem honest_inquiryOf (sink : Sink) (directive : Directive) :
    (inquiryOf sink directive).Honest directive sink :=
  ⟨recalls_inquiryOf sink directive, fun _ kept => absurd rfl kept⟩

/-- A directive fails only on a field that it is asked for. -/
theorem unread_of_failed {fault : FieldError}
    (failed : (scope.establishment sink target directive).failure = some fault) :
    ∃ field ∈ scope.asked target directive, directive.read field = .error fault := by
  have ended := Ask.Asks.establishSteps scope target _ (honest_inquiryOf sink directive)
  rw [establishment_eq] at failed
  cases ran : Ask.runFrom (Model.establishSteps scope sink target) (inquiryOf sink directive) with
  | mk result after =>
    rw [ran] at ended
    simp only [ran] at failed
    cases ended with
    | failed member unread =>
      cases failed
      exact ⟨_, member, unread⟩
    | found _ _ _ => cases failed

/-- A directive that does not fail has answered all fields that it was asked for, and told all
that was reported of them. -/
theorem told_of_unfailed
    (unfailed : (scope.establishment sink target directive).failure = none) {field : Field}
    (member : field ∈ scope.asked target directive) :
    ∃ reported, directive.read field = .ok reported ∧
      ∀ diagnostic ∈ reported.diagnostics,
        diagnostic ∈ (scope.establishment sink target directive).diagnostics := by
  have ended := Ask.Asks.establishSteps scope target _ (honest_inquiryOf sink directive)
  rw [establishment_eq] at unfailed ⊢
  cases ran : Ask.runFrom (Model.establishSteps scope sink target) (inquiryOf sink directive) with
  | mk result after =>
    rw [ran] at ended
    simp only [ran] at unfailed ⊢
    cases ended with
    | failed _ _ => cases unfailed
    | found honest _ asked =>
      obtain ⟨reported, read, told⟩ := honest.told field (asked field member)
      refine ⟨reported, read, fun diagnostic given => ?_⟩
      have step := List.mem_reverse.2 (told diagnostic given)
      exact List.mem_map.2 ⟨_, List.mem_filterMap.2 ⟨_, step, rfl⟩, rfl⟩

/-- **A directive is established if all fields that it is asked for can be read**, and only then. -/
theorem unfailed_iff :
    (scope.establishment sink target directive).failure = none ↔
      ∀ field ∈ scope.asked target directive, ∃ reported, directive.read field = .ok reported := by
  constructor
  · intro unfailed field member
    obtain ⟨reported, read, _⟩ := told_of_unfailed unfailed member
    exact ⟨reported, read⟩
  · intro read
    cases failed : (scope.establishment sink target directive).failure with
    | none => rfl
    | some fault =>
      obtain ⟨field, member, unread⟩ := unread_of_failed failed
      obtain ⟨reported, given⟩ := read field member
      rw [given] at unread
      cases unread

end Scope

end ViewLayout
