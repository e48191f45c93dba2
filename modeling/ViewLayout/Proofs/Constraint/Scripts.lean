import Mathlib.Data.List.Nodup
import ViewLayout.Proofs.Constraint.Invariants
import ViewLayout.Proofs.Directive.Subjects

/-!
# Scripts of models

A `Script` writes out what a model is asked and what is told meanwhile, so that each query can be
seen. `Script.play` is the step that a script stands for, and `Script.play_establish` says that a
directive is established by a script. `Script.queries` lists the queries of a script as it is
played. Which of them the directive is read for, the inquiry itself puts down.
-/

namespace ViewLayout

/-- What a model is to be asked and what is to be told meanwhile, as far as a value. -/
inductive Script (α : Type) : Type
  | done (value : α)
  | ask (field : Field) (next : field.Answer → Script α)
  | tell (item : Step) (next : Script α)

/-- A field that a model was asked for, and what it answered. -/
structure Query where
  field : Field
  answer : Except FieldError field.Answer

/-- The query for a field in an inquiry. -/
def Inquiry.query (inquiry : Inquiry Step) (field : Field) : Query where
  field := field
  answer := (Ask.runFrom (Model.ask field) inquiry).1

namespace Ask

variable {inquiry : Inquiry Step} {field : Field}

/-- A step that looks at the inquiry goes on with it. -/
theorem runFrom_get_bind {α : Type} (next : Inquiry Step → Ask Step α) (inquiry : Inquiry Step) :
    runFrom (get >>= next) inquiry = runFrom (next inquiry) inquiry :=
  rfl

/-- A field that is remembered is not read, whatever the directive says about it. -/
theorem runFrom_ask_of_remembered {answer : field.Answer}
    (remembered : inquiry.model.memory field = some answer) :
    runFrom (Model.ask field) inquiry = (.ok answer, inquiry) := by
  refine (runFrom_get_bind _ inquiry).trans ?_
  simp only [remembered]
  rfl

/-- A field that is not remembered is read, and that may fail. -/
theorem runFrom_ask_of_unread {fault : FieldError} (absent : inquiry.model.memory field = none)
    (unread : inquiry.model.directive.read field = .error fault) :
    runFrom (Model.ask field) inquiry =
      (.error fault, { inquiry with readings := field :: inquiry.readings }) := by
  refine (runFrom_get_bind _ inquiry).trans ?_
  simp only [absent, unread]
  rfl

/-- A field that is not remembered is read, what is reported of it is told, and it is remembered
from then on. -/
theorem runFrom_ask_of_read {reported : Reported (Option field.Content)}
    (absent : inquiry.model.memory field = none)
    (read : inquiry.model.directive.read field = .ok reported) :
    runFrom (Model.ask field) inquiry =
      (.ok (field.answer reported.value),
        { model :=
            { inquiry.model with
              memory := inquiry.model.memory.remember field (field.answer reported.value) }
          told :=
            (reported.diagnostics.map fun diagnostic =>
              Step.notice ⟨inquiry.model.sink, diagnostic⟩).reverse ++ inquiry.told
          readings := field :: inquiry.readings }) := by
  refine (runFrom_get_bind _ inquiry).trans ?_
  simp only [absent, read]
  rw [runFrom_bind, runFrom_note]
  dsimp only
  rw [runFrom_bind, runFrom_warn]
  rfl

end Ask

namespace Script

variable {α β : Type}

/-- One script after another, which may depend on the value of the first. -/
def bind (first : Script α) (next : α → Script β) : Script β :=
  match first with
  | done value => next value
  | ask field rest => ask field fun answer => (rest answer).bind next
  | tell item rest => tell item (rest.bind next)

/-- The step that a script stands for. -/
def play : Script α → Ask Step α
  | done value => pure value
  | ask field next => Model.ask field >>= fun answer => (next answer).play
  | tell item next => Ask.tell item >>= fun _ => next.play

/-- Scripts one after the other stand for their steps one after the other. -/
theorem play_bind (first : Script α) (next : α → Script β) :
    (first.bind next).play = first.play >>= fun value => (next value).play := by
  induction first with
  | done value => exact (pure_bind value fun value => (next value).play).symm
  | ask field rest inner =>
    rw [bind, play, play, bind_assoc]
    exact congrArg (_ >>= ·) (funext inner)
  | tell item rest inner =>
    rw [bind, play, play, bind_assoc]
    exact congrArg (_ >>= ·) (funext fun _ => inner)

/-- The queries of a script as it is played, up to the first field that cannot be read. -/
def queries : Script α → Inquiry Step → List Query
  | done _, _ => []
  | ask field next, inquiry =>
    inquiry.query field ::
      match Ask.runFrom (Model.ask field) inquiry with
      | (.ok answer, after) => (next answer).queries after
      | (.error _, _) => []
  | tell item next, inquiry => next.queries (Ask.runFrom (Ask.tell item) inquiry).2

/-- The script of a context. -/
def contextOf (scope : Scope) (target : ViewId) (givenView : Option ViewId)
    (leftAttribute : Attribute) : Script Context :=
  ask .relation fun relation =>
    ask .rightAttribute fun givenAttribute =>
      ask .constant fun givenConstant =>
        ask .multiplier fun givenMultiplier =>
          done {
            target, leftAttribute, relation, givenView, givenAttribute, givenConstant,
            givenMultiplier
            ignoresGivenView := scope.config.independentIgnoresExplicitView.isTruthy }

/-- The script of finishing one constraint. -/
def finish (scope : Scope) (sink : Sink) (context : Context) : Script Unit :=
  if scope.isShared context then
    ask .priority fun priority =>
      ask .identifier fun identifier =>
        ask .horizontalSizeClass fun horizontal =>
          ask .verticalSizeClass fun vertical =>
            tell
              (.spec {
                target := context.target
                leftAttribute := context.leftAttribute
                relation := context.relation
                comparableView := context.comparableView scope.forest
                rightAttribute := context.rightAttribute
                constant := context.constant
                multiplier := context.multiplier
                priority
                identifier
                sizeClasses := ⟨horizontal, vertical⟩ })
              (done ())
  else
    ask .identifier fun identifier =>
      tell (.notice ⟨sink, .ancestryNotShared identifier⟩) (done ())

/-- The script of finishing the constraints of attributes, one after the other. -/
def finishAll (scope : Scope) (sink : Sink) (target : ViewId) (givenView : Option ViewId) :
    List Attribute → Script Unit
  | [] => done ()
  | leftAttribute :: rest =>
    (contextOf scope target givenView leftAttribute).bind fun context =>
      (finish scope sink context).bind fun _ => finishAll scope sink target givenView rest

/-- The script of establishing a directive. -/
def establish (scope : Scope) (sink : Sink) (target : ViewId) : Script Unit :=
  ask .reference fun reference =>
    match scope.resolve target reference with
    | .unresolved name =>
      ask .identifier fun identifier =>
        tell (.notice ⟨sink, .referenceUnresolved name (scope.forest.nameOf target) identifier⟩)
          (done ())
    | comparable =>
      ask .leftAttributes fun attributes =>
        finishAll scope sink target comparable.view? attributes

/-- The script of a context stands for its steps. -/
theorem play_contextOf (scope : Scope) (target : ViewId) (givenView : Option ViewId)
    (leftAttribute : Attribute) :
    (contextOf scope target givenView leftAttribute).play =
      Model.contextOf scope target givenView leftAttribute :=
  rfl

/-- The script that finishes an attribute stands for its steps. -/
theorem play_finish (scope : Scope) (sink : Sink) (context : Context) :
    (finish scope sink context).play = Model.finish scope sink context := by
  unfold finish Model.finish Scope.isShared
  dsimp only
  split <;> rfl

/-- The script that finishes all attributes stands for their steps. -/
theorem play_finishAll (scope : Scope) (sink : Sink) (target : ViewId) (givenView : Option ViewId)
    (attributes : List Attribute) :
    (finishAll scope sink target givenView attributes).play =
      Model.finishAll scope sink target givenView attributes := by
  induction attributes with
  | nil => rfl
  | cons leftAttribute rest inner =>
    rw [finishAll, Model.finishAll, play_bind, play_contextOf]
    refine congrArg (_ >>= ·) (funext fun context => ?_)
    rw [play_bind, play_finish, inner]

/-- **A directive is established by a script.** -/
theorem play_establish (scope : Scope) (sink : Sink) (target : ViewId) :
    (establish scope sink target).play = Model.establishSteps scope sink target := by
  unfold establish Model.establishSteps Model.resolveReference
  rw [play, bind_assoc]
  refine congrArg (_ >>= ·) (funext fun reference => ?_)
  rw [pure_bind]
  cases scope.resolve target reference with
  | unresolved name => rfl
  | unspecified => exact congrArg (_ >>= ·) (funext fun _ => play_finishAll ..)
  | view id => exact congrArg (_ >>= ·) (funext fun _ => play_finishAll ..)

end Script

/-- What is told of a directive itself while it is established for a target, by the time that
some fields were asked for: a constraint by what it answers, when all fields were asked for, and an
error that there is cause for. -/
inductive Scope.MayTell (scope : Scope) (sink : Sink) (target : ViewId) (directive : Directive)
    (asked : List Field) : Step → Prop
  | spec {givenView : Option ViewId} {leftAttribute : Attribute} (all : ∀ field, field ∈ asked) :
    MayTell scope sink target directive asked
      (.spec (scope.specOf directive
        (scope.contextOf target directive givenView leftAttribute)))
  | fault {diagnostic : Diagnostic} (faults : scope.Faults target diagnostic) :
    MayTell scope sink target directive asked (.notice ⟨sink, diagnostic⟩)

namespace Script

variable {α β : Type} {directive : Directive} {may : List Field → Step → Prop}
  {asked : List Field}

/-- If a directive answers, a script tells only what may be told by the time that it has asked for
fields. -/
def Tells (directive : Directive) (may : List Field → Step → Prop) :
    List Field → Script α → Prop
  | _, done _ => True
  | asked, ask field next => Tells directive may (field :: asked) (next (directive.answer field))
  | asked, tell item next => may asked item ∧ Tells directive may asked next

/-- What two scripts may tell, they may tell one after the other. -/
theorem Tells.bind {first : Script α} {next : α → Script β} (told : first.Tells directive may asked)
    (rest : ∀ value more, asked ⊆ more → (next value).Tells directive may more) :
    (first.bind next).Tells directive may asked := by
  induction first generalizing asked with
  | done value => exact rest value asked (List.Subset.refl asked)
  | ask field tail inner =>
    refine inner (directive.answer field) told fun value more within => rest value more ?_
    exact fun other member => within (List.mem_cons_of_mem field member)
  | tell item tail inner => exact ⟨told.1, inner told.2 rest⟩

variable {scope : Scope} {sink : Sink} {target : ViewId}

/-- Finishing an attribute tells nothing but what the directive may tell. -/
theorem tells_finish {reference : Option String} {givenView : Option ViewId}
    {leftAttribute : Attribute} (given : (scope.resolve target reference).view? = givenView)
    (within : [.reference, .leftAttributes, .relation, .rightAttribute, .constant, .multiplier] ⊆
      asked) :
    (finish scope sink (scope.contextOf target directive givenView leftAttribute)).Tells directive
      (scope.MayTell sink target directive) asked := by
  simp only [List.cons_subset] at within
  unfold finish
  split
  · refine ⟨.spec fun field => ?_, trivial⟩
    cases field <;> simp [within]
  · next apart =>
    exact ⟨.fault (.unrelated _ rfl given (Bool.not_eq_true _ ▸ apart)), trivial⟩

/-- Finishing all attributes tells nothing but what the directive may tell. -/
theorem tells_finishAll {reference : Option String} {givenView : Option ViewId}
    (given : (scope.resolve target reference).view? = givenView) {attributes : List Attribute}
    (within : [.reference, .leftAttributes] ⊆ asked) :
    (finishAll scope sink target givenView attributes).Tells directive
      (scope.MayTell sink target directive) asked := by
  induction attributes generalizing asked with
  | nil => trivial
  | cons leftAttribute rest inner =>
    -- the context asks for four fields, and is then the one by the directive's answers
    change Tells directive _ (.multiplier :: .constant :: .rightAttribute :: .relation :: asked)
      ((finish scope sink (scope.contextOf target directive givenView leftAttribute)).bind fun _ =>
        finishAll scope sink target givenView rest)
    simp only [List.cons_subset] at within
    refine Tells.bind (tells_finish given ?_) fun _ more wider => inner ?_
    · simp [within]
    · simp only [List.cons_subset] at wider ⊢
      exact ⟨wider.2.2.2.2 within.1, wider.2.2.2.2 within.2.1, List.nil_subset _⟩

/-- The script of a directive tells constraints and errors only, and constraints only when it
has asked for all fields. -/
theorem tells_establish (scope : Scope) (sink : Sink) (target : ViewId) (directive : Directive) :
    (establish scope sink target).Tells directive (scope.MayTell sink target directive) [] := by
  change Tells directive _ [.reference] (match scope.resolve target
      (directive.answer .reference) with
    | .unresolved name => _
    | comparable => ask .leftAttributes fun attributes =>
        finishAll scope sink target comparable.view? attributes)
  cases meant : scope.resolve target (directive.answer .reference) with
  | unresolved name => exact ⟨.fault (.unresolved _ meant), trivial⟩
  | _ => exact tells_finishAll (congrArg Comparable.view? meant) (by decide)

end Script

end ViewLayout
