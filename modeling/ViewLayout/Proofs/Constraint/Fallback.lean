import ViewLayout.Proofs.Constraint.Pairs

/-!
# What is around

A name is looked for in the surroundings only where it means nothing else. So a directive that is
resolved with nothing around comes to the same in any surroundings, and a reference that is
unresolved then is resolved exactly if the surroundings supply a view for it.
-/

namespace ViewLayout

/-- The reference that a diagnostic is about which says that it is unresolved. -/
def Diagnostic.unresolved? : Diagnostic → Option String
  | referenceUnresolved reference _ _ => some reference
  | _ => none

namespace Ask

variable {α : Type} {directive : Directive} {sink : Sink}

/-- What comes after a question depends on nothing but the answer of the directive. -/
theorem runFrom_ask_bind_congr {field : Field} {next other : field.Answer → Ask Step α}
    {inquiry : Inquiry Step} (recalls : inquiry.model.Recalls directive sink)
    (same : next (directive.answer field) = other (directive.answer field)) :
    runFrom (Model.ask field >>= next) inquiry = runFrom (Model.ask field >>= other) inquiry := by
  rw [runFrom_bind, runFrom_bind]
  cases ran : runFrom (Model.ask field) inquiry with
  | mk result after =>
    cases result with
    | error fault => rfl
    | ok value =>
      obtain ⟨rfl, _⟩ := Finds.ask field inquiry value after recalls ran
      dsimp only
      rw [same]

end Ask

namespace Scope

variable {scope : Scope} {target : ViewId} {directive : Directive}

/-- The scope with nothing around. -/
def alone (scope : Scope) : Scope :=
  { scope with environment := [] }

/-- Whether the surroundings have a view for a reference that does not mean the parent. -/
def supplies (scope : Scope) (name : String) : Bool :=
  !scope.meansParent name && (scope.environment.get? name >>= Surrounding.view?).isSome

/-- With nothing around, names mean what they do in the index. -/
theorem lookup?_alone (name : String) : scope.alone.lookup? name = scope.index.get? name := by
  simp [lookup?, alone, Table.get?]

/-- What is resolved with nothing around is resolved alike in any surroundings. -/
theorem resolve_alone {reference : Option String}
    (resolved : ∀ name, scope.alone.resolve target reference ≠ .unresolved name) :
    scope.alone.resolve target reference = scope.resolve target reference := by
  cases reference with
  | none => rfl
  | some name =>
    have parental : scope.alone.meansParent name = scope.meansParent name := rfl
    have known := resolved name
    simp only [resolve, parental, lookup?_alone] at known ⊢
    cases means : scope.meansParent name with
    | true => rfl
    | false =>
      simp only [means, Bool.false_eq_true, ↓reduceIte] at known ⊢
      cases found : scope.index.get? name with
      | none =>
        rw [found] at known
        exact absurd rfl known
      | some id => simp only [lookup?, found, Option.some_or]

/-- A reference is unresolved exactly if the name in it means nothing. -/
theorem resolve_some_eq_unresolved_iff {given name : String} :
    scope.resolve target (some given) = .unresolved name ↔
      given = name ∧
        (if scope.meansParent given then scope.forest.parent? target
          else scope.lookup? given) = none := by
  simp only [resolve]
  split <;> simp_all

/-- A reference is unresolved exactly if it is so with nothing around and is not supplied. -/
theorem resolve_eq_unresolved_iff_alone {reference : Option String} {name : String} :
    scope.resolve target reference = .unresolved name ↔
      scope.alone.resolve target reference = .unresolved name ∧ scope.supplies name = false := by
  cases reference with
  | none => simp [resolve]
  | some given =>
    have parental : scope.alone.meansParent given = scope.meansParent given := rfl
    rw [resolve_some_eq_unresolved_iff, resolve_some_eq_unresolved_iff, parental, lookup?_alone,
      and_assoc]
    refine and_congr_right ?_
    rintro rfl
    cases means : scope.meansParent given with
    | true => simp [supplies, means, alone]
    | false => simp [supplies, means, lookup?]

/-- How attributes are finished does not depend on the environment. -/
theorem finishAll_alone (sink : Sink) (target : ViewId) (givenView : Option ViewId)
    (attributes : List Attribute) :
    Model.finishAll scope.alone sink target givenView attributes =
      Model.finishAll scope sink target givenView attributes := by
  induction attributes with
  | nil => rfl
  | cons leftAttribute rest inner =>
    simp only [Model.finishAll, inner]
    rfl

/-- A directive that is resolved with nothing around is established alike in any
surroundings. -/
theorem establishment_alone
    (resolved : ∀ name,
      scope.alone.resolve target (directive.answer .reference) ≠ .unresolved name) (sink : Sink) :
    scope.alone.establishment sink target directive =
      scope.establishment sink target directive := by
  have steps : Ask.runFrom (Model.establishSteps scope.alone sink target)
      (inquiryOf sink directive) =
        Ask.runFrom (Model.establishSteps scope sink target) (inquiryOf sink directive) := by
    simp only [Model.establishSteps, Model.resolveReference, bind_assoc, pure_bind]
    refine Ask.runFrom_ask_bind_congr (recalls_inquiryOf sink directive) ?_
    rw [resolve_alone resolved]
    cases scope.resolve target (directive.answer .reference) with
    | unresolved name => rfl
    | _ => simp only [finishAll_alone]
  rw [establishment_eq, establishment_eq, steps]

/-- What a directive tells of unresolved references: its own one, if it is unresolved. -/
theorem unresolved_diagnosticsOf
    (unfailed : (scope.establishment .log target directive).failure = none) :
    (scope.diagnosticsOf target directive).filter (·.unresolved?.isSome) =
      match scope.resolve target (directive.answer .reference) with
      | .unresolved name =>
        [.referenceUnresolved name (scope.forest.nameOf target) (directive.answer .identifier)]
      | _ => [] := by
  have errors : (scope.diagnosticsOf target directive).filter (·.unresolved?.isSome) =
      ((scope.verdicts target directive).filterMap Verdict.fault?).filter
        (·.unresolved?.isSome) := by
    rw [← (specsOf_eq unfailed).2, List.filter_filter]
    refine List.filter_congr fun diagnostic _ => ?_
    cases diagnostic <;> rfl
  rw [errors]
  cases meant : scope.resolve target (directive.answer .reference) with
  | unresolved name =>
    rw [verdicts, meant]
    rfl
  | _ =>
    rw [verdicts_of_resolved (by simp [meant])]
    refine List.filter_eq_nil_iff.2 fun diagnostic told => ?_
    obtain ⟨verdict, member, same⟩ := List.mem_filterMap.1 told
    obtain ⟨leftAttribute, _, rfl⟩ := List.mem_map.1 member
    unfold verdict at same
    split at same <;> cases same
    exact Bool.false_ne_true

/-- **The constraints of a directive with nothing around are among those in any surroundings.** -/
theorem sublist_specsOf_alone
    (unfailed : (scope.alone.establishment .log target directive).failure = none) :
    (scope.alone.specsOf target directive).Sublist (scope.specsOf target directive) := by
  cases meant : scope.alone.resolve target (directive.answer .reference) with
  | unresolved name =>
    rw [specsOf_eq_nil unfailed meant]
    exact List.nil_sublist _
  | _ =>
    have resolved : ∀ name,
        scope.alone.resolve target (directive.answer .reference) ≠ .unresolved name := by
      simp [meant]
    rw [specsOf, establishment_alone resolved]
    exact List.Sublist.refl _

/-- A reference that is told of as unresolved with nothing around is told of so in any
surroundings, unless it is supplied. -/
theorem unresolved_diagnosticsOf_alone
    (unfailed : (scope.establishment .log target directive).failure = none)
    (unfailedAlone : (scope.alone.establishment .log target directive).failure = none) :
    (scope.diagnosticsOf target directive).filter (·.unresolved?.isSome) =
      ((scope.alone.diagnosticsOf target directive).filter (·.unresolved?.isSome)).filter
        fun diagnostic => diagnostic.unresolved?.all fun name => !scope.supplies name := by
  rw [unresolved_diagnosticsOf unfailed, unresolved_diagnosticsOf unfailedAlone]
  cases meant : scope.alone.resolve target (directive.answer .reference) with
  | unresolved name =>
    cases supplied : scope.supplies name with
    | false =>
      rw [resolve_eq_unresolved_iff_alone.2 ⟨meant, supplied⟩]
      simp [Diagnostic.unresolved?, supplied, alone]
    | true =>
      have known : ∀ other, scope.resolve target (directive.answer .reference) ≠
          .unresolved other := by
        intro other unknown
        obtain ⟨still, missing⟩ := resolve_eq_unresolved_iff_alone.1 unknown
        cases meant.symm.trans still
        cases supplied.symm.trans missing
      cases resolved : scope.resolve target (directive.answer .reference) with
      | unresolved other => exact absurd resolved (known other)
      | _ => simp [Diagnostic.unresolved?, supplied]
  | _ =>
    rw [← resolve_alone (by simp [meant]), meant]
    rfl

end Scope

end ViewLayout
