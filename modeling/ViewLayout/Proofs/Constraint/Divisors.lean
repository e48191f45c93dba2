import ViewLayout.Proofs.Constraint.Multipliers
import ViewLayout.Proofs.Directive.LeavingOut

/-!
# Zero divisors

Nothing is divided by zero when a directive is established: a multiplier that would is not made. It
costs the directive this multiplier and one warning, and nothing else:
`Model.zeroDivisor_costsMultiplier` compares what it comes to with what the directive comes to
without its multipliers.
-/

namespace ViewLayout

/-- What a multiplier comes to by a division that refuses zero. -/
def SignedMultiplier.resolved? (multiplier : SignedMultiplier) : Option Binary64 :=
  match multiplier.sign with
  | .multiply => some multiplier.value
  | .divide => if multiplier.value.isZero then none else some multiplier.value.reciprocal

/-- A multiplier never divides by zero. -/
theorem SignedMultiplier.resolved?_eq (multiplier : SignedMultiplier) :
    multiplier.resolved? = some multiplier.resolved := by
  cases sign : multiplier.sign with
  | multiply => simp only [resolved?, resolved, sign]
  | divide =>
    simp only [resolved?, resolved, sign, multiplier.divisor_ne_zero sign, Bool.false_eq_true,
      ↓reduceIte]

namespace Directive

variable {directive : Directive} {other : Payload}

/-- A directive can be read as well without its multipliers. -/
theorem Legible.of_leavesOut (legible : directive.Legible)
    (leaves : directive.payload.LeavesOut other) :
    { directive with payload := other }.Legible := by
  have given {numberField : NumberField} {value : Value}
      (found : numberField.given? other = some value) :
      numberField.given? directive.payload = some value := by
    by_cases own : numberField = .multiplier
    · subst own
      rw [NumberField.given?_multiplier_of_leavesOut leaves] at found
      cases found
    · rwa [NumberField.given?_of_leavesOut leaves own] at found
  refine ⟨fun numberField value found => legible.showable numberField value (given found), ?_⟩
  rintro _ ⟨numberField, value, rfl, found, oversized⟩
  exact legible.fits _ ⟨numberField, value, rfl, given found, oversized⟩

/-- All that a short directive gives is text, and can be read. -/
theorem Legible.of_shorthand (lhs rhs : String) (sink : Sink) :
    Legible ⟨lhs, .shorthand rhs, sink⟩ := by
  refine .of_texts fun numberField value given => ?_
  obtain ⟨argument, _, rfl⟩ :=
    Option.map_eq_some_iff.1 ((Shorthand.given?_eq rhs numberField).symm.trans given)
  exact ⟨_, rfl⟩

/-- A divisor that is zero is no multiplier, and is warned of. -/
theorem read_zeroDivisor (legible : directive.Legible) {divisor : Binary64}
    (divides : directive.DividesBy divisor) (zero : divisor.isZero = true) :
    directive.read .multiplier = .ok ⟨none, [.zeroDivisor]⟩ := by
  obtain ⟨value, given, finite, sign⟩ := divides
  exact read_of_unusable legible.showable (.divisor given finite sign zero) (legible.fits _)

/-- A directive that divides by zero answers as without its multipliers. -/
theorem answer_eq_of_zeroDivisor (legible : directive.Legible) {divisor : Binary64}
    (divides : directive.DividesBy divisor) (zero : divisor.isZero = true)
    (leaves : directive.payload.LeavesOut other) (field : Field) :
    { directive with payload := other }.answer field = directive.answer field := by
  by_cases own : field = .multiplier
  · subst own
    rw [answer_multiplier_of_leavesOut leaves, answer, read_zeroDivisor legible divides zero]
    rfl
  · exact answer_of_leavesOut leaves own

end Directive

namespace Scope

variable {scope : Scope} {target : ViewId} {directive other : Directive}

section Answers

variable (same : ∀ field, directive.answer field = other.answer field)
include same

/-- Contexts follow from answers. -/
theorem contextOf_congr : scope.contextOf target directive = scope.contextOf target other := by
  funext givenView leftAttribute
  simp only [contextOf, same]

/-- Verdicts follow from answers. -/
theorem verdict_congr : scope.verdict directive = scope.verdict other := by
  funext context
  simp only [verdict, specOf, same]

/-- What a directive comes to follows from its answers. -/
theorem verdicts_congr : scope.verdicts target directive = scope.verdicts target other := by
  unfold verdicts
  rw [contextOf_congr same, verdict_congr same, same, same, same]

end Answers

/-- The multiplier is asked for if there is an attribute to constrain. -/
theorem multiplier_mem_asked
    (resolved : ∀ name, scope.resolve target (directive.answer .reference) ≠ .unresolved name)
    (known : directive.answer .leftAttributes ≠ []) :
    .multiplier ∈ scope.asked target directive := by
  obtain ⟨leftAttribute, member⟩ := List.exists_mem_of_ne_nil _ known
  unfold asked
  cases meant : scope.resolve target (directive.answer .reference) with
  | unresolved name => exact absurd meant (resolved name)
  | _ =>
    refine List.mem_cons_of_mem _ (List.mem_cons_of_mem _ (List.mem_flatMap.2 ⟨_, member, ?_⟩))
    exact List.mem_append_left _ (by decide)

end Scope

namespace Model

variable {directive : Directive} {ownSink sink : Option Sink} {scope : Scope} {target : ViewId}

/-- A directive that can be read is established, and its constraints are those of its
verdicts. -/
theorem establish_of_legible (legible : directive.Legible) (ownSink : Option Sink) (scope : Scope)
    (target : ViewId) (sink : Option Sink) :
    let establishment := ({ directive, ownSink } : Model).establish scope target sink
    establishment.failure = none ∧
      establishment.specs = (scope.verdicts target directive).filterMap Verdict.spec? ∧
      establishment.diagnostics = scope.diagnosticsOf target directive := by
  have unfailed : (scope.establishment .log target directive).failure = none :=
    Scope.unfailed_iff.2 fun field _ => legible.read field
  obtain ⟨sayings, failure⟩ := sayings_eq { directive, ownSink }
    { directive, ownSink := some .log } rfl rfl scope target
    (errorSink { directive, ownSink } sink) .log
  refine ⟨failure.trans unfailed, ?_, Establishment.diagnostics_eq_of_sayings sayings⟩
  exact (Establishment.specs_eq_of_sayings sayings).trans (Scope.specsOf_eq unfailed).1

/-- No field is warned of twice while a directive is established. -/
theorem count_diagnostics_le_one (directive : Directive) (ownSink : Option Sink) (scope : Scope)
    (target : ViewId) (sink : Option Sink) (field : Field) :
    (({ directive, ownSink } : Model).establish scope target sink).diagnostics.countP
      (fun diagnostic => diagnostic.field? == some field) ≤ 1 := by
  have owned := Owned.start directive ownSink
  have consults := consults_perform owned.recalls (.establish scope target sink)
  have once := List.nodup_iff_count_le_one.1 (consults.warned.nodup consults.once) field
  rw [List.count_filterMap, steps_perform_establish] at once
  rw [Establishment.diagnostics, List.countP_map, List.countP_filterMap]
  refine le_of_eq_of_le (List.countP_congr fun step _ => ?_) once
  cases step <;> simp [Step.notice?, Step.subject?]

/-- A multiplier costs only itself: a directive comes to the constraints of another one, which
is the same without multipliers, and it is the one thing that is warned of about multipliers. -/
structure CostsMultiplier (own without : Establishment) : Prop where
  returns : own.failure = none ∧ without.failure = none
  warned : own.diagnostics.filter (fun diagnostic => diagnostic.field? == some .multiplier) =
    [.zeroDivisor]
  specs : own.specs = without.specs

/-- Nothing is divided by zero while a model of the directive is used. -/
structure NeverDividesByZero (directive : Directive) (session : List Upshot) : Prop where
  /-- What is divided by is a number that the directive gives, and it is not zero. -/
  divisor : (directive.answer .multiplier).sign = .divide →
    directive.DividesBy (directive.answer .multiplier).value ∧
      (directive.answer .multiplier).value.isZero = false
  /-- The multipliers of all constraints come out of a division that refuses zero. -/
  resolved : ∀ upshot ∈ session, ∀ spec, .spec spec ∈ upshot.steps →
    (directive.answer .multiplier).resolved? = some spec.multiplier

theorem neverDividesByZero (directive : Directive) (ownSink : Option Sink) (uses : List Use) :
    NeverDividesByZero directive (({ directive, ownSink } : Model).session uses) where
  divisor := fun sign => Directive.divides_iff.1 ⟨sign, rfl⟩
  resolved := by
    refine forall_mem_session (fun model use owned => owned.perform use)
      (fun model use owned spec told => ?_) (Owned.start directive ownSink) uses
    rw [multiplier_of_told owned told, SignedMultiplier.resolved?_eq]

/-- A divisor that is zero is the one thing that is warned of about multipliers. -/
theorem warned_of_zeroDivisor (legible : directive.Legible) {divisor : Binary64}
    (divides : directive.DividesBy divisor) (zero : divisor.isZero = true)
    (resolved : ∀ name, scope.resolve target (directive.answer .reference) ≠ .unresolved name)
    (known : directive.answer .leftAttributes ≠ []) :
    (({ directive, ownSink } : Model).establish scope target sink).diagnostics.filter
      (fun diagnostic => diagnostic.field? == some .multiplier) = [.zeroDivisor] := by
  have told := (establish_of_legible legible ownSink scope target sink).2.2
  have unfailed : (scope.establishment .log target directive).failure = none :=
    Scope.unfailed_iff.2 fun field _ => legible.read field
  obtain ⟨reported, read, all⟩ := Scope.told_of_unfailed unfailed
    (Scope.multiplier_mem_asked resolved known)
  obtain rfl := Except.ok.inj ((Directive.read_zeroDivisor legible divides zero).symm.trans read)
  have once := count_diagnostics_le_one directive ownSink scope target sink .multiplier
  rw [List.countP_eq_length_filter] at once
  have warned : .zeroDivisor ∈ (({ directive, ownSink } : Model).establish scope target
      sink).diagnostics.filter (fun diagnostic => diagnostic.field? == some .multiplier) := by
    refine List.mem_filter.2 ⟨?_, rfl⟩
    rw [told]
    exact all _ List.mem_cons_self
  obtain ⟨only, same⟩ := List.length_eq_one_iff.1
    (le_antisymm once (List.length_pos_of_mem warned))
  rw [same] at warned ⊢
  rw [List.mem_singleton.1 warned]

/-- **A divisor that is zero is never reached, and costs only the multiplier.** The directive is
established with one warning of its multiplier, and comes to the same constraints as without its
multipliers, if it refers to a view or to none and names an attribute. -/
theorem zeroDivisor_costsMultiplier (legible : directive.Legible) (ownSink : Option Sink) :
    (∀ uses, NeverDividesByZero directive (({ directive, ownSink } : Model).session uses)) ∧
      ∀ divisor, directive.DividesBy divisor → divisor.isZero = true →
        (∃ other, directive.payload.LeavesOut other) ∧
          ∀ other, directive.payload.LeavesOut other → ∀ scope target,
            (∀ name, scope.resolve target (directive.answer .reference) ≠ .unresolved name) →
              directive.answer .leftAttributes ≠ [] → ∀ sink,
                CostsMultiplier
                  (({ directive, ownSink } : Model).establish scope target sink)
                  (({ directive := { directive with payload := other }, ownSink } :
                    Model).establish scope target sink) := by
  refine ⟨neverDividesByZero directive ownSink, fun divisor divides zero =>
    ⟨directive.payload.exists_leavesOut, fun other leaves scope target resolved known sink => ?_⟩⟩
  have own := establish_of_legible legible ownSink scope target sink
  have without := establish_of_legible (legible.of_leavesOut leaves) ownSink scope target sink
  refine ⟨⟨own.1, without.1⟩, warned_of_zeroDivisor legible divides zero resolved known, ?_⟩
  rw [own.2.1, without.2.1, Scope.verdicts_congr
    (Directive.answer_eq_of_zeroDivisor legible divides zero leaves)]

/-- A size that is divided by zero. -/
def dividedByZero : Directive :=
  ⟨"size", .shorthand "/0 +8", .log⟩

/-- Both constraints are as without the divisor, of which there is one warning. -/
theorem dividedByZero_costsMultiplier :
    dividedByZero.Legible ∧
      CostsMultiplier (({ directive := dividedByZero } : Model).establish .window 0 none)
        (({ directive := ⟨"size", .shorthand "+8", .log⟩ } : Model).establish .window 0 none) := by
  have legible : dividedByZero.Legible := .of_shorthand "size" "/0 +8" .log
  have leaves : dividedByZero.payload.LeavesOut (.shorthand "+8") := .shorthand (by decide)
  refine ⟨legible, ?_⟩
  have divides : dividedByZero.DividesBy .zero := ⟨.text "0", rfl, by decide, rfl⟩
  exact ((zeroDivisor_costsMultiplier legible none).2 .zero divides rfl).2 _ leaves .window 0
    (fun name meant => by cases meant) (by decide) none

end Model

end ViewLayout
