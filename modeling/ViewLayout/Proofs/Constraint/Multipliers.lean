import ViewLayout.Proofs.Constraint.Sessions
import ViewLayout.Proofs.Number.Rounding

/-!
# Multipliers of constraints

All constraints of a directive have the multiplier that its answer comes to. A directive is kept
from dividing by zero, but not by a number that is so small that the quotient is out of the range:
`Model.session_isFinite_multiplier_iff` says that all other multipliers are finite.
-/

namespace ViewLayout

/-- A directive gives a number to divide by that is not zero, but so small that one divided by it is
rounded out of the range. -/
def Directive.DividesOutOfRange (directive : Directive) : Prop :=
  ∃ divisor value, directive.DividesBy divisor ∧ divisor.value? = some value ∧ value ≠ 0 ∧
    overflowBound ≤ 1 / |value|

/-- A number that stands for a rational is a zero exactly if that is zero. -/
theorem Binary64.isZero_eq_false_iff {x : Binary64} {value : ℚ} (stands : x.value? = some value) :
    x.isZero = false ↔ value ≠ 0 := by
  cases x with
  | nan => cases stands
  | number negative magnitude =>
    cases (Option.ite_none_right_eq_some.1 stands).2
    have zero : magnitude.value = 0 ↔ magnitude.bits = 0 := Magnitude.value_eq_zero_iff
    cases negative <;> simp [isZero, zero]

namespace Directive

variable {directive : Directive}

/-- A division leaves the range exactly if the reciprocal does. -/
theorem dividesOutOfRange_iff {value : ℚ}
    (stands : (directive.answer .multiplier).value.value? = some value) :
    directive.DividesOutOfRange ↔
      (directive.answer .multiplier).sign = .divide ∧ overflowBound ≤ 1 / |value| := by
  constructor
  · rintro ⟨divisor, other, divides, standsOther, nonzero, beyond⟩
    have notZero := (Binary64.isZero_eq_false_iff standsOther).2 nonzero
    obtain ⟨sign, rfl⟩ := divides_iff.2 ⟨divides, notZero⟩
    obtain rfl := Option.some.inj (stands.symm.trans standsOther)
    exact ⟨sign, beyond⟩
  · rintro ⟨sign, beyond⟩
    obtain ⟨divides, notZero⟩ := divides_iff.1 ⟨sign, rfl⟩
    exact ⟨_, value, divides, stands, (Binary64.isZero_eq_false_iff stands).1 notZero, beyond⟩

/-- What a multiplier comes to is finite, unless it divides by too small a number. -/
theorem isFinite_resolved_iff (directive : Directive) :
    (directive.answer .multiplier).resolved.isFinite = true ↔ ¬ directive.DividesOutOfRange := by
  have finite := directive.isFinite_answer_multiplier
  obtain ⟨value, stands⟩ := Binary64.exists_value?_iff.2 finite
  rw [dividesOutOfRange_iff stands, SignedMultiplier.resolved]
  cases sign : (directive.answer .multiplier).sign with
  | multiply =>
    refine iff_of_true finite ?_
    rintro ⟨divides, _⟩
    cases divides
  | divide =>
    have notZero := (directive.answer .multiplier).divisor_ne_zero sign
    have nonzero := (Binary64.isZero_eq_false_iff stands).1 notZero
    refine (Binary64.isFinite_reciprocal_iff stands nonzero).trans ?_
    rw [not_and, not_le, imp_iff_right rfl]

end Directive

namespace Model

variable {model : Model} {directive : Directive} {ownSink : Option Sink}

/-- The constraints of a directive have its multiplier. -/
theorem multiplier_of_told (owned : Owned directive ownSink model) {use : Use} {spec : Spec}
    (told : .spec spec ∈ (model.perform use).steps) :
    spec.multiplier = (directive.answer .multiplier).resolved := by
  cases (consults_perform owned.recalls use).arises _ told with
  | told allowed _ =>
    cases use with
    | ask field => exact allowed.elim
    | establish scope target sink =>
      cases allowed with
      | spec _ => rfl

/-- **The multipliers of constraints are finite**, however the model of a directive is used, unless
the directive divides by a number that is not zero but so small that the quotient is rounded to
infinity. -/
theorem session_isFinite_multiplier_iff (directive : Directive) (ownSink : Option Sink)
    (uses : List Use) :
    ∀ upshot ∈ ({ directive, ownSink } : Model).session uses, ∀ spec, .spec spec ∈ upshot.steps →
      (spec.multiplier.isFinite = true ↔ ¬ directive.DividesOutOfRange) := by
  refine forall_mem_session (fun model use owned => owned.perform use)
    (fun model use owned spec told => ?_) (Owned.start directive ownSink) uses
  rw [multiplier_of_told owned told]
  exact directive.isFinite_resolved_iff

/-- A width divided by a number below the range of normal ones. -/
def minutelyDivided : Directive where
  lhs := "width"
  payload := .verbose
    [(.text "multiplier",
      .mapping
        [(.text "value", .float (.ofDecimal false 1 (-320))), (.text "sign", .text "divide")])]
  sink := .log

/-- That directive tells a spec whose multiplier is not finite. -/
theorem told_minutelyDivided :
    ∃ spec, .spec spec ∈
        (({ directive := minutelyDivided } : Model).perform (.establish .window 0 none)).steps ∧
      spec.multiplier.isFinite = false := by
  have infinite : (({ directive := minutelyDivided } : Model).establish .window 0 none).specs.map
      Spec.multiplier = [.number false .infinity] := by decide +kernel
  obtain ⟨spec, only, same⟩ := List.map_eq_singleton_iff.1 infinite
  obtain ⟨step, told, finished⟩ := List.mem_filterMap.1 (only ▸ List.mem_singleton_self spec)
  cases step with
  | notice notice => cases finished
  | spec other =>
    cases finished
    refine ⟨spec, ?_, ?_⟩
    · rwa [steps_perform_establish]
    · rw [same]
      rfl

/-- The divisor is so small that its quotient is out of the range. -/
theorem minutelyDivided_dividesOutOfRange : minutelyDivided.DividesOutOfRange := by
  obtain ⟨spec, told, infinite⟩ := told_minutelyDivided
  by_contra within
  have finite := (session_isFinite_multiplier_iff minutelyDivided none
    [.establish .window 0 none] _ List.mem_cons_self spec told).2 within
  rw [infinite] at finite
  cases finite

/-- It is established and nothing is told of it, but its constraint has no finite multiplier. -/
theorem establish_minutelyDivided :
    let establishment := ({ directive := minutelyDivided } : Model).establish .window 0 none
    establishment.failure = none ∧ establishment.diagnostics.length = 0 ∧
      establishment.specs.map Spec.multiplier = [.number false .infinity] := by
  decide +kernel

end Model

end ViewLayout
