import Mathlib.Tactic.NormNum
import ViewLayout.Proofs.Directive.Attributes
import ViewLayout.Proofs.Directive.Numbers
import ViewLayout.Proofs.Number.Order

/-!
# Bounds of what directives answer

Whatever stands in a directive, it answers with a finite constant, with no priority or one between 0
and 1000, and with no identifier or one that is not empty: what is out of these bounds is read as
absent.
-/

namespace ViewLayout

namespace Reading

variable {priority : Binary64}

theorem value?_leastPriority : leastPriority.value? = some 0 := by
  have least : Magnitude.zero.value = 0 := Magnitude.value_eq_zero_iff.2 rfl
  have finite : Magnitude.zero.isFinite = true := by decide
  simp [leastPriority, Binary64.zero, Binary64.value?, finite, least]

theorem value?_greatestPriority : greatestPriority.value? = some 1000 := by
  have pattern : greatestPriority = .number false (.ofBits 0x408f400000000000) := by
    decide +kernel
  have finite : (Magnitude.ofBits 0x408f400000000000).isFinite = true := by decide
  have significand : (Magnitude.ofBits 0x408f400000000000).significand = 1000 * 2 ^ 43 := by decide
  have exponent : (Magnitude.ofBits 0x408f400000000000).exponent = -43 := by decide
  have value : (Magnitude.ofBits 0x408f400000000000).value = 1000 := by
    rw [Magnitude.value, significand, exponent]
    norm_num
  simp [pattern, Binary64.value?, finite, value]

/-- Only a number within the range of priorities passes the check. -/
theorem inside_of_checkPriority {number? : Option Binary64}
    (checked : (checkPriority number?).value = some priority) :
    number? = some priority ∧ leastPriority.atMost priority = true ∧
      priority.atMost greatestPriority = true := by
  unfold checkPriority at checked
  cases number? with
  | none => cases checked
  | some number =>
    simp only at checked
    split at checked
    · next inside =>
      cases checked
      exact ⟨rfl, Bool.and_eq_true_iff.1 inside⟩
    · cases checked

/-- A finite number within the range of priorities is between 0 and 1000. -/
theorem bounds_of_inside (finite : priority.isFinite = true)
    (least : leastPriority.atMost priority = true)
    (greatest : priority.atMost greatestPriority = true) :
    ∃ value, priority.value? = some value ∧ 0 ≤ value ∧ value ≤ 1000 := by
  obtain ⟨value, stands⟩ := Binary64.exists_value?_iff.2 finite
  exact ⟨value, stands, (Binary64.atMost_iff value?_leastPriority stands).1 least,
    (Binary64.atMost_iff stands value?_greatestPriority).1 greatest⟩

end Reading

namespace Directive

variable {directive : Directive}

/-- The constant of a directive is finite. -/
theorem isFinite_answer_constant (directive : Directive) :
    (directive.answer .constant).value.isFinite = true := by
  have standard : SignedConstant.standard.value.isFinite = true := by decide
  unfold answer
  cases given : NumberField.given? .constant directive.payload with
  | none =>
    have absent : directive.read .constant = .ok ⟨none, []⟩ := read_of_given_eq_none given
    rw [absent]
    exact standard
  | some value =>
    obtain ⟨signed, nothing, made, same⟩ := read_constant given
    rw [same]
    cases read : Reading.number "constant" value with
    | error fault => exact standard
    | ok reported =>
      change ((signed reported.value).getD .standard).value.isFinite = true
      cases found : reported.value with
      | none =>
        rw [nothing]
        exact standard
      | some number =>
        have finite := Reading.isFinite_of_number read found
        cases constant : signed (some number) with
        | none => exact standard
        | some resolved =>
          rcases made number resolved constant with same | negated
          · rwa [Option.getD_some, same]
          · rwa [Option.getD_some, negated, Binary64.isFinite_negate]

/-- **The priority of a directive is between 0 and 1000.** -/
theorem bounds_of_answer_priority {priority : Binary64}
    (answered : directive.answer .priority = some priority) :
    ∃ value, priority.value? = some value ∧ 0 ≤ value ∧ value ≤ 1000 := by
  unfold answer at answered
  cases given : NumberField.given? .priority directive.payload with
  | none =>
    have absent : directive.read .priority = .ok ⟨none, []⟩ := read_of_given_eq_none given
    rw [absent] at answered
    cases answered
  | some value =>
    rw [read_priority given] at answered
    cases read : Reading.number "priority" value with
    | error fault =>
      rw [read] at answered
      cases answered
    | ok reported =>
      rw [read] at answered
      have checked : (Reading.checkPriority reported.value).value = some priority := answered
      obtain ⟨found, least, greatest⟩ := Reading.inside_of_checkPriority checked
      exact Reading.bounds_of_inside (Reading.isFinite_of_number read found) least greatest

/-- The identifier of a directive is not empty. -/
theorem answer_identifier_ne (directive : Directive) :
    directive.answer .identifier ≠ some "" := by
  obtain ⟨lhs, payload, sink⟩ := directive
  intro answered
  cases payload with
  | shorthand rhs => exact absurd (Option.filter_eq_some_iff.1 answered).2 (by decide)
  | verbose fields => exact absurd (Option.filter_eq_some_iff.1 answered).2 (by decide)

end Directive

end ViewLayout
