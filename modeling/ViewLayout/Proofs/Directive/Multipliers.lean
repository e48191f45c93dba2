import ViewLayout.Proofs.Constraint.Verdicts
import ViewLayout.Proofs.Directive.Numbers

/-!
# Multipliers of directives

A multiplier is the finite number that a directive gives, with the sign that it gives, and it is 1
if there is none or if it would divide by zero: `Directive.answer_multiplier` says so for both
forms. `Directive.divides_iff` is that a directive divides exactly by a number that is not zero.
-/

namespace ViewLayout

/-- What a payload makes of the number that it gives for a multiplier. -/
def Payload.signMultiplier (payload : Payload) (number? : Option Binary64) :
    Reported (Option SignedMultiplier) :=
  match payload.multiplierSign? with
  | none => .clean none
  | some sign => Reading.checkMultiplier number? sign

/-- A multiplier as a payload gives it: a finite number with a sign, which is no divisor that is
zero. -/
def Payload.multiplier? (payload : Payload) : Option SignedMultiplier := do
  let value ← NumberField.given? .multiplier payload
  let number ← value.finite?
  let sign ← payload.multiplierSign?
  SignedMultiplier.make? number sign

/-- A directive gives a number to divide by. -/
def Directive.DividesBy (directive : Directive) (divisor : Binary64) : Prop :=
  ∃ value, NumberField.given? .multiplier directive.payload = some value ∧
    value.finite? = some divisor ∧ directive.payload.multiplierSign? = some .divide

namespace Reading

variable {value : Value} {field : String} {reported : Reported (Option Binary64)}

/-- What is read for a number is the finite number that is given, or none with a warning. -/
theorem number_eq_ok (read : number field value = .ok reported) :
    reported = match value.finite? with
      | some found => ⟨some found, []⟩
      | none => ⟨none, [.invalidNumber field value]⟩ := by
  cases finite : value.finite? with
  | some found =>
    rw [number_of_finite finite] at read
    exact (Except.ok.inj read).symm
  | none =>
    unfold Value.finite? at finite
    unfold number at read
    cases given : value.number? with
    | error fault =>
      rw [given] at read
      cases read
    | ok number? =>
      rw [given] at finite read
      simp only [bind, Except.bind, finite] at read
      split at read
      · exact (Except.ok.inj read).symm
      · cases read

/-- A checked multiplier is the number with its sign, if it divides by no zero. -/
theorem value_checkMultiplier (number? : Option Binary64) (sign : MultiplierSign) :
    (checkMultiplier number? sign).value = number? >>= (SignedMultiplier.make? · sign) := by
  cases number? with
  | none => rfl
  | some number =>
    simp only [checkMultiplier, Option.bind_eq_bind, Option.bind_some]
    cases SignedMultiplier.make? number sign <;> rfl

end Reading

namespace Directive

variable {directive : Directive} {value : Value} {divisor : Binary64}

/-- A multiplier is read from the number and the sign that are given, in either form. -/
theorem read_multiplier_eq
    (given : NumberField.given? .multiplier directive.payload = some value) :
    directive.read .multiplier =
      (Reading.number "multiplier" value).map (· >>= directive.payload.signMultiplier) := by
  obtain ⟨lhs, payload, sink⟩ := directive
  cases payload with
  | shorthand rhs =>
    obtain ⟨⟨sign, raw⟩, found, rfl⟩ := Option.map_eq_some_iff.1 given
    have named : (Payload.shorthand rhs).multiplierSign? = some sign := by
      simp only [Payload.multiplierSign?, found, Option.map_some]
    simp only [read, Shorthand.read, Shorthand.multiplier, found, Reading.number_text]
    refine congrArg Except.ok (congrArg (_ >>= ·) (funext fun number? => ?_))
    simp only [Payload.signMultiplier, named]
  | verbose fields =>
    obtain ⟨⟨raw, sign⟩, found, rfl⟩ := Option.map_eq_some_iff.1 given
    have named : (Payload.verbose fields).multiplierSign? =
        (sign.map MultiplierSign.ofName?).getD (some .multiply) := by
      simp only [Payload.multiplierSign?, found, Option.bind_some]
      cases sign <;> rfl
    refine (signedNumber_bind found _).trans ?_
    refine congrArg (Except.map · _) (funext fun number => congrArg (number >>= ·) ?_)
    funext number?
    simp only [Payload.signMultiplier, named]
    cases number? with
    | none => cases (sign.map MultiplierSign.ofName?).getD (some .multiply) <;> rfl
    | some number => rfl

/-- The multiplier of a directive is the one that it gives, and 1 if it gives none. -/
theorem answer_multiplier (directive : Directive) :
    directive.answer .multiplier = directive.payload.multiplier?.getD .standard := by
  unfold answer Payload.multiplier?
  cases given : NumberField.given? .multiplier directive.payload with
  | none =>
    have absent : directive.read .multiplier = .ok ⟨none, []⟩ := read_of_given_eq_none given
    rw [absent]
    rfl
  | some value =>
    rw [read_multiplier_eq given, Option.bind_eq_bind, Option.bind_some]
    cases read : Reading.number "multiplier" value with
    | error fault =>
      have unfit : value.finite? = none := by
        cases finite : value.finite? with
        | none => rfl
        | some found =>
          rw [Reading.number_of_finite finite] at read
          cases read
      rw [unfit]
      rfl
    | ok reported =>
      have signed : (reported >>= directive.payload.signMultiplier).value =
          directive.payload.multiplierSign? >>= fun sign =>
            reported.value >>= (SignedMultiplier.make? · sign) := by
        rw [Reported.value_bind, Payload.signMultiplier]
        cases directive.payload.multiplierSign? with
        | none => rfl
        | some sign => exact Reading.value_checkMultiplier _ _
      change (reported >>= directive.payload.signMultiplier).value.getD .standard = _
      rw [signed, Reading.number_eq_ok read]
      cases value.finite? with
      | none => cases directive.payload.multiplierSign? <;> rfl
      | some number => cases directive.payload.multiplierSign? <;> rfl

/-- What is asked of a multiplier is asked of the one that is given, or of 1. -/
theorem answer_multiplier_cases (directive : Directive) :
    directive.answer .multiplier = .standard ∨
      ∃ value number sign, NumberField.given? .multiplier directive.payload = some value ∧
        value.finite? = some number ∧ directive.payload.multiplierSign? = some sign ∧
          SignedMultiplier.make? number sign = some (directive.answer .multiplier) := by
  rw [answer_multiplier]
  cases made : directive.payload.multiplier? with
  | none => exact .inl rfl
  | some multiplier =>
    obtain ⟨value, given, made⟩ := Option.bind_eq_some_iff.1 made
    obtain ⟨number, finite, made⟩ := Option.bind_eq_some_iff.1 made
    obtain ⟨sign, named, made⟩ := Option.bind_eq_some_iff.1 made
    exact .inr ⟨value, number, sign, given, finite, named, made⟩

/-- **A directive divides exactly by a number that it gives to divide by and that is not zero.** -/
theorem divides_iff :
    (directive.answer .multiplier).sign = .divide ∧
        (directive.answer .multiplier).value = divisor ↔
      directive.DividesBy divisor ∧ divisor.isZero = false := by
  constructor
  · rintro ⟨divides, rfl⟩
    rcases directive.answer_multiplier_cases with same | ⟨value, number, sign, given, finite, named,
      made⟩
    · rw [same] at divides
      cases divides
    · obtain ⟨rfl, rfl⟩ := SignedMultiplier.make?_eq_some made
      refine ⟨⟨value, given, finite, divides ▸ named⟩, Bool.eq_false_iff.2 fun zero => ?_⟩
      rw [(SignedMultiplier.make?_eq_none_iff _ _).2 ⟨divides, zero⟩] at made
      cases made
  · rintro ⟨⟨value, given, finite, named⟩, nonzero⟩
    cases made : SignedMultiplier.make? divisor .divide with
    | none =>
      rw [((SignedMultiplier.make?_eq_none_iff _ _).1 made).2] at nonzero
      cases nonzero
    | some multiplier =>
      have same : directive.answer .multiplier = multiplier := by
        simp only [answer_multiplier, Payload.multiplier?, given, finite, named, made,
          Option.bind_eq_bind, Option.bind_some, Option.getD_some]
      obtain ⟨value, sign⟩ := SignedMultiplier.make?_eq_some made
      exact ⟨same ▸ sign, same ▸ value⟩

/-- The number of a multiplier is finite, before it divides. -/
theorem isFinite_answer_multiplier (directive : Directive) :
    (directive.answer .multiplier).value.isFinite = true := by
  rcases directive.answer_multiplier_cases with same | ⟨value, number, sign, _, finite, _, made⟩
  · rw [same]
    decide +kernel
  · rw [(SignedMultiplier.make?_eq_some made).1]
    unfold Value.finite? at finite
    split at finite
    · exact (Option.filter_eq_some_iff.1 finite).2
    · cases finite

end Directive

end ViewLayout
