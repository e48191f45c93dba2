import ViewLayout.Proofs.Constraint.Verdicts

/-!
# Attributes that directives name

A directive names its attributes by keys, and no key means the attribute that stands for none. So
neither side of what a directive says has that attribute.
-/

namespace ViewLayout

namespace Attribute

/-- No key stands for the attribute that is none. -/
theorem ne_noAttribute_of_ofKey? {key : String} {attr : Attribute}
    (named : ofKey? key = some attr) : attr ≠ noAttribute := by
  unfold ofKey? at named
  split at named
  case h_5 =>
    obtain ⟨_, other⟩ := Option.filter_eq_some_iff.1 named
    simpa using other
  all_goals
    cases named
    decide

theorem ne_noAttribute_of_mem_expand {key : String} {attr : Attribute}
    (member : attr ∈ expand key) : attr ≠ noAttribute := by
  unfold expand at member
  split at member
  · next found named =>
    rw [List.mem_singleton.1 member]
    exact ne_noAttribute_of_ofKey? named
  · unfold compound? at member
    rintro rfl
    split at member <;> simp at member

end Attribute

namespace Directive

variable {directive : Directive}

/-- The left attributes are read from the left side alone. -/
theorem answer_leftAttributes (directive : Directive) :
    directive.answer .leftAttributes = Reading.attributes directive.lhs := by
  cases directive with
  | mk lhs payload sink => cases payload <;> rfl

/-- No attribute on the left of a directive is the one for none. -/
theorem ne_noAttribute_of_mem_answer {attr : Attribute}
    (member : attr ∈ directive.answer .leftAttributes) : attr ≠ .noAttribute := by
  rw [answer_leftAttributes] at member
  obtain ⟨name, _, expanded⟩ := List.mem_flatMap.1 member
  exact Attribute.ne_noAttribute_of_mem_expand expanded

/-- **The attribute on the right of a directive is not the one for none.** -/
theorem answer_rightAttribute_ne (directive : Directive) :
    directive.answer .rightAttribute ≠ some .noAttribute := by
  intro given
  have ofReference {reference : Option (String × Option String)}
      (named : (reference >>= fun parts => parts.2 >>= Attribute.ofKey?) = some .noAttribute) :
      False := by
    obtain ⟨_, _, part⟩ := Option.bind_eq_some_iff.1 named
    obtain ⟨_, _, key⟩ := Option.bind_eq_some_iff.1 part
    exact Attribute.ne_noAttribute_of_ofKey? key rfl
  cases directive with
  | mk lhs payload sink =>
    cases payload with
    | shorthand rhs => exact ofReference given
    | verbose fields =>
      change Verbose.rightAttribute? fields = some .noAttribute at given
      unfold Verbose.rightAttribute? at given
      split at given
      · obtain ⟨_, _, key⟩ := Option.bind_eq_some_iff.1 given
        exact Attribute.ne_noAttribute_of_ofKey? key rfl
      · exact ofReference given

end Directive

end ViewLayout
