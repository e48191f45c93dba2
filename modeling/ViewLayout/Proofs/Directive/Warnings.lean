import ViewLayout.Directive.Read

/-!
# Reading only warns

Whatever a directive says about a field, all that is reported of it are warnings: a part that cannot
be used is read as absent. `Directive.warns_read` says so for all fields of both forms.
-/

namespace ViewLayout

namespace Diagnostic

/-- Whether a diagnostic warns of a part of a directive that cannot be used. -/
def isOfField : Diagnostic → Bool
  | invalidNumber _ _ => true
  | priorityOutOfRange _ => true
  | zeroDivisor => true
  | splitReference _ _ => true
  | _ => false

/-- What is wrong with a field is a warning. -/
theorem level_of_isOfField {diagnostic : Diagnostic} (ofField : diagnostic.isOfField = true) :
    diagnostic.level = .warning := by
  cases diagnostic <;> first | rfl | cases ofField

end Diagnostic

namespace Reported

variable {α β : Type}

/-- All that is reported are warnings of parts that cannot be used. -/
def Warns (reported : Reported α) : Prop :=
  ∀ diagnostic ∈ reported.diagnostics, diagnostic.isOfField = true

/-- A clean value warns of nothing. -/
theorem warns_clean (value : α) : (clean value).Warns :=
  fun _ member => absurd member List.not_mem_nil

/-- A warning alone is one. -/
theorem warns_withReport (value : α) {diagnostic : Diagnostic}
    (warning : diagnostic.isOfField = true) : (withReport value diagnostic).Warns := by
  intro other member
  rw [List.mem_singleton.1 member]
  exact warning

/-- What warns goes on to warn. -/
theorem Warns.bind {first : Reported α} {next : α → Reported β} (before : first.Warns)
    (after : ∀ value, (next value).Warns) : (first >>= next).Warns := by
  intro diagnostic member
  rw [diagnostics_bind] at member
  rcases List.mem_append.1 member with member | member
  · exact before diagnostic member
  · exact after first.value diagnostic member

end Reported

namespace Reading

/-- Reading a number from a text reports nothing but warnings. -/
theorem warns_numberOfText (field text : String) : (numberOfText field text).Warns := by
  unfold numberOfText
  split
  · exact Reported.warns_clean _
  · exact Reported.warns_withReport _ rfl

theorem warns_checkPriority (number? : Option Binary64) : (checkPriority number?).Warns := by
  unfold checkPriority
  split
  · exact Reported.warns_clean _
  · split
    · exact Reported.warns_clean _
    · exact Reported.warns_withReport _ rfl

theorem warns_checkMultiplier (number? : Option Binary64) (sign : MultiplierSign) :
    (checkMultiplier number? sign).Warns := by
  unfold checkMultiplier
  split
  · exact Reported.warns_clean _
  · split
    · exact Reported.warns_clean _
    · exact Reported.warns_withReport _ rfl

theorem warns_number {field : String} {value : Value} {reported : Reported (Option Binary64)}
    (read : number field value = .ok reported) : reported.Warns := by
  unfold number at read
  cases given : value.number? with
  | error fault =>
    rw [given] at read
    contradiction
  | ok number =>
    rw [given] at read
    simp only [bind, Except.bind] at read
    split at read
    · cases read
      exact Reported.warns_clean _
    · split at read
      · cases read
        exact Reported.warns_withReport _ rfl
      · contradiction

theorem warns_priority {value : Value} {reported : Reported (Option Binary64)}
    (read : priority value = .ok reported) : reported.Warns := by
  unfold priority at read
  cases given : number "priority" value with
  | error fault =>
    rw [given] at read
    contradiction
  | ok number =>
    rw [given] at read
    cases read
    exact (warns_number given).bind warns_checkPriority

end Reading

theorem Shorthand.warns_read (lhs rhs : String) (field : Field) : (read lhs rhs field).Warns := by
  cases field with
  | constant =>
    simp only [read, constant]
    split
    · exact Reported.warns_clean _
    · exact (Reading.warns_numberOfText _ _).bind fun _ => Reported.warns_clean _
  | multiplier =>
    simp only [read, multiplier]
    split
    · exact Reported.warns_clean _
    · exact (Reading.warns_numberOfText _ _).bind fun _ => Reading.warns_checkMultiplier _ _
  | priority =>
    simp only [read, priority]
    split
    · exact Reported.warns_clean _
    · exact (Reading.warns_numberOfText _ _).bind Reading.warns_checkPriority
  | reference =>
    simp only [read, reference]
    split
    · exact Reported.warns_clean _
    · split
      · exact Reported.warns_clean _
      · exact Reported.warns_withReport _ rfl
  | _ => exact Reported.warns_clean _

namespace Verbose

theorem warns_signedNumber {fields : Fields} {name : String}
    {reported : Reported (Option (Binary64 × Option String))}
    (read : signedNumber fields name = .ok reported) : reported.Warns := by
  unfold signedNumber at read
  split at read
  · cases read
    exact Reported.warns_clean _
  · next value sign _ =>
    cases given : Reading.number name value with
    | error fault =>
      rw [given] at read
      contradiction
    | ok number =>
      rw [given] at read
      cases read
      exact (Reading.warns_number given).bind fun _ => Reported.warns_clean _

theorem warns_constant {fields : Fields} {reported : Reported (Option SignedConstant)}
    (read : constant fields = .ok reported) : reported.Warns := by
  unfold constant at read
  cases given : signedNumber fields "constant" with
  | error fault =>
    rw [given] at read
    contradiction
  | ok number =>
    rw [given] at read
    cases read
    exact (warns_signedNumber given).bind fun _ => Reported.warns_clean _

theorem warns_multiplier {fields : Fields} {reported : Reported (Option SignedMultiplier)}
    (read : multiplier fields = .ok reported) : reported.Warns := by
  unfold multiplier at read
  cases given : signedNumber fields "multiplier" with
  | error fault =>
    rw [given] at read
    contradiction
  | ok number =>
    rw [given] at read
    cases read
    refine (warns_signedNumber given).bind fun found? => ?_
    cases found? with
    | none => exact Reported.warns_clean _
    | some found =>
      simp only [signedMultiplier]
      split
      · exact Reported.warns_clean _
      · exact Reading.warns_checkMultiplier _ _

theorem warns_read {lhs : String} {fields : Fields} {field : Field}
    {reported : Reported (Option field.Content)} (given : read lhs fields field = .ok reported) :
    reported.Warns := by
  cases field with
  | constant => exact warns_constant given
  | multiplier => exact warns_multiplier given
  | priority =>
    simp only [read, priority] at given
    split at given
    · cases given
      exact Reported.warns_clean _
    · exact Reading.warns_priority given
  | _ =>
    cases given
    exact Reported.warns_clean _

end Verbose

/-- **All that is reported of a directive's fields are warnings.** -/
theorem Directive.warns_read {directive : Directive} {field : Field}
    {reported : Reported (Option field.Content)} (given : directive.read field = .ok reported) :
    reported.Warns := by
  unfold Directive.read at given
  split at given
  · cases given
    exact Shorthand.warns_read _ _ _
  · exact Verbose.warns_read given

end ViewLayout
