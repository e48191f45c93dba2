import ViewLayout.Proofs.Directive.Multipliers

/-!
# What a warning is about

A warning is about one field of a directive. `Directive.tellsOnce_read` says that whatever a
directive says about a field, at most one warning is reported, which is about this field.
-/

namespace ViewLayout

/-- The field of a directive that a warning is about. -/
def Diagnostic.field? : Diagnostic → Option Field
  | invalidNumber "constant" _ => some .constant
  | invalidNumber "multiplier" _ => some .multiplier
  | invalidNumber "priority" _ => some .priority
  | priorityOutOfRange _ => some .priority
  | zeroDivisor => some .multiplier
  | splitReference _ _ => some .reference
  | _ => none

/-- At most one warning is reported, about a field. -/
def Reported.TellsOnce {α : Type} (field : Field) (reported : Reported α) : Prop :=
  reported.diagnostics = [] ∨
    ∃ warning, reported.diagnostics = [warning] ∧ warning.field? = some field

namespace Reading

/-- A priority is warned of once. -/
theorem tellsOnce_checkPriority (number? : Option Binary64) :
    (checkPriority number?).TellsOnce .priority := by
  unfold checkPriority
  split
  · exact .inl rfl
  · split
    · exact .inl rfl
    · exact .inr ⟨_, rfl, rfl⟩

/-- A multiplier is warned of once. -/
theorem tellsOnce_checkMultiplier (number? : Option Binary64) (sign : MultiplierSign) :
    (checkMultiplier number? sign).TellsOnce .multiplier := by
  unfold checkMultiplier
  split
  · exact .inl rfl
  · split
    · exact .inl rfl
    · exact .inr ⟨_, rfl, rfl⟩

/-- A number that is warned of is absent, so that nothing more is reported of it. -/
theorem tellsOnce_number_bind (numberField : NumberField) {value : Value}
    {use : Option Binary64 → Reported (Option numberField.field.Content)}
    {reported : Reported (Option numberField.field.Content)} (nothing : (use none).diagnostics = [])
    (each : ∀ number, (use (some number)).TellsOnce numberField.field)
    (read : (number numberField.name value).map (· >>= use) = .ok reported) :
    reported.TellsOnce numberField.field := by
  cases given : number numberField.name value with
  | error fault =>
    rw [given] at read
    cases read
  | ok found =>
    rw [given] at read
    obtain rfl := Except.ok.inj read
    unfold Reported.TellsOnce
    rw [Reported.diagnostics_bind, number_eq_ok given]
    cases value.finite? with
    | some number => exact each number
    | none =>
      refine .inr ⟨.invalidNumber numberField.name value, ?_, ?_⟩
      · rw [nothing, List.append_nil]
      · cases numberField <;> rfl

end Reading

/-- A reference is warned of once. -/
theorem Shorthand.tellsOnce_reference (rhs : String) : (reference rhs).TellsOnce .reference := by
  unfold reference
  split
  · exact .inl rfl
  · split
    · exact .inl rfl
    · exact .inr ⟨_, rfl, rfl⟩

namespace Directive

variable {directive : Directive}

/-- A number is warned of once. -/
theorem tellsOnce_numberField (numberField : NumberField)
    {reported : Reported (Option numberField.field.Content)}
    (read : directive.read numberField.field = .ok reported) :
    reported.TellsOnce numberField.field := by
  cases given : numberField.given? directive.payload with
  | none =>
    rw [read_of_given_eq_none given] at read
    exact .inl (congrArg Reported.diagnostics (Except.ok.inj read).symm)
  | some value =>
    cases numberField with
    | constant =>
      obtain ⟨signed, _, _, same⟩ := read_constant given
      exact Reading.tellsOnce_number_bind .constant rfl (fun _ => .inl rfl)
        (same.symm.trans read)
    | multiplier =>
      have same := (read_multiplier_eq given).symm.trans read
      refine Reading.tellsOnce_number_bind .multiplier ?_ (fun number => ?_) same
      · unfold Payload.signMultiplier
        cases directive.payload.multiplierSign? <;> rfl
      · unfold Payload.signMultiplier
        cases directive.payload.multiplierSign? with
        | none => exact .inl rfl
        | some sign => exact Reading.tellsOnce_checkMultiplier _ sign
    | priority =>
      exact Reading.tellsOnce_number_bind .priority rfl
        (fun _ => Reading.tellsOnce_checkPriority _) ((read_priority given).symm.trans read)

/-- **At most one warning is reported of a field**, and it is about this field. -/
theorem tellsOnce_read {field : Field} {reported : Reported (Option field.Content)}
    (read : directive.read field = .ok reported) : reported.TellsOnce field := by
  cases field with
  | constant => exact tellsOnce_numberField .constant read
  | multiplier => exact tellsOnce_numberField .multiplier read
  | priority => exact tellsOnce_numberField .priority read
  | reference =>
    obtain ⟨lhs, payload, sink⟩ := directive
    cases payload with
    | shorthand rhs =>
      obtain rfl := Except.ok.inj read
      exact Shorthand.tellsOnce_reference rhs
    | verbose fields => exact .inl (congrArg Reported.diagnostics (Except.ok.inj read).symm)
  | _ =>
    obtain ⟨lhs, payload, sink⟩ := directive
    cases payload <;>
    · obtain rfl := Except.ok.inj read
      exact .inl rfl

end Directive

end ViewLayout
