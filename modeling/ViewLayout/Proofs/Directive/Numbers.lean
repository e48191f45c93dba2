import ViewLayout.Proofs.Directive.Notations

/-!
# Numbers in directives

Constants, multipliers and priorities are read from what a directive gives for them, in either form.
`NumberField.Unusable` says what is wrong with a given number and how that is reported. Whatever is
wrong with it, the field is read as absent with this one warning, unless the number is an integer
too large for the range: that one cannot be read at all.
-/

namespace ViewLayout

/-- The fields of a directive that are numbers. -/
inductive NumberField
  | constant
  | multiplier
  | priority
deriving DecidableEq

namespace NumberField

/-- The field of a number. -/
def field : NumberField → Field
  | constant => .constant
  | multiplier => .multiplier
  | priority => .priority

/-- How messages call the field of a number. -/
def name : NumberField → String
  | constant => "constant"
  | multiplier => "multiplier"
  | priority => "priority"

/-- What a directive gives for a number, whether it is one or not. -/
def given? : NumberField → Payload → Option Value
  | constant, .shorthand rhs =>
    (Shorthand.signedValue? Shorthand.constantMarks rhs).map fun found => .text found.2
  | multiplier, .shorthand rhs =>
    (Shorthand.signedValue? Shorthand.multiplierMarks rhs).map fun found => .text found.2
  | priority, .shorthand rhs => (Shorthand.valueFor? 'p' rhs).map .text
  | constant, .verbose fields => (Verbose.signedParts? fields "constant").map Prod.fst
  | multiplier, .verbose fields => (Verbose.signedParts? fields "multiplier").map Prod.fst
  | priority, .verbose fields => Verbose.field? fields "priority"

end NumberField

/-- The sign of a multiplier: one that is named otherwise is none. -/
def Payload.multiplierSign? : Payload → Option MultiplierSign
  | .shorthand rhs => (Shorthand.signedValue? Shorthand.multiplierMarks rhs).map Prod.fst
  | .verbose fields =>
    ((Verbose.signedParts? fields "multiplier").bind Prod.snd).elim (some .multiply)
      MultiplierSign.ofName?

/-- The finite number that a value is or writes. -/
def Value.finite? (value : Value) : Option Binary64 :=
  match value.number? with
  | .ok number? => Reading.finite? number?
  | .error _ => none

/-- Whether a value is an integer that no finite number comes near. -/
def Value.IsOversized (value : Value) : Prop :=
  ∃ integer, value = .int integer ∧ Binary64.ofInt? integer = none

namespace NumberField

/-- What a directive gives for a number cannot be used, for the reason of a warning. -/
inductive Unusable (payload : Payload) : NumberField → Diagnostic → Prop
  | number {numberField : NumberField} {value : Value}
    (given : numberField.given? payload = some value) (notFinite : value.finite? = none) :
    Unusable payload numberField (.invalidNumber numberField.name value)
  | range {value : Value} {number : Binary64} (given : given? priority payload = some value)
    (finite : value.finite? = some number)
    (outside : (Reading.leastPriority.atMost number &&
      number.atMost Reading.greatestPriority) = false) :
    Unusable payload priority (.priorityOutOfRange number)
  | divisor {value : Value} {number : Binary64} (given : given? multiplier payload = some value)
    (finite : value.finite? = some number) (divides : payload.multiplierSign? = some .divide)
    (zero : number.isZero = true) : Unusable payload multiplier .zeroDivisor

end NumberField

namespace Reading

variable {value : Value}

/-- An integer beyond all numbers cannot be read. -/
theorem number_of_isOversized (oversized : value.IsOversized) (field : String) :
    number field value = .error .integerTooLarge := by
  obtain ⟨integer, rfl, none⟩ := oversized
  simp only [number, Value.number?, none]
  rfl

/-- A value that is a finite number is read as it. -/
theorem number_of_finite {found : Binary64} (finite : value.finite? = some found)
    (field : String) : number field value = .ok ⟨some found, []⟩ := by
  unfold Value.finite? at finite
  unfold number
  cases read : value.number? with
  | error fault =>
    rw [read] at finite
    contradiction
  | ok number? =>
    simp only [read] at finite
    simp only [bind, Except.bind, finite]
    rfl

/-- Only a finite number is read. -/
theorem isFinite_of_number {field : String} {reported : Reported (Option Binary64)}
    (read : number field value = .ok reported) {found : Binary64}
    (same : reported.value = some found) : found.isFinite = true := by
  unfold number at read
  cases given : value.number? with
  | error fault =>
    rw [given] at read
    cases read
  | ok number? =>
    rw [given] at read
    simp only [bind, Except.bind] at read
    cases finite : finite? number? with
    | none =>
      simp only [finite] at read
      split at read
      · cases read
        cases same
      · cases read
    | some number =>
      simp only [finite] at read
      cases read
      cases same
      exact (Option.filter_eq_some_iff.1 finite).2

/-- A value that is no finite number is reported, unless it is an integer too large. -/
theorem number_of_not_finite (notFinite : value.finite? = none) (fits : ¬ value.IsOversized)
    (showable : value.isShowable = true) (field : String) :
    number field value = .ok ⟨none, [.invalidNumber field value]⟩ := by
  unfold Value.finite? at notFinite
  unfold number
  cases read : value.number? with
  | error fault =>
    cases value with
    | int integer =>
      refine absurd ⟨integer, rfl, ?_⟩ fits
      cases nearest : Binary64.ofInt? integer with
      | none => rfl
      | some found => simp [Value.number?, nearest] at read
    | _ => simp [Value.number?] at read
  | ok number? =>
    simp only [read] at notFinite
    simp only [bind, Except.bind, notFinite, showable, ↓reduceIte]
    rfl

end Reading

namespace Directive

variable {directive : Directive} {value : Value}

/-- The number of a signed field goes on to its sign. -/
theorem signedNumber_bind {α : Type} {fields : Verbose.Fields} {name : String} {raw : Value}
    {sign : Option String} (found : Verbose.signedParts? fields name = some (raw, sign))
    (use : Option (Binary64 × Option String) → Reported α) :
    (Verbose.signedNumber fields name).map (· >>= use) =
      (Reading.number name raw).map
        (· >>= fun number? => use (number?.map fun number => (number, sign))) := by
  simp only [Verbose.signedNumber, found]
  cases Reading.number name raw with
  | error fault => rfl
  | ok number =>
    simp [bind, Except.bind, Except.map, Reported.andThen, Reported.clean]

/-- A constant is the number that is given for it, or that number negated. -/
theorem read_constant (given : NumberField.given? .constant directive.payload = some value) :
    ∃ signed : Option Binary64 → Option SignedConstant, signed none = none ∧
      (∀ number constant, signed (some number) = some constant →
        constant.value = number ∨ constant.value = number.negate) ∧
      directive.read .constant =
        (Reading.number "constant" value).map (· >>= fun number? => .clean (signed number?)) := by
  obtain ⟨lhs, payload, sink⟩ := directive
  cases payload with
  | shorthand rhs =>
    obtain ⟨⟨sign, raw⟩, found, rfl⟩ := Option.map_eq_some_iff.1 given
    refine ⟨fun number? => number?.map (⟨·, sign⟩), rfl, ?_, ?_⟩
    · rintro number _ ⟨⟩
      exact .inl rfl
    · simp only [read, Shorthand.read, Shorthand.constant, found, Reading.number_text]
      rfl
  | verbose fields =>
    obtain ⟨⟨raw, sign⟩, found, rfl⟩ := Option.map_eq_some_iff.1 given
    refine ⟨fun number? => (number?.map fun number => (number, sign)) >>= fun signed =>
      Verbose.signedConstant? signed.1 signed.2, rfl, ?_, signedNumber_bind found _⟩
    intro number constant made
    have signed : Verbose.signedConstant? number sign = some constant := made
    cases sign with
    | none =>
      cases signed
      split
      · exact .inr rfl
      · exact .inl rfl
    | some name =>
      obtain ⟨_, _, rfl⟩ := Option.map_eq_some_iff.1 signed
      exact .inl rfl

/-- How a multiplier is read, by what its sign makes of the number. -/
theorem read_multiplier (given : NumberField.given? .multiplier directive.payload = some value) :
    ∃ signed : Option Binary64 → Reported (Option SignedMultiplier), signed none = ⟨none, []⟩ ∧
      (∀ number, directive.payload.multiplierSign? = some .divide →
        signed (some number) = Reading.checkMultiplier (some number) .divide) ∧
      directive.read .multiplier = (Reading.number "multiplier" value).map (· >>= signed) := by
  obtain ⟨lhs, payload, sink⟩ := directive
  cases payload with
  | shorthand rhs =>
    obtain ⟨⟨sign, raw⟩, found, rfl⟩ := Option.map_eq_some_iff.1 given
    refine ⟨fun number? => Reading.checkMultiplier number? sign, rfl, fun number divides => ?_, ?_⟩
    · simp only [Payload.multiplierSign?, found, Option.map_some, Option.some.injEq] at divides
      rw [divides]
    · simp only [read, Shorthand.read, Shorthand.multiplier, found, Reading.number_text]
      rfl
  | verbose fields =>
    obtain ⟨⟨raw, sign⟩, found, rfl⟩ := Option.map_eq_some_iff.1 given
    refine ⟨_, rfl, fun number divides => ?_, signedNumber_bind found _⟩
    simp only [Payload.multiplierSign?, found, Option.bind_some] at divides
    simp only [Option.map_some, Verbose.signedMultiplier]
    cases sign with
    | none => simp at divides
    | some name =>
      have named : MultiplierSign.ofName? name = some .divide := divides
      simp only [Option.map_some, Option.getD_some, named]

/-- How a priority is read. -/
theorem read_priority (given : NumberField.given? .priority directive.payload = some value) :
    directive.read .priority =
      (Reading.number "priority" value).map (· >>= Reading.checkPriority) := by
  obtain ⟨lhs, payload, sink⟩ := directive
  cases payload with
  | shorthand rhs =>
    obtain ⟨raw, found, rfl⟩ := Option.map_eq_some_iff.1 given
    simp only [read, Shorthand.read, Shorthand.priority, found, Reading.number_text]
    rfl
  | verbose fields =>
    have found : Verbose.field? fields "priority" = some value := given
    simp only [read, Verbose.read, Verbose.priority, found]
    rfl

/-- What is given for no number is no number. -/
theorem read_of_given_eq_none {numberField : NumberField}
    (absent : numberField.given? directive.payload = none) :
    directive.read numberField.field = .ok ⟨none, []⟩ := by
  obtain ⟨lhs, payload, sink⟩ := directive
  cases payload with
  | shorthand rhs =>
    cases numberField <;> simp only [NumberField.given?, Option.map_eq_none_iff] at absent <;>
      simp only [NumberField.field, read, Shorthand.read, Shorthand.constant, Shorthand.multiplier,
        Shorthand.priority, absent] <;>
      rfl
  | verbose fields =>
    cases numberField <;> simp only [NumberField.given?, Option.map_eq_none_iff] at absent <;>
      simp only [NumberField.field, read, Verbose.read, Verbose.constant, Verbose.multiplier,
        Verbose.signedNumber, Verbose.priority, absent] <;>
      rfl

/-- The directive gives an integer for a number that no finite number comes near. -/
def Overflows (directive : Directive) (field : Field) : Prop :=
  ∃ numberField value, NumberField.field numberField = field ∧
    numberField.given? directive.payload = some value ∧ value.IsOversized

/-- All that the directive gives for numbers can be shown in messages. -/
def Showable (directive : Directive) : Prop :=
  ∀ (numberField : NumberField) value,
    numberField.given? directive.payload = some value → value.isShowable = true

/-- How a number field goes on from the number that is given for it. -/
theorem read_eq_of_given {numberField : NumberField}
    (given : numberField.given? directive.payload = some value) :
    ∃ use : Option Binary64 → Reported (Option numberField.field.Content), use none = ⟨none, []⟩ ∧
      directive.read numberField.field =
        (Reading.number numberField.name value).map (· >>= use) := by
  cases numberField with
  | constant =>
    obtain ⟨signed, nothing, _, same⟩ := read_constant given
    exact ⟨fun number? => .clean (signed number?), congrArg Reported.clean nothing, same⟩
  | multiplier =>
    obtain ⟨signed, nothing, _, same⟩ := read_multiplier given
    exact ⟨signed, nothing, same⟩
  | priority => exact ⟨Reading.checkPriority, rfl, read_priority given⟩

/-- A number that can be shown is read or not, as far as it is not an integer too large. -/
theorem exists_number (fits : ¬ value.IsOversized) (showable : value.isShowable = true)
    (field : String) : ∃ reported, Reading.number field value = .ok reported := by
  cases finite : value.finite? with
  | none => exact ⟨_, Reading.number_of_not_finite finite fits showable field⟩
  | some number => exact ⟨_, Reading.number_of_finite finite field⟩

/-- A field that cannot be read at all has an integer too large, and every such field cannot be
read. -/
theorem read_eq_error_iff (showable : directive.Showable) {field : Field} {fault : FieldError} :
    directive.read field = .error fault ↔
      fault = .integerTooLarge ∧ directive.Overflows field := by
  constructor
  · intro failed
    have numeric : ∃ numberField : NumberField, numberField.field = field := by
      obtain ⟨lhs, payload, sink⟩ := directive
      cases payload with
      | shorthand rhs => cases failed
      | verbose fields =>
        cases field with
        | constant => exact ⟨.constant, rfl⟩
        | multiplier => exact ⟨.multiplier, rfl⟩
        | priority => exact ⟨.priority, rfl⟩
        | _ => cases failed
    obtain ⟨numberField, rfl⟩ := numeric
    cases given : numberField.given? directive.payload with
    | none =>
      rw [read_of_given_eq_none given] at failed
      contradiction
    | some value =>
      obtain ⟨use, _, same⟩ := read_eq_of_given given
      by_cases oversized : value.IsOversized
      · rw [same, Reading.number_of_isOversized oversized] at failed
        cases failed
        exact ⟨rfl, numberField, value, rfl, given, oversized⟩
      · obtain ⟨reported, read⟩ := exists_number oversized (showable _ _ given) numberField.name
        rw [same, read] at failed
        cases failed
  · rintro ⟨rfl, numberField, value, rfl, given, oversized⟩
    obtain ⟨use, _, same⟩ := read_eq_of_given given
    rw [same, Reading.number_of_isOversized oversized]
    rfl

/-- **A number that cannot be used costs its field and one warning**, if it can be read at all. -/
theorem read_of_unusable (showable : directive.Showable) {numberField : NumberField}
    {warning : Diagnostic} (unusable : numberField.Unusable directive.payload warning)
    (fits : ¬ directive.Overflows numberField.field) :
    directive.read numberField.field = .ok ⟨none, [warning]⟩ := by
  cases unusable with
  | @number _ value given notFinite =>
    obtain ⟨use, nothing, same⟩ := read_eq_of_given given
    have small : ¬ value.IsOversized := fun oversized => fits ⟨_, _, rfl, given, oversized⟩
    rw [same, Reading.number_of_not_finite notFinite small (showable _ _ given)]
    simp [Except.map, bind, Reported.andThen, nothing]
  | @range value number given finite outside =>
    have checked : Reading.checkPriority (some number) = ⟨none, [.priorityOutOfRange number]⟩ := by
      simp only [Reading.checkPriority, outside, Bool.false_eq_true, ↓reduceIte]
      rfl
    change directive.read .priority = _
    rw [read_priority given, Reading.number_of_finite finite]
    simp only [Except.map, bind, Reported.andThen, checked]
    rfl
  | @divisor value number given finite divides zero =>
    obtain ⟨signed, _, divided, same⟩ := read_multiplier given
    have checked : Reading.checkMultiplier (some number) .divide = ⟨none, [.zeroDivisor]⟩ := by
      have refused := (SignedMultiplier.make?_eq_none_iff number .divide).2 ⟨rfl, zero⟩
      simp only [Reading.checkMultiplier, refused]
      rfl
    change directive.read .multiplier = _
    rw [same, Reading.number_of_finite finite]
    simp only [Except.map, bind, Reported.andThen, divided number divides, checked]
    rfl

end Directive

end ViewLayout
