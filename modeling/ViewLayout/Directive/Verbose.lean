import ViewLayout.Directive.Reading

/-!
# Verbose directives

A verbose payload is a mapping from the names of fields. Constants and multipliers are bare numbers
or mappings of a value and a sign; a bare negative constant is the negated positive one.
-/

namespace ViewLayout.Verbose

/-- The entries of a payload. -/
abbrev Fields : Type := List (Value × Value)

/-- What a payload holds under a name; null counts as absent. -/
def field? (fields : Fields) (name : String) : Option Value :=
  match Value.lookupD fields name with
  | .null => none
  | value => some value

/-- The text in a field. -/
def text? (fields : Fields) (name : String) : Option String :=
  field? fields name >>= Value.text?

/-- The view that is referred to, with the name of an attribute. -/
def viewReference? (fields : Fields) : Option (String × Option String) :=
  text? fields "to" >>= Reading.viewReference?

/-- The attribute on the right: one given by itself, or the one of the reference. -/
def rightAttribute? (fields : Fields) : Option Attribute :=
  match field? fields "attribute" with
  | some value => value.text? >>= Attribute.ofKey?
  | none => viewReference? fields >>= fun reference => reference.2 >>= Attribute.ofKey?

/-- The value and the name of a sign that a field gives. -/
def signedParts? (fields : Fields) (name : String) : Option (Value × Option String) :=
  match field? fields name with
  | none => none
  | some value =>
    match value.entries? with
    | some parts =>
      (Value.lookup? parts "value").map fun value => (value, (Value.lookupD parts "sign").text?)
    | none => some (value, none)

/-- The number of a signed field, with the name of its sign. -/
def signedNumber (fields : Fields) (name : String) :
    Except FieldError (Reported (Option (Binary64 × Option String))) :=
  match signedParts? fields name with
  | none => .ok (.clean none)
  | some (value, sign) => do
    let number ← Reading.number name value
    .ok (number >>= fun number? => .clean (number?.map fun number => (number, sign)))

/-- A constant with the named sign. Without a name the sign is that of the number. -/
def signedConstant? (number : Binary64) (sign : Option String) : Option SignedConstant :=
  match sign with
  | none => some (if number.isNegative then ⟨number.negate, .negative⟩ else ⟨number, .positive⟩)
  | some name => (ConstantSign.ofName? name).map (⟨number, ·⟩)

/-- The constant, with its sign. -/
def constant (fields : Fields) : Except FieldError (Reported (Option SignedConstant)) := do
  let found ← signedNumber fields "constant"
  .ok (found >>= fun found? =>
    .clean (found? >>= fun (number, sign) => signedConstant? number sign))

/-- The multiplier of a number with the named sign. -/
def signedMultiplier (number : Binary64) (sign : Option String) :
    Reported (Option SignedMultiplier) :=
  match (sign.map MultiplierSign.ofName?).getD (some .multiply) with
  | none => .clean none
  | some sign => Reading.checkMultiplier (some number) sign

/-- The multiplier, with its sign, unless it divides by zero. -/
def multiplier (fields : Fields) : Except FieldError (Reported (Option SignedMultiplier)) := do
  let found ← signedNumber fields "multiplier"
  .ok (found >>= fun found? =>
    match found? with
    | none => .clean none
    | some (number, sign) => signedMultiplier number sign)

/-- The priority, if it is in range. -/
def priority (fields : Fields) : Except FieldError (Reported (Option Binary64)) :=
  match field? fields "priority" with
  | none => .ok (.clean none)
  | some value => Reading.priority value

/-- **What a verbose directive says about a field.** -/
def read (lhs : String) (fields : Fields) :
    (field : Field) → Except FieldError (Reported (Option field.Content))
  | .leftAttributes => .ok (.clean (some (Reading.attributes lhs)))
  | .rightAttribute => .ok (.clean (rightAttribute? fields))
  | .relation => .ok (.clean (text? fields "relation" >>= Relation.ofKey?))
  | .constant => constant fields
  | .multiplier => multiplier fields
  | .priority => priority fields
  | .reference => .ok (.clean ((viewReference? fields).map Prod.fst))
  | .identifier => .ok (.clean ((text? fields "identifier").filter (· != "")))
  | .horizontalSizeClass => .ok (.clean (text? fields "horizontalSizeClass" >>= SizeClass.ofKey?))
  | .verticalSizeClass => .ok (.clean (text? fields "verticalSizeClass" >>= SizeClass.ofKey?))

end ViewLayout.Verbose
