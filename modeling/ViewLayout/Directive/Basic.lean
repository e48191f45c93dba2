import ViewLayout.Constraint.Attribute
import ViewLayout.Constraint.Relation
import ViewLayout.Constraint.Signed
import ViewLayout.Constraint.SizeClass
import ViewLayout.Diagnostic

/-!
# Constraint directives

A directive is one raw entry of a constraints block: the attributes on its left and a payload, which
is a short text or a mapping of fields. What a directive says is asked field by field;
`Field.Content` is the type of what a field holds.
-/

namespace ViewLayout

/-- The right-hand side of a directive in one of its two forms. -/
inductive Payload
  | shorthand (rhs : String)
  | verbose (fields : List (Value × Value))

/-- One entry of a constraints block, with the sink that was told about its faults so far. -/
structure Directive where
  lhs : String
  payload : Payload
  sink : Sink

/-- What can be asked of a directive. -/
inductive Field
  | leftAttributes
  | rightAttribute
  | relation
  | constant
  | multiplier
  | priority
  | reference
  | identifier
  | horizontalSizeClass
  | verticalSizeClass
deriving DecidableEq

/-- What a field holds. -/
abbrev Field.Content : Field → Type
  | leftAttributes => List Attribute
  | rightAttribute => Attribute
  | relation => Relation
  | constant => SignedConstant
  | multiplier => SignedMultiplier
  | priority => Binary64
  | reference => String
  | identifier => String
  | horizontalSizeClass => SizeClass
  | verticalSizeClass => SizeClass

/-- Why a field cannot be read at all. -/
inductive FieldError
  | integerTooLarge
  | unshowable (cause : Unshowable)
deriving DecidableEq

/-- What is said of a field that cannot be read. -/
def FieldError.message : FieldError → String
  | integerTooLarge => "int too large to convert to float"
  | unshowable cause => cause.message

/-- The payload that the right side of an entry is, if it is a text or a mapping. -/
def Payload.ofValue? (rhs : Value) : Option Payload :=
  match rhs with
  | .text payload => some (.shorthand payload)
  | _ => rhs.entries?.map .verbose

/-- The directive of an entry: a text is shorthand and a mapping is verbose, and any other shape is
reported. -/
def Directive.ofSides? (sink : Sink) (lhs rhs : Value) : Telling (Option Directive) :=
  match lhs with
  | .text key =>
    match Payload.ofValue? rhs with
    | some payload => pure (some ⟨key, payload, sink⟩)
    | none => .withReport none (.constraintNotReadable key rhs)
  | _ => .withReport none (.constraintKeyNotText lhs)

end ViewLayout
