import ViewLayout.Directive.Shorthand
import ViewLayout.Directive.Verbose

/-!
# Asking a directive

`Directive.read` asks a directive for a field in either of its forms.
-/

namespace ViewLayout

/-- The two forms of directives. -/
inductive Dialect
  | shorthand
  | verbose
deriving DecidableEq

/-- How a form is called. -/
def Dialect.name : Dialect → String
  | shorthand => "shorthand"
  | verbose => "verbose"

/-- The form of a payload. -/
def Payload.dialect : Payload → Dialect
  | shorthand _ => .shorthand
  | verbose _ => .verbose

/-- **What a directive says about a field.** -/
def Directive.read (directive : Directive) (field : Field) :
    Except FieldError (Reported (Option field.Content)) :=
  match directive.payload with
  | .shorthand rhs => .ok (Shorthand.read directive.lhs rhs field)
  | .verbose fields => Verbose.read directive.lhs fields field

/-- What an entry of any shape says about a field in one of the forms; an entry of another shape
says nothing. -/
def Dialect.read (dialect : Dialect) (entry : Option (Value × Value)) (field : Field) :
    Except FieldError (Reported (Option field.Content)) :=
  match dialect, entry with
  | .shorthand, some (.text lhs, .text rhs) => .ok (Shorthand.read lhs rhs field)
  | .verbose, some (.text lhs, .mapping fields) => Verbose.read lhs fields field
  | _, _ => .ok (.clean none)

end ViewLayout
