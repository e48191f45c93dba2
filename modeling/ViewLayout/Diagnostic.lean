import ViewLayout.Number.Shortest
import ViewLayout.Value.Shown

/-!
# Diagnostics

What a layout is found wrong in, and where that is told. A diagnostic is a cause; its level, its
message and the identifier of the constraint concerned follow from it. A sink receives diagnostics
and may hand them on, and `received` is what a sink gets of a list of notices. Parts that report
diagnostics while they read give `Reported` values; a `Telling` reading stops at a diagnostic that
names a value which cannot be shown.
-/

namespace ViewLayout

/-- How serious a diagnostic is. -/
inductive Level
  | warning
  | error
deriving DecidableEq

/-- How a level is written. -/
def Level.name : Level → String
  | warning => "warning"
  | error => "error"

/-- Something that is wrong in a layout. -/
inductive Diagnostic
  | invalidNumber (field : String) (value : Value)
  | priorityOutOfRange (priority : Binary64)
  | zeroDivisor
  | splitReference (reference rest : String)
  | constraintKeyNotText (key : Value)
  | constraintNotReadable (lhs : String) (rhs : Value)
  | constraintsNotMapping (kind : String)
  | propertiesNotMapping (kind : String)
  | invalidZIndex (value : Value)
  | viewNotMapping (id kind : String)
  | viewWithoutName (id : String)
  | subviewsNotMapping (name : String)
  | templatesNotMapping
  | viewRedeclared (name : String)
  | viewMissing (name : String)
  | viewContainsParent (name parent : String)
  | templateIncludesItself (name : String)
  | templateUnknown (name : String)
  | referenceUnresolved (reference view : String) (identifier : Option String)
  | ancestryNotShared (identifier : Option String)

namespace Diagnostic

/-- How serious a diagnostic is: a value that is replaced by a default is a warning. -/
def level : Diagnostic → Level
  | invalidNumber _ _ => .warning
  | priorityOutOfRange _ => .warning
  | zeroDivisor => .warning
  | splitReference _ _ => .warning
  | invalidZIndex _ => .warning
  | viewRedeclared _ => .warning
  | _ => .error

/-- The identifier of the constraint that a diagnostic is about. -/
def identifier? : Diagnostic → Option String
  | referenceUnresolved _ _ identifier => identifier
  | ancestryNotShared identifier => identifier
  | _ => none

/-- How a message points at its constraint. -/
def pointer : Option String → String
  | some identifier => "Constraint: " ++ identifier
  | none =>
    "Use constraint identifiers to determine which constraint is causing the problem."

/-- What is said of it, with the values that it names. -/
def message : Diagnostic → String
  | invalidNumber field value => s!"Invalid value for {field}: {value.quoted}"
  | priorityOutOfRange priority => s!"Priority {priority.toGeneralText} out of range (0-1000)"
  | zeroDivisor => "Invalid value for multiplier: Cannot divide by a zero multiplier"
  | splitReference reference rest =>
    s!"View reference '@{reference}' is followed by '{rest}'; view names cannot contain " ++
      "modifier characters (@ + - < > * /)"
  | constraintKeyNotText key => s!"Constraint source in unrecognized format: key {key.quoted}"
  | constraintNotReadable lhs rhs =>
    s!"Constraint source in unrecognized format: {Text.quote lhs}: {rhs.quoted}"
  | constraintsNotMapping kind => s!"Constraints block must be a mapping, got {kind}"
  | propertiesNotMapping kind => s!"Properties block must be a mapping, got {kind}"
  | invalidZIndex value => s!"Invalid value for z-index: {value.quoted}"
  | viewNotMapping id kind => s!"View '{id}' must be a mapping, got {kind}"
  | viewWithoutName id => s!"View id '{id}' has no name"
  | subviewsNotMapping name => s!"Subviews of '{name}' must be a mapping"
  | templatesNotMapping => "Templates must be a mapping of name to view fragment"
  | viewRedeclared name =>
    s!"View '{name}' is declared more than once; references resolve to the last declaration"
  | viewMissing name =>
    s!"View '{name}' does not exist; mark it with '!' to create it. Skipping its subtree."
  | viewContainsParent name parent =>
    s!"View '{name}' cannot be placed inside '{parent}', which it contains. " ++
      "Skipping its subtree."
  | templateIncludesItself name => s!"Template '{name}' includes itself"
  | templateUnknown name => s!"Unknown template '{name}'"
  | referenceUnresolved reference view identifier =>
    s!"Unable to resolve view reference '{reference}' for '{view}'. {pointer identifier}"
  | ancestryNotShared identifier =>
    "Some views do not share a view ancestry and so this constraint cannot be made. " ++
      pointer identifier

/-- Whether the message of a diagnostic can show the value that it names. -/
def isShowable : Diagnostic → Bool
  | invalidNumber _ value => value.isShowable
  | constraintKeyNotText key => key.isShowable
  | constraintNotReadable _ rhs => rhs.isShowable
  | invalidZIndex value => value.isShowable
  | _ => true

end Diagnostic

/-- Whose collector one is that hands on what it gets: a caller's, told apart by its number, or the
one that the compilation of a source or a pass makes for itself. A caller's may count as false, as
an empty container does. -/
inductive Keeper
  | caller (number : Nat) (isTruthy : Bool := true)
  | source
  | pass
deriving DecidableEq

/-- Who receives diagnostics: the log, a caller's collector, or a collector that keeps what it gets
and hands it on. Two collectors that hand on to one sink are different if their keepers are. -/
inductive Sink
  | log
  | collector (number : Nat) (isTruthy : Bool := true)
  | collecting (keeper : Keeper) (forward : Sink)
deriving DecidableEq

/-- Whether a keeper's collector counts as true: those that a compilation makes do. -/
def Keeper.isTruthy : Keeper → Bool
  | caller _ isTruthy => isTruthy
  | source => true
  | pass => true

namespace Sink

/-- Whether a sink counts as true where it is asked for whether one is given. -/
def isTruthy : Sink → Bool
  | log => true
  | collector _ isTruthy => isTruthy
  | collecting keeper _ => keeper.isTruthy

/-- The sink, or the log in the place of one that counts as false. -/
def orLog (sink : Sink) : Sink :=
  if sink.isTruthy then sink else .log

/-- The first of two sinks that is given and counts as true, or else the log. -/
def firstOrLog (first second : Option Sink) : Sink :=
  (((first.filter isTruthy).or second).getD .log).orLog

/-- Whether what is told to the first sink gets to the second one. -/
def reaches : Sink → Sink → Bool
  | .collecting keeper forward, goal =>
    decide (.collecting keeper forward = goal) || forward.reaches goal
  | start, goal => decide (start = goal)

end Sink

/-- A diagnostic that is told to a sink. -/
structure Notice where
  sink : Sink
  diagnostic : Diagnostic

/-- The diagnostics among notices that a sink receives, in their order. -/
def received (sink : Sink) (notices : List Notice) : List Diagnostic :=
  notices.filterMap fun notice =>
    if notice.sink.reaches sink then some notice.diagnostic else none

/-- A value with the diagnostics that were reported while it was read. -/
structure Reported (α : Type) where
  value : α
  diagnostics : List Diagnostic := []

namespace Reported

variable {α β : Type}

/-- A value of which nothing is reported. -/
def clean (value : α) : Reported α := { value }

/-- Goes on from a value, with the diagnostics of both parts in their order. -/
def andThen (first : Reported α) (next : α → Reported β) : Reported β :=
  let second := next first.value
  ⟨second.value, first.diagnostics ++ second.diagnostics⟩

/-- Reports go on in the order of the reading. -/
instance : Monad Reported where
  pure := clean
  bind := andThen

/-- Reports one diagnostic. -/
def report (diagnostic : Diagnostic) : Reported Unit := ⟨(), [diagnostic]⟩

/-- A value in place of which something was wrong. -/
def withReport (value : α) (diagnostic : Diagnostic) : Reported α := ⟨value, [diagnostic]⟩

@[simp] theorem value_pure (value : α) : (pure value : Reported α).value = value := rfl

@[simp] theorem diagnostics_pure (value : α) : (pure value : Reported α).diagnostics = [] := rfl

@[simp] theorem value_bind (first : Reported α) (next : α → Reported β) :
    (first >>= next).value = (next first.value).value := rfl

@[simp] theorem diagnostics_bind (first : Reported α) (next : α → Reported β) :
    (first >>= next).diagnostics = first.diagnostics ++ (next first.value).diagnostics := rfl

end Reported

/-- A reading that reports diagnostics and stops at a value that cannot be shown. -/
abbrev Telling : Type → Type := ExceptT Unshowable Reported

namespace Telling

variable {α : Type}

/-- Reports one diagnostic. -/
def tell (diagnostic : Diagnostic) : Telling Unit :=
  if diagnostic.isShowable then ExceptT.lift (Reported.report diagnostic)
  else throw .integerTooLong

/-- A value in place of which something was wrong. -/
def withReport (value : α) (diagnostic : Diagnostic) : Telling α := do
  tell diagnostic
  return value

/-- The text of a key that is to be a name; a key that cannot be shown stops the reading. -/
def nameOf (key : Value) : Telling String :=
  match key.shown? with
  | some name => pure name
  | none => throw .integerTooLong

end Telling

@[simp] theorem Sink.reaches_self (sink : Sink) : sink.reaches sink = true := by
  cases sink <;> simp [Sink.reaches]

/-- What a sink receives of two lists of notices is what it receives of each. -/
@[simp] theorem received_append (sink : Sink) (first second : List Notice) :
    received sink (first ++ second) = received sink first ++ received sink second :=
  List.filterMap_append ..

end ViewLayout
