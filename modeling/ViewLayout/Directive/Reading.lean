import ViewLayout.Directive.Basic
import ViewLayout.Number.Numeral

/-!
# Reading the parts of a directive

What both forms of a directive share: finite numbers, priorities between 0 and 1000, the list of
attributes on the left, and references to the attribute of a view. A number that cannot be used is
reported and read as absent; only an integer beyond the range of numbers stops the reading.
-/

namespace ViewLayout

/-- The number that a value is or writes. Truth values are no numbers. -/
def Value.number? : Value → Except FieldError (Option Binary64)
  | .int value =>
    match Binary64.ofInt? value with
    | some number => .ok (some number)
    | none => .error .integerTooLarge
  | .float number => .ok (some number)
  | .text raw => .ok (Numeral.readNumber? raw.toList)
  | _ => .ok none

namespace Reading

/-- The number that was found for a field, if it is finite. -/
def finite? (number? : Option Binary64) : Option Binary64 :=
  number?.filter (·.isFinite)

/-- The finite number that a value gives for a field. Another value is reported. -/
def number (field : String) (value : Value) : Except FieldError (Reported (Option Binary64)) := do
  match finite? (← value.number?) with
  | some number => .ok (.clean (some number))
  | none =>
    if value.isShowable then .ok (.withReport none (.invalidNumber field value))
    else .error (.unshowable .integerTooLong)

/-- The finite number that a text gives for a field. Another text is reported. -/
def numberOfText (field : String) (text : String) : Reported (Option Binary64) :=
  match finite? (Numeral.readNumber? text.toList) with
  | some number => .clean (some number)
  | none => .withReport none (.invalidNumber field (.text text))

/-- The least priority that there is. -/
def leastPriority : Binary64 := .zero

/-- The greatest priority that there is. -/
def greatestPriority : Binary64 := .ofDecimal false 1000 0

/-- A number as a priority, if it is in the range of priorities. -/
def checkPriority (number? : Option Binary64) : Reported (Option Binary64) :=
  match number? with
  | none => .clean none
  | some priority =>
    if leastPriority.atMost priority && priority.atMost greatestPriority then
      .clean (some priority)
    else .withReport none (.priorityOutOfRange priority)

/-- The priority that a value gives. -/
def priority (value : Value) : Except FieldError (Reported (Option Binary64)) := do
  let number ← number "priority" value
  .ok (number >>= checkPriority)

/-- A signed multiplier, unless it would divide by zero. -/
def checkMultiplier (number? : Option Binary64) (sign : MultiplierSign) :
    Reported (Option SignedMultiplier) :=
  match number? with
  | none => .clean none
  | some number =>
    match SignedMultiplier.make? number sign with
    | some multiplier => .clean (some multiplier)
    | none => .withReport none .zeroDivisor

/-- Whether the character separates the names on the left of a directive. -/
def isAttributeSeparator (c : Char) : Bool :=
  c == ' ' || c == ':' || c == ','

/-- The runs of characters between those that satisfy a condition, the empty ones included. -/
def runs (separates : Char → Bool) : List Char → List (List Char)
  | [] => [[]]
  | c :: rest =>
    if separates c then [] :: runs separates rest
    else
      match runs separates rest with
      | run :: others => (c :: run) :: others
      | [] => [[c]]

/-- The attributes on the left of a directive, in the order of their names. -/
def attributes (lhs : String) : List Attribute :=
  ((runs isAttributeSeparator lhs.toList).filter (!·.isEmpty)).flatMap fun name =>
    Attribute.expand (String.ofList name)

/-- A reference to a view, with the name of an attribute if there is a point after the view's. -/
def viewReference? (reference : String) : Option (String × Option String) :=
  let name := reference.toList.takeWhile (· != '.')
  if name.isEmpty then none
  else
    match reference.toList.dropWhile (· != '.') with
    | _ :: part => some (String.ofList name, some (String.ofList part))
    | [] => some (String.ofList name, none)

end Reading

end ViewLayout
