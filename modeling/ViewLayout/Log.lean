import ViewLayout.Emitter

/-!
# Log records

What a pass writes to the log: diagnostics that nobody else receives, constraints as they are
emitted, and a summary of every pass. Records have a level, and a threshold decides which are shown.
-/

namespace ViewLayout.Log

/-- How important a record is. -/
inductive Level
  | debug
  | info
  | warning
  | error
deriving DecidableEq

namespace Level

/-- How a level is written. -/
def name : Level → String
  | debug => "DEBUG"
  | info => "INFO"
  | warning => "WARNING"
  | error => "ERROR"

/-- How grave a level is; a threshold is compared with that. -/
def rank : Level → Int
  | debug => 10
  | info => 20
  | warning => 30
  | error => 40

end Level

/-- The threshold that a name stands for. -/
def thresholdOf? (name : String) : Option Int :=
  match name with
  | "CRITICAL" => some 50
  | "FATAL" => some 50
  | "ERROR" => some 40
  | "WARN" => some 30
  | "WARNING" => some 30
  | "INFO" => some 20
  | "DEBUG" => some 10
  | "NOTSET" => some 0
  | _ => none

/-- Why a value is no threshold. -/
inductive ThresholdError
  | unknown (name : String)
  | wrongKind (value : Value)
  | unshowable (cause : Unshowable)

/-- What is said of a threshold that cannot be used. -/
def ThresholdError.message : ThresholdError → String
  | unknown name => s!"Unknown level: {Text.quote name}"
  | wrongKind value => s!"Level not an integer or a valid string: {value.quoted}"
  | unshowable cause => cause.message

/-- The threshold that a value gives: a number, or the name of one. -/
def threshold (value : Value) : Except ThresholdError Int :=
  match value with
  | .int number => .ok number
  | .bool flag => .ok flag.toNat
  | .text name =>
    match thresholdOf? name with
    | some number => .ok number
    | none => .error (.unknown name)
  | _ =>
    if value.isShowable then .error (.wrongKind value) else .error (.unshowable .integerTooLong)

/-- A line of the log. -/
structure Record where
  level : Level
  logger : String
  message : String
deriving DecidableEq

/-- Whether a record reaches a threshold. -/
def Record.isShown (threshold : Int) (record : Record) : Bool :=
  decide (threshold ≤ record.level.rank)

/-- The line that a record is shown as. -/
def Record.line (record : Record) : String :=
  s!"{record.level.name} {record.logger}: {record.message}"

/-- The record of a diagnostic. -/
def ofDiagnostic (diagnostic : Diagnostic) : Record where
  level :=
    match diagnostic.level with
    | .warning => .warning
    | .error => .error
  logger := "layout_compiler.reporting"
  message := diagnostic.message

/-- The record of a remark on the configuration. -/
def ofRemark (remark : Config.Remark) : Record where
  level := .warning
  logger := "layout_compiler.config"
  message := remark.message

/-- The record of an event, if it gets to the log. -/
def ofEvent? : Event → Option Record
  | .reported notice =>
    if notice.sink.reaches .log then some (ofDiagnostic notice.diagnostic) else none
  | .emitted target attr active =>
    let flag := (Value.bool active).quoted
    some ⟨.debug, "layout_compiler.emitter", s!"Emitted {target}.{attr.name} (active={flag})"⟩
  | .compiled views constraints errors =>
    some
      ⟨.info, "layout_compiler.compiler",
        s!"Compiled {views} views: {constraints} constraints, {errors} errors"⟩

end ViewLayout.Log
