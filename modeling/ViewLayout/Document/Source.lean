import ViewLayout.Json.Reader
import ViewLayout.Value.Shown
import ViewLayout.Yaml.Document

/-!
# Sources of documents

A document comes as a mapping, as JSON or as YAML. A text that is no JSON is read as YAML; either
has to give a mapping. What reads YAML is a parameter, so that what is said of documents holds of
any reader; `Yaml.read` is the one that is used.
-/

namespace ViewLayout

/-- Why a document cannot be read. -/
inductive DocumentError
  | unsupportedSource (kind : String)
  | invalid (problem : Yaml.Problem)
  | notMapping
  | rootNotMapping
  | unreadable (cause : Yaml.Unreadable)
  | unshowable (cause : Unshowable)
deriving DecidableEq

/-- The message of a document that cannot be read. -/
def DocumentError.message : DocumentError → String
  | unsupportedSource kind => s!"Unsupported layout source type: {kind}"
  | invalid problem => s!"Invalid layout: {problem.description}"
  | notMapping => "Layout must be a mapping"
  | rootNotMapping => "Root view must be a mapping"
  | unreadable cause => cause.message
  | unshowable cause => cause.message

namespace Source

/-- The value that a text writes in JSON or else in YAML, as a reader of YAML has it. -/
def readText (yaml : Yaml.Reader) (text : String) : Except DocumentError Value :=
  match Json.read (some Numeral.integerDigitLimit) text with
  | .ok value => .ok value
  | .error (.integerTooLong digits) => .error (.unreadable (.integerTooLong digits))
  | .error .malformed =>
    match yaml text with
    | .ok value => .ok value
    | .error (.problem problem) => .error (.invalid problem)
    | .error (.unreadable cause) => .error (.unreadable cause)

/-- **The entries of a document**, as a reader of YAML has its text. -/
def entriesWith (yaml : Yaml.Reader) (source : Value) :
    Except DocumentError (List (Value × Value)) :=
  match source with
  | .text text => do
    match (← readText yaml text).entries? with
    | some entries => .ok entries
    | none => .error .notMapping
  | _ =>
    match source.entries? with
    | some entries => .ok entries
    | none => .error (.unsupportedSource source.kind)

/-- The entries of a document. -/
def entries (source : Value) : Except DocumentError (List (Value × Value)) :=
  entriesWith Yaml.read source

end Source

end ViewLayout
