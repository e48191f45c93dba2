import ViewLayout.Text.Digit
import ViewLayout.Text.Quoted

/-!
# Command line options

The options of the command. Long names may be shortened as long as that is unambiguous, and a value
follows its option or stands behind an equals sign. `Options.parse` reads the arguments in order;
arguments that are no options are refused at the end.
-/

namespace ViewLayout.Command

/-- The options that the command knows. -/
inductive Switch
  | help
  | layout
  | config
  | output
  | horizontal
  | vertical
deriving DecidableEq

namespace Switch

/-- All names of options, in the order in which they are looked through. -/
def names : List (String × Switch) :=
  [("-h", help), ("--help", help), ("--layout", layout), ("--config", config),
    ("--output", output), ("--horizontal", horizontal), ("--vertical", vertical)]

/-- How messages call a switch. -/
def label : Switch → String
  | help => "-h/--help"
  | layout => "--layout"
  | config => "--config"
  | output => "--output"
  | horizontal => "--horizontal"
  | vertical => "--vertical"

end Switch

/-- What is wrong with the arguments. -/
inductive UsageError
  | missingLayout
  | missingValue (switch : Switch)
  | needlessValue (switch : Switch) (value : String)
  | ambiguous (argument : String) (candidates : List String)
  | unrecognized (arguments : List String)
deriving DecidableEq

/-- What is said of arguments that cannot be used. -/
def UsageError.message : UsageError → String
  | missingLayout => "the following arguments are required: --layout"
  | missingValue switch => s!"argument {switch.label}: expected one argument"
  | needlessValue switch value =>
    s!"argument {switch.label}: ignored explicit argument {Text.quote value}"
  | ambiguous argument candidates =>
    s!"ambiguous option: {argument} could match " ++ ", ".intercalate candidates
  | unrecognized arguments => "unrecognized arguments: " ++ " ".intercalate arguments

/-- What an argument is by its form. -/
inductive Argument
  /-- An option, with the value behind its equals sign. -/
  | switch (switch : Switch) (value : Option String)
  /-- A text that has the form of an option and is none. -/
  | unknown (text : String)
  /-- A value. -/
  | plain (text : String)
  /-- Two hyphens, after which everything is a value. -/
  | separator
deriving DecidableEq

/-- What is before and behind the first equals sign of a text. -/
def splitEquals (text : String) : String × Option String :=
  let name := String.ofList (text.toList.takeWhile (· != '='))
  match text.toList.dropWhile (· != '=') with
  | _ :: value => (name, some (String.ofList value))
  | [] => (name, none)

/-- Whether a character is a decimal digit of any script. -/
def isDecimal (c : Char) : Bool :=
  (Text.decimalValue? c).isSome

/-- Whether a text ends here, apart from one line break. -/
def isAtEnd (text : List Char) : Bool :=
  text == [] || text == ['\n']

/-- Whether a text is a negative number: digits, or a point before at least one digit. -/
def isNegativeNumber (text : String) : Bool :=
  match text.toList with
  | '-' :: rest =>
    match rest.dropWhile isDecimal with
    | '.' :: part => part.head?.any isDecimal && isAtEnd (part.dropWhile isDecimal)
    | after => rest.head?.any isDecimal && isAtEnd after
  | _ => false

/-- The value that letters behind the short option give it, which takes none. More of its letters
are the same option again. -/
def shortValue? (letters : List Char) : Option String :=
  match letters.dropWhile (· == 'h') with
  | [] => none
  | rest => some (String.ofList rest)

/-- The value that stands behind the equals sign of an option. -/
def writtenValue? (name value : String) : Option String :=
  if name = "-h" ∧ value ≠ "" then shortValue? value.toList else some value

/-- The options that a text may be a shortened name of, with the value that it gives them. -/
def candidates (text : String) : List (String × Switch × Option String) :=
  match text.toList with
  | '-' :: '-' :: _ =>
    let (short, value) := splitEquals text
    (Switch.names.filter fun entry => short.isPrefixOf entry.1).map fun entry =>
      (entry.1, entry.2, value)
  | '-' :: c :: letters =>
    (Switch.names.filter fun entry => entry.1 = String.ofList ['-', c]).map fun entry =>
      (entry.1, entry.2, shortValue? letters)
  | _ => []

/-- What an argument is, by its first characters and by the names of the switches. -/
def classify (text : String) : Except UsageError Argument :=
  if text = "--" then .ok .separator
  else if !"-".isPrefixOf text || text = "-" then .ok (.plain text)
  else
    match Switch.names.lookup text with
    | some switch => .ok (.switch switch none)
    | none =>
      let (name, value) := splitEquals text
      match value, Switch.names.lookup name with
      | some value, some switch => .ok (.switch switch (writtenValue? name value))
      | _, _ =>
        match candidates text with
        | [(_, switch, value)] => .ok (.switch switch value)
        | [] =>
          if isNegativeNumber text || text.toList.contains ' ' then .ok (.plain text)
          else .ok (.unknown text)
        | several => .error (.ambiguous text (several.map (·.1)))

/-- What all arguments are. Behind a separator everything is a value. -/
def classifyAll : List String → Except UsageError (List Argument)
  | [] => .ok []
  | text :: rest => do
    match ← classify text with
    | .separator => .ok (.separator :: rest.map .plain)
    | argument => do
      let others ← classifyAll rest
      .ok (argument :: others)

/-- What was read of the arguments so far. -/
structure Parsing where
  layout : Option String := none
  config : Option String := none
  output : Option String := none
  horizontal : Option String := none
  vertical : Option String := none
  leftOver : List String := []

namespace Parsing

/-- Notes the value of a switch; the last value stands. -/
def set (parsing : Parsing) (switch : Switch) (value : String) : Parsing :=
  match switch with
  | .help => parsing
  | .layout => { parsing with layout := some value }
  | .config => { parsing with config := some value }
  | .output => { parsing with output := some value }
  | .horizontal => { parsing with horizontal := some value }
  | .vertical => { parsing with vertical := some value }

/-- One more argument that is no option. -/
def leave (parsing : Parsing) (text : String) : Parsing :=
  { parsing with leftOver := parsing.leftOver ++ [text] }

/-- The options that the arguments set; none if they ask for help. An option takes the value next to
it unless it has one of its own. -/
def run (parsing : Parsing) : List Argument → Except UsageError (Option Parsing)
  | [] => .ok (some parsing)
  | .plain text :: rest => run (parsing.leave text) rest
  | .unknown text :: rest => run (parsing.leave text) rest
  | .separator :: rest => run (parsing.leave "--") rest
  | .switch .help none :: _ => .ok none
  | .switch .help (some value) :: _ => .error (.needlessValue .help value)
  | .switch switch (some value) :: rest => run (parsing.set switch value) rest
  | .switch switch none :: .plain value :: rest => run (parsing.set switch value) rest
  | .switch switch none :: _ => .error (.missingValue switch)

end Parsing

/-- The options of a run. -/
structure Options where
  layout : String
  config : Option String := none
  output : Option String := none
  horizontal : Option String := none
  vertical : Option String := none
deriving DecidableEq

/-- The options that arguments give; none if they ask for help. An empty value of an option that
may be missing counts as missing. -/
def Options.parse (arguments : List String) : Except UsageError (Option Options) := do
  let classified ← classifyAll arguments
  match ← Parsing.run {} classified with
  | none => .ok none
  | some parsing =>
    match parsing.layout with
    | none => .error .missingLayout
    | some layout =>
      if parsing.leftOver.isEmpty then
        let given := fun (value : Option String) => value.filter (· != "")
        .ok (some {
          layout
          config := given parsing.config
          output := given parsing.output
          horizontal := given parsing.horizontal
          vertical := given parsing.vertical })
      else .error (.unrecognized parsing.leftOver)

end ViewLayout.Command
