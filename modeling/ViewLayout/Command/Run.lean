import ViewLayout.Command.Options
import ViewLayout.Command.Path
import ViewLayout.Json.Writer
import ViewLayout.Log
import ViewLayout.Pass.Report

/-!
# Runs of the command

A run reads a configuration and a layout, compiles the layout onto a fresh root view, and writes the
constraints as JSON. `execute` is a function of the contents of the files; what it writes to the
log, to standard output and to the output file is its result.
-/

namespace ViewLayout.Command

/-- The files that a run sees. -/
structure Files where
  read : String → Except FileError String
  /-- Why the file at a path cannot be written, if it cannot. -/
  refuse : String → Option FileError

/-- Why a run stops without an answer. -/
inductive RunError
  | file (fault : FileError)
  | configText (fault : Yaml.Fault)
  | config (fault : Config.Fault)
  | threshold (fault : Log.ThresholdError)
  | unreadable (cause : Yaml.Unreadable)
  | pass (fault : PassError)
  | unwritable (fault : Json.Unwritable)

/-- What is said of a run that stops. -/
def RunError.message : RunError → String
  | file fault => fault.message
  | configText (.problem problem) => problem.description
  | configText (.unreadable cause) => cause.message
  | config fault => fault.message
  | threshold fault => fault.message
  | unreadable cause => cause.message
  | pass fault => fault.message
  | unwritable fault => fault.message

/-- How a run ends. -/
inductive Ending
  | exit (code : Nat)
  | stopped (fault : RunError)

/-- What a run does. -/
structure Run where
  ending : Ending
  log : List String := []
  output : String := ""
  /-- The file that is written, by its path. -/
  written : Option (String × String) := none

/-- A text with the line breaks of a text file. -/
def fileText : List Char → List Char
  | [] => []
  | '\r' :: '\n' :: rest => '\n' :: fileText rest
  | '\r' :: rest => '\n' :: fileText rest
  | c :: rest => c :: fileText rest

/-- The records that a threshold lets through, as lines. -/
def linesOf (threshold : Int) (records : List Log.Record) : List String :=
  (records.filter (Log.Record.isShown threshold)).map Log.Record.line

/-- The threshold before a configuration sets one. -/
def firstThreshold : Int := Log.Level.warning.rank

/-- The configuration of a run before its options override it. -/
def loadConfig (files : Files) (path : Option String) :
    List Config.Remark × Except RunError Config :=
  match path with
  | none => ([], .ok {})
  | some path =>
    match files.read path with
    | .error fault => ([], .error (.file fault))
    | .ok text =>
      match Yaml.readFile (String.ofList (fileText text.toList)) with
      | .error fault => ([], .error (.configText fault))
      | .ok document =>
        let loaded := (Config.ofDocument path document).load
        (loaded.remarks, loaded.result.mapError .config)

/-- What is written of a layout that has been compiled, with the time and the options. -/
def resultValue (time : String) (options : Options) (config : Config) (scene : Scene)
    (layout : Layout) : Value :=
  .mapping
    ([(.text "compiled_at", .text time),
      (.text "layout", .text options.layout),
      (.text "config", config.toValue),
      (.text "active_constraints", .int scene.active.length)] ++ layout.toEntries scene.forest)

/-- The end of a run that has compiled its layout. -/
def conclude (files : Files) (time : String) (options : Options) (config : Config) (scene : Scene)
    (layout : Layout) (log : List String) : Run :=
  match options.output.map plainPath with
  | none =>
    match Json.write (resultValue time options config scene layout) with
    | .error fault => { ending := .stopped (.unwritable fault), log }
    | .ok text => { ending := .exit 0, log, output := text ++ "\n" }
  | some path =>
    match files.refuse path with
    | some fault => { ending := .stopped (.file fault), log }
    | none =>
      match Json.write (resultValue time options config scene layout) with
      | .error fault => { ending := .stopped (.unwritable fault), log }
      | .ok text =>
        { ending := .exit 0
          log
          output :=
            s!"Done! {layout.constraints.length} constraints, " ++
              s!"{layout.diagnostics.length} diagnostics -> {path}\n"
          written := some (path, text) }

/-- Reads and compiles the layout of the options with a configuration, after what has been logged.
-/
def compileWith (files : Files) (time : String) (options : Options) (config : Config)
    (log : List String) : Run :=
  match Log.threshold config.logLevel with
  | .error fault => { ending := .stopped (.threshold fault), log }
  | .ok threshold =>
    match files.read (plainPath options.layout) with
    | .error fault => { ending := .stopped (.file fault), log }
    | .ok text =>
      let (root, forest) := (Forest.create {} "root" none)
      let scene : Scene := { forest, emitter := .recording config.environment [] }
      let source : Value := .text (String.ofList (fileText text.toList))
      let outcome := compileSource { config } source root scene
      let lines := log ++ linesOf threshold (outcome.events.filterMap Log.ofEvent?)
      match outcome.result with
      | .ok layout => conclude files time options config outcome.scene layout lines
      | .error (.document (.unreadable cause)) =>
        { ending := .stopped (.unreadable cause), log := lines }
      | .error (.document fault) =>
        { ending := .exit 1, log := lines ++ ["error: " ++ fault.message] }
      | .error (.pass fault) => { ending := .stopped (.pass fault), log := lines }

/-- Loads the configuration, sets the size classes that the options name, and compiles. -/
def runWith (files : Files) (time : String) (options : Options) : Run :=
  let (remarks, loaded) := loadConfig files options.config
  let log := linesOf firstThreshold (remarks.map Log.ofRemark)
  match loaded with
  | .error fault => { ending := .stopped fault, log }
  | .ok config =>
    let (overridden, more) := config.withSizeClasses options.horizontal options.vertical
    compileWith files time options overridden
      (log ++ linesOf firstThreshold (more.map Log.ofRemark))

/-- The name under which the command tells wrong arguments. -/
def programName : String := "compile_layout.py"

/-- What the command shows when it is asked for help. -/
def usage : String :=
  s!"usage: {programName} [-h] --layout LAYOUT [--config CONFIG] [--output OUTPUT] " ++
    "[--horizontal HORIZONTAL] [--vertical VERTICAL]\n"

/-- **What the command does** with files and arguments at a time. -/
def execute (files : Files) (time : String) (arguments : List String) : Run :=
  match Options.parse arguments with
  | .error fault =>
    { ending := .exit 2, log := [s!"{programName}: error: {fault.message}"] }
  | .ok none => { ending := .exit 0, output := usage }
  | .ok (some options) => runWith files time options

end ViewLayout.Command
