import ViewLayout.Document.Read
import ViewLayout.Pass.Build
import ViewLayout.Pass.Templates

/-!
# Layout passes

A pass makes the views of a document and then establishes the constraints of each: those that it
takes from templates, then its own. Whatever is wrong is reported and costs only the part concerned.
The diagnostics of a pass are kept in the layout and handed on to the sink of the settings, or to
the log if that sink counts as false.
-/

namespace ViewLayout

/-- Why a pass cannot be finished. -/
inductive PassError
  | noRoot
  | hierarchy (fault : HierarchyError)
  | field (fault : FieldError)
deriving DecidableEq

/-- The message of a pass that cannot be finished. -/
def PassError.message : PassError → String
  | noRoot => "A root view is required"
  | hierarchy fault => fault.message
  | field fault => fault.message

/-- What a pass gives. -/
structure Layout where
  constraints : List Spec := []
  diagnostics : List Diagnostic := []

/-- The specs of a layout for the views of a name. -/
def Layout.forView (layout : Layout) (forest : Forest) (name : String) : List Spec :=
  layout.constraints.filter fun spec => forest.nameOf spec.target == name

/-- The settings of a pass: its configuration, who receives its diagnostics, what names mean outside
the index, and what reads YAML texts. -/
structure Settings where
  config : Config := {}
  sink : Sink := .log
  environment : Environment := []
  yaml : Yaml.Reader := Yaml.read

namespace Settings

/-- The sink that the compilation of a source makes. It hands on to the sink of the settings, or to
the log if that sink counts as false. -/
def sourceSink (settings : Settings) : Sink :=
  .collecting .source settings.sink.orLog

/-- The sink that a pass makes, which hands on in the same way. -/
def passSink (settings : Settings) : Sink :=
  .collecting .pass settings.sink.orLog

/-- The settings of the pass over a source. -/
def inSource (settings : Settings) : Settings :=
  { settings with sink := settings.sourceSink }

/-- The document that a source gives, as it is read for a compilation. -/
def read (settings : Settings) (source : Value) : Reported (Except DocumentError Document) :=
  Document.readWith settings.yaml settings.sourceSink source

/-- What directives are resolved in: the views and names of a scene, with the settings. -/
def scope (settings : Settings) (scene : Scene) : Scope where
  forest := scene.forest
  index := scene.index
  environment := settings.environment
  config := settings.config

/-- The sink that a pass makes counts as true, whatever it hands on to. -/
@[simp] theorem isTruthy_passSink (settings : Settings) : settings.passSink.isTruthy = true := rfl

end Settings

/-- A pass on its way. -/
structure Pass where
  scene : Scene
  events : List Event := []
  constraints : List Spec := []
  failure : Option PassError := none

/-- What came of a pass: the scene as it was left, what happened, and the layout if it was
finished. -/
structure Outcome (ε : Type) where
  scene : Scene
  events : List Event
  result : Except ε Layout

namespace Pass

/-- The pass with a diagnostic for each of the list. -/
def report (pass : Pass) (sink : Sink) (diagnostics : List Diagnostic) : Pass :=
  { pass with
    events := pass.events ++ diagnostics.map fun diagnostic => .reported ⟨sink, diagnostic⟩ }

/-- Establishes the constraints of a directive for a view. -/
def establish (settings : Settings) (sink : Sink) (target : ViewId) (pass : Pass)
    (directive : Directive) : Pass :=
  match pass.failure with
  | some _ => pass
  | none =>
    let model : Model := { directive, ownSink := some sink }
    let establishment := model.establish (settings.scope pass.scene) target (some sink)
    let (scene, events) := pass.scene.play establishment.steps
    { scene
      events := pass.events ++ events
      constraints := pass.constraints ++ establishment.specs
      failure := establishment.failure.map .field }

/-- Establishes the constraints of a view: those of its templates, then its own. -/
def establishView (settings : Settings) (sink : Sink) (templates : Table Description) (pass : Pass)
    (built : Description × ViewId) : Pass :=
  match pass.failure with
  | some _ => pass
  | none =>
    let expanded := Template.expand templates [] built.1.templates
    (expanded.value ++ built.1.constraints).foldl (establish settings sink built.2)
      (pass.report sink expanded.diagnostics)

/-- How many of some diagnostics are errors. -/
def errorCount (diagnostics : List Diagnostic) : Nat :=
  (diagnostics.filter (·.level == .error)).length

/-- **Compiles a document onto a root view.** -/
def compile (settings : Settings) (document : Document) (root : ViewId) (scene : Scene) :
    Outcome PassError :=
  let sink := settings.passSink
  let named := { scene with index := scene.index.put (scene.forest.nameOf root) root }
  let building := named.buildHierarchy root document.root
  let started : Pass :=
    report
      { scene := building.scene, failure := building.failure.map .hierarchy }
      sink building.diagnostics
  let pass := building.built.foldl (establishView settings sink document.templates) started
  match pass.failure with
  | some fault => ⟨pass.scene, pass.events, .error fault⟩
  | none =>
    let layout : Layout := ⟨pass.constraints, received sink (noticesOf pass.events)⟩
    let summary : Event :=
      .compiled building.built.length layout.constraints.length (errorCount layout.diagnostics)
    ⟨pass.scene, pass.events ++ [summary], .ok layout⟩

/-- Compiles a document onto a root view, if there is one. -/
def compileAt (settings : Settings) (document : Document) (root : Option ViewId) (scene : Scene) :
    Outcome PassError :=
  match root with
  | none => ⟨scene, [], .error .noRoot⟩
  | some root => compile settings document root scene

end Pass

/-- Why a source cannot be compiled. -/
inductive CompileError
  | document (fault : DocumentError)
  | pass (fault : PassError)
deriving DecidableEq

/-- The message of a source that cannot be compiled. -/
def CompileError.message : CompileError → String
  | document fault => fault.message
  | pass fault => fault.message

/-- **Reads a source and compiles it onto a root view**, whose name is all that the index holds at
first. The layout has the diagnostics of reading and of the pass. -/
def compileSource (settings : Settings) (source : Value) (root : ViewId) (scene : Scene) :
    Outcome CompileError :=
  let read := settings.read source
  let reading : List Event :=
    read.diagnostics.map fun diagnostic => .reported ⟨settings.sourceSink, diagnostic⟩
  match read.value with
  | .error fault => ⟨scene, reading, .error (.document fault)⟩
  | .ok document =>
    let outcome := Pass.compile settings.inSource document root { scene with index := [] }
    let events := reading ++ outcome.events
    match outcome.result with
    | .error fault => ⟨outcome.scene, events, .error (.pass fault)⟩
    | .ok layout =>
      let diagnostics := received settings.sourceSink (noticesOf events)
      ⟨outcome.scene, events, .ok { layout with diagnostics }⟩

end ViewLayout
