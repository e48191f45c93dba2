import ViewLayout.Constraint.Establish

/-!
# Emitters

An emitter receives finished constraints. A recording emitter keeps each with a flag that says
whether the environment admits its size classes, and applies it to its target; the flags follow when
the environment changes. The records of all emitters stand in one ledger, to which emitters and
views refer by position.
-/

namespace ViewLayout

/-- A constraint that was handed over, and whether it is active. -/
structure Activation where
  spec : Spec
  active : Bool
deriving DecidableEq

/-- Who receives finished constraints. A recording emitter knows the environment and the positions
of its records in the ledger. -/
inductive Emitter
  | recording (environment : SizeClasses) (emitted : List Nat)
  | discarding
deriving DecidableEq

namespace Emitter

/-- The positions of the activations that an emitter has kept. -/
def emitted : Emitter → List Nat
  | recording _ positions => positions
  | discarding => []

/-- Whether an emitter keeps what it is told. -/
def isRecording : Emitter → Bool
  | recording _ _ => true
  | discarding => false

end Emitter

/-- The views with the names they have, and the constraints that were applied to them. -/
structure Scene where
  forest : Forest := {}
  index : ViewIndex := []
  ledger : List Activation := []
  emitter : Emitter := .recording {} []

/-- Something that happens in a pass. -/
inductive Event
  | reported (notice : Notice)
  | emitted (target : String) (attr : Attribute) (active : Bool)
  | compiled (views constraints errors : Nat)

namespace Event

/-- The notice that an event is. -/
def notice? : Event → Option Notice
  | reported notice => some notice
  | _ => none

end Event

/-- The notices among events, in their order. -/
def noticesOf (events : List Event) : List Notice :=
  events.filterMap Event.notice?

namespace Scene

/-- The activations that are there at the positions that the emitter has kept. -/
def emitted (scene : Scene) : List Activation :=
  scene.emitter.emitted.filterMap (scene.ledger[·]?)

/-- The specs that the emitter has kept and that are active. -/
def active (scene : Scene) : List Spec :=
  (scene.emitted.filter (·.active)).map Activation.spec

/-- The records of the constraints that were applied to a view. -/
def applied (scene : Scene) (id : ViewId) : List Activation :=
  (((scene.forest.view? id).map View.applied).getD []).filterMap (scene.ledger[·]?)

/-- **Hands a constraint to the emitter.** -/
def emit (scene : Scene) (spec : Spec) : Scene × List Event :=
  match scene.emitter with
  | .discarding => (scene, [])
  | .recording environment emitted =>
    let active := spec.sizeClasses.admits environment
    let position := scene.ledger.length
    ({ scene with
        forest := scene.forest.modify spec.target fun view =>
          { view with applied := view.applied ++ [position] }
        ledger := scene.ledger ++ [⟨spec, active⟩]
        emitter := .recording environment (emitted ++ [position]) },
      [.emitted (scene.forest.nameOf spec.target) spec.leftAttribute active])

/-- The ledger in which the record at a position is as active as the environment admits. -/
def refresh (environment : SizeClasses) (ledger : List Activation) (position : Nat) :
    List Activation :=
  ledger.modify position fun record =>
    { record with active := record.spec.sizeClasses.admits environment }

/-- Changes the environment of the emitter, and with it the flags of its records. -/
def updateEnvironment (scene : Scene) (environment : SizeClasses) : Scene :=
  match scene.emitter with
  | .discarding => scene
  | .recording _ emitted =>
    { scene with
      ledger := emitted.foldl (refresh environment) scene.ledger
      emitter := .recording environment emitted }

/-- Carries out the steps of a directive: constraints are emitted, and what happens is listed. -/
def play (scene : Scene) : List Step → Scene × List Event
  | [] => (scene, [])
  | .notice notice :: rest =>
    let (after, events) := scene.play rest
    (after, .reported notice :: events)
  | .spec spec :: rest =>
    let (next, events) := scene.emit spec
    let (after, others) := next.play rest
    (after, events ++ others)

end Scene

end ViewLayout
