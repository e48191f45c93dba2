import Mathlib.Data.List.Induction
import ViewLayout.Proofs.Pass.Records

/-!
# Gating by size classes

An emitter activates a constraint if its environment admits the size classes, and looks at all
records again when the environment changes. `Scene.Unapplied.answerAll_eq` says that nothing is
left of earlier environments: after any calls a scene is as if its emitter had had the last
environment from the start. The records that a view has are those of the emitter, so that their
flags follow as well.
-/

namespace ViewLayout

/-- Something that is asked of an emitter. -/
inductive Call
  | emit (spec : Spec)
  | update (environment : SizeClasses)

namespace Call

/-- The spec that a call emits. -/
def spec? : Call → Option Spec
  | emit spec => some spec
  | update _ => none

/-- The environment that a call changes to. -/
def environment? : Call → Option SizeClasses
  | emit _ => none
  | update environment => some environment

/-- The constraints that are emitted by calls, in order. -/
def specs (calls : List Call) : List Spec :=
  calls.filterMap spec?

/-- The last environment of calls, or the given one if they change none. -/
def lastEnvironment (start : SizeClasses) (calls : List Call) : SizeClasses :=
  (calls.filterMap environment?).getLastD start

end Call

namespace Scene

variable {scene : Scene} {environment : SizeClasses}

/-- The scene after a call of its emitter. -/
def answer (scene : Scene) : Call → Scene
  | .emit spec => (scene.emit spec).1
  | .update environment => scene.updateEnvironment environment

/-- The scene after calls, one after the other. -/
def answerAll (scene : Scene) (calls : List Call) : Scene :=
  calls.foldl answer scene

/-- The scene with a new emitter that has recorded nothing. -/
def renewed (scene : Scene) (environment : SizeClasses) : Scene :=
  scene.withEmitter (.recording environment [])

/-- No constraint was applied to any view. -/
def Unapplied (scene : Scene) : Prop :=
  ∀ id, scene.forest.appliedTo id = []

@[simp] theorem length_refresh (environment : SizeClasses) (ledger : List Activation)
    (position : Nat) : (refresh environment ledger position).length = ledger.length :=
  List.length_modify ..

theorem length_foldl_refresh (environment : SizeClasses) (positions : List Nat)
    (ledger : List Activation) :
    (positions.foldl (refresh environment) ledger).length = ledger.length := by
  induction positions generalizing ledger with
  | nil => rfl
  | cons position rest inner => rw [List.foldl_cons, inner, length_refresh]

/-- Renewing a record does not look at those behind it. -/
theorem refresh_append {ledger : List Activation} {position : Nat}
    (inside : position < ledger.length) (more : List Activation) :
    refresh environment (ledger ++ more) position =
      refresh environment ledger position ++ more := by
  apply List.ext_getElem?
  intro other
  rw [List.getElem?_append, length_refresh, refresh, refresh, List.getElem?_modify,
    List.getElem?_modify, List.getElem?_append]
  by_cases before : other < ledger.length
  · rw [if_pos before, if_pos before]
  · have apart : position ≠ other := by omega
    simp [before, apart]

/-- The last record of a ledger is as active as the environment admits, once it is looked at. -/
theorem refresh_length (ledger : List Activation) (record : Activation) :
    refresh environment (ledger ++ [record]) ledger.length =
      ledger ++ [⟨record.spec, record.spec.sizeClasses.admits environment⟩] := by
  induction ledger with
  | nil => rfl
  | cons first rest inner => exact congrArg (first :: ·) inner

/-- Looking at the records of a ledger changes none that are added later. -/
theorem foldl_refresh_append {positions : List Nat} {ledger : List Activation}
    (inside : ∀ position ∈ positions, position < ledger.length) (more : List Activation) :
    positions.foldl (refresh environment) (ledger ++ more) =
      positions.foldl (refresh environment) ledger ++ more := by
  induction positions generalizing ledger with
  | nil => rfl
  | cons position rest inner =>
    rw [List.foldl_cons, List.foldl_cons, refresh_append (inside position List.mem_cons_self)]
    apply inner
    intro other member
    rw [length_refresh]
    exact inside other (List.mem_cons_of_mem _ member)

/-- A constraint can be emitted before the environment changes or after that. -/
theorem updateEnvironment_emit (recorded : scene.Recorded) (spec : Spec)
    (environment : SizeClasses) :
    (scene.emit spec).1.updateEnvironment environment =
      ((scene.updateEnvironment environment).emit spec).1 := by
  cases emitter : scene.emitter with
  | discarding => simp [emit, updateEnvironment, emitter]
  | recording before positions =>
    have within : ∀ position ∈ positions, position < scene.ledger.length := by
      have inside := recorded.emitted
      rwa [emitter] at inside
    have here := @refresh_length environment (positions.foldl (refresh environment) scene.ledger)
      ⟨spec, spec.sizeClasses.admits before⟩
    rw [length_foldl_refresh] at here
    simp only [emit, updateEnvironment, emitter, List.foldl_append, List.foldl_cons,
      List.foldl_nil, foldl_refresh_append within, here, length_foldl_refresh]

/-- So can any constraints. -/
theorem updateEnvironment_emitAll (recorded : scene.Recorded) (specs : List Spec)
    (environment : SizeClasses) :
    (scene.emitAll specs).updateEnvironment environment =
      (scene.updateEnvironment environment).emitAll specs := by
  induction specs generalizing scene with
  | nil => rfl
  | cons spec rest inner =>
    have later := inner (recorded.emit spec)
    rwa [updateEnvironment_emit recorded] at later

/-- A scene to which nothing is applied has its records in the ledger. -/
theorem Unapplied.recorded (unapplied : scene.Unapplied) (environment : SizeClasses) :
    (scene.renewed environment).Recorded where
  emitted := fun position member => absurd member List.not_mem_nil
  applied := by
    intro id view found position member
    have none := unapplied id
    have there : scene.forest.view? id = some view := found
    rw [Forest.appliedTo, there] at none
    have bare : view.applied = [] := none
    rw [bare] at member
    exact absurd member List.not_mem_nil

/-- After any calls a scene is as if its emitter had had the last environment from the start. -/
theorem Unapplied.answerAll_eq (unapplied : scene.Unapplied) (start : SizeClasses)
    (calls : List Call) :
    (scene.renewed start).answerAll calls =
      (scene.renewed (Call.lastEnvironment start calls)).emitAll (Call.specs calls) := by
  -- The last call comes on top of a scene that is as if there had been no change before it.
  induction calls using List.reverseRecOn with
  | nil => rfl
  | append_singleton calls call inner =>
    rw [answerAll, List.foldl_append]
    change ((scene.renewed start).answerAll calls).answer call = _
    rw [inner]
    cases call with
    | emit spec =>
      have specs : Call.specs (calls ++ [.emit spec]) = Call.specs calls ++ [spec] := by
        simp [Call.specs, Call.spec?]
      have last : Call.lastEnvironment start (calls ++ [.emit spec]) =
          Call.lastEnvironment start calls := by
        simp [Call.lastEnvironment, Call.environment?]
      rw [specs, last, emitAll_append]
      rfl
    | update environment =>
      have specs : Call.specs (calls ++ [.update environment]) = Call.specs calls := by
        simp [Call.specs, Call.spec?]
      have last : Call.lastEnvironment start (calls ++ [.update environment]) = environment := by
        simp [Call.lastEnvironment, Call.environment?]
      rw [specs, last]
      exact updateEnvironment_emitAll (unapplied.recorded _) _ _

/-- Whether the record at a position is of a constraint for a view. -/
def isFor (scene : Scene) (id : ViewId) (position : Nat) : Bool :=
  (scene.ledger[position]?).any (·.spec.target == id)

/-- The records of every view are those of the emitter that are for it, in the same order. -/
def Filed (scene : Scene) : Prop :=
  ∀ id < scene.forest.size,
    scene.forest.appliedTo id = scene.emitter.emitted.filter (scene.isFor id)

/-- A scene to which nothing is applied is filed. -/
theorem Unapplied.filed (unapplied : scene.Unapplied) (environment : SizeClasses) :
    (scene.renewed environment).Filed :=
  fun id _ => unapplied id

/-- What is applied to a view is applied after all that was. -/
theorem appliedTo_modify_append {forest : Forest} {target id : ViewId}
    (inside : id < forest.size) (more : List Nat) :
    (forest.modify target fun view => { view with applied := view.applied ++ more }).appliedTo id =
      forest.appliedTo id ++ if target = id then more else [] := by
  obtain ⟨view, found⟩ := Forest.exists_view?_of_lt_size inside
  rw [Forest.appliedTo, Forest.appliedTo, Forest.view?_modify, found]
  split
  · rfl
  · exact (List.append_nil _).symm

/-- A record that is emitted is filed with its view, and all others stay where they are. -/
theorem Filed.emit (filed : scene.Filed) (recorded : scene.Recorded) (spec : Spec) :
    (scene.emit spec).1.Filed := by
  intro id inside
  rw [(alike_emit scene spec).size_eq] at inside
  have before := filed id inside
  unfold Scene.emit
  cases emitter : scene.emitter with
  | discarding => exact before
  | recording environment positions =>
    have within : ∀ position ∈ positions, position < scene.ledger.length := by
      have inside := recorded.emitted
      rwa [emitter] at inside
    rw [emitter] at before
    have earlier : positions.filter (fun position =>
        ((scene.ledger ++ [⟨spec, spec.sizeClasses.admits environment⟩])[position]?).any
          (·.spec.target == id)) = positions.filter (scene.isFor id) := by
      refine List.filter_congr fun position member => ?_
      rw [List.getElem?_append_left (within position member)]
      rfl
    refine (appliedTo_modify_append inside _).trans ?_
    simp only [before, Emitter.emitted, List.filter_append]
    refine congrArg₂ (· ++ ·) earlier.symm ?_
    by_cases same : spec.target = id <;> simp [isFor, same]

/-- The records of every view stay filed, whatever is emitted. -/
theorem Filed.emitAll (filed : scene.Filed) (recorded : scene.Recorded) (specs : List Spec) :
    (scene.emitAll specs).Filed := by
  induction specs generalizing scene with
  | nil => exact filed
  | cons spec rest inner => exact inner (filed.emit recorded spec) (recorded.emit spec)

/-- A scene whose emitter was asked to emit constraints in an environment. -/
structure Gated (scene : Scene) (environment : SizeClasses) (specs : List Spec) : Prop where
  /-- There is a record for each, and it is active if the environment admits its size classes. -/
  emitted : scene.emitted = specs.map fun spec => ⟨spec, spec.sizeClasses.admits environment⟩
  /-- The views share the emitter's records. -/
  filed : scene.Filed
  /-- So what is applied to a view are the records that are for it. -/
  applied : ∀ id < scene.forest.size,
    scene.applied id = scene.emitted.filter (·.spec.target == id)
  active : scene.active = specs.filter (·.sizeClasses.admits environment)

/-- What is recorded of specs in a renewed scene. -/
theorem records_renewed (scene : Scene) (environment : SizeClasses) (specs : List Spec) :
    (scene.renewed environment).records specs =
      specs.map fun spec => ⟨spec, spec.sizeClasses.admits environment⟩ := by
  rw [← List.filterMap_eq_map]
  rfl

/-- Constraints that a new emitter is asked to emit are gated by its environment. -/
theorem Unapplied.gated (unapplied : scene.Unapplied) (environment : SizeClasses)
    (specs : List Spec) : ((scene.renewed environment).emitAll specs).Gated environment specs := by
  have recorded := unapplied.recorded environment
  have emitted : ((scene.renewed environment).emitAll specs).emitted =
      specs.map fun spec => ⟨spec, spec.sizeClasses.admits environment⟩ := by
    rw [emitted_emitAll recorded, records_renewed]
    rfl
  exact {
    emitted
    filed := (unapplied.filed environment).emitAll recorded specs
    applied := by
      intro id inside
      rw [(alike_emitAll _ specs).size_eq] at inside
      have bare : (scene.renewed environment).applied id = [] :=
        congrArg (List.filterMap (scene.ledger[·]?)) (unapplied id)
      rw [applied_emitAll recorded specs inside, bare, records_renewed, emitted, List.filter_map]
      rfl
    active := by
      rw [active, emitted, List.filter_map, List.map_map]
      exact List.map_id _ }

end Scene

end ViewLayout
