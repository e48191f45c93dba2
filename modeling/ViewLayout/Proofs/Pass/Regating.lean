import ViewLayout.Proofs.Pass.Gating
import ViewLayout.Proofs.Pass.Isolation

/-!
# Passes in other environments

The size classes of the environment decide which records are active and nothing else: no view, no
constraint and no diagnostic depends on them. So two passes in different environments go the same
way, which `Pass.Regated` follows task by task, and the scene of the one is that of the other once
its environment is changed.
-/

namespace ViewLayout

/-- The settings with other size classes of the environment. -/
def Settings.gatedBy (horizontal vertical : SizeClassKey) (settings : Settings) : Settings :=
  { settings with
    config :=
      { settings.config with
        horizontalSizeClass := horizontal, verticalSizeClass := vertical } }

variable {settings : Settings} {horizontal vertical : SizeClassKey} {environment : SizeClasses}

/-- Finishing attributes does not look at the size classes of the settings. -/
theorem Settings.finishAll_gatedBy (scene : Scene) (sink : Sink) (target : ViewId)
    (givenView : Option ViewId) (attributes : List Attribute) :
    Model.finishAll ((settings.gatedBy horizontal vertical).scope scene) sink target givenView
        attributes =
      Model.finishAll (settings.scope scene) sink target givenView attributes := by
  induction attributes with
  | nil => rfl
  | cons leftAttribute rest inner =>
    rw [Model.finishAll, inner]
    rfl

/-- What a directive comes to does not depend on the size classes of the environment. -/
theorem Settings.establishment_gatedBy (scene : Scene) :
    ((settings.gatedBy horizontal vertical).scope scene).establishment =
      (settings.scope scene).establishment := by
  funext sink target directive
  have steps : ∀ sink, Model.establishSteps ((settings.gatedBy horizontal vertical).scope scene)
      sink target = Model.establishSteps (settings.scope scene) sink target := by
    intro sink
    simp only [Model.establishSteps, finishAll_gatedBy]
    rfl
  simp only [Scope.establishment, Model.establishTo, steps]

namespace Scene

theorem forest_updateEnvironment (scene : Scene) (environment : SizeClasses) :
    (scene.updateEnvironment environment).forest = scene.forest := by
  unfold updateEnvironment
  split <;> rfl

theorem index_updateEnvironment (scene : Scene) (environment : SizeClasses) :
    (scene.updateEnvironment environment).index = scene.index := by
  unfold updateEnvironment
  split <;> rfl

end Scene

namespace Pass

variable {pass other : Pass} {sink : Sink}

/-- Two passes that differ in the environment only. -/
structure Regated (environment : SizeClasses) (pass other : Pass) : Prop where
  recorded : pass.scene.Recorded
  scene : other.scene = pass.scene.updateEnvironment environment
  notices : noticesOf other.events = noticesOf pass.events
  constraints : other.constraints = pass.constraints
  failure : other.failure = pass.failure

/-- Establishing does not look at the environment. -/
theorem Regated.establishment_eq (regated : Regated environment pass other) :
    ((settings.gatedBy horizontal vertical).scope other.scene).establishment =
      (settings.scope pass.scene).establishment := by
  rw [Settings.establishment_gatedBy, regated.scene, Settings.scope, Settings.scope,
    Scene.forest_updateEnvironment, Scene.index_updateEnvironment]

/-- A task does the same in both, whether it can be done or not. -/
theorem Regated.perform (truthy : sink.isTruthy = true) (regated : Regated environment pass other)
    (task : Task) :
    Regated environment (perform settings sink pass task)
      (perform (settings.gatedBy horizontal vertical) sink other task) := by
  cases unfailed : pass.failure with
  | some fault =>
    rw [perform_of_failed unfailed, perform_of_failed (regated.failure.trans unfailed)]
    exact regated
  | none =>
    have same := @Regated.establishment_eq settings horizontal vertical _ _ _ regated
    have steps : task.steps ((settings.gatedBy horizontal vertical).scope other.scene) sink =
        task.steps (settings.scope pass.scene) sink := by
      cases task <;> simp only [Task.steps, same]
    have failure : task.failure ((settings.gatedBy horizontal vertical).scope other.scene) sink =
        task.failure (settings.scope pass.scene) sink := by
      cases task <;> simp only [Task.failure, same]
    rw [perform_eq truthy unfailed, perform_eq truthy (regated.failure.trans unfailed), steps,
      failure]
    exact {
      recorded := regated.recorded.emitAll _
      scene := by
        simp only [follow, regated.scene]
        exact (Scene.updateEnvironment_emitAll regated.recorded _ _).symm
      notices := by
        refine (noticesOf_follow ..).trans (.trans ?_ (noticesOf_follow ..).symm)
        rw [regated.notices]
      constraints := by
        simp only [follow, regated.constraints]
      failure := rfl }

/-- So do all tasks. -/
theorem Regated.foldl_perform (truthy : sink.isTruthy = true)
    (regated : Regated environment pass other) (tasks : List Task) :
    Regated environment (tasks.foldl (Pass.perform settings sink) pass)
      (tasks.foldl (Pass.perform (settings.gatedBy horizontal vertical) sink) other) := by
  induction tasks generalizing pass other with
  | nil => exact regated
  | cons task rest inner => exact inner (regated.perform truthy task)

end Pass

/-- Two outcomes that differ in the environment only: once it is changed after the first pass,
all is as after the second one. -/
structure Outcome.Regates {ε : Type} (environment : SizeClasses) (first second : Outcome ε) :
    Prop where
  scene : second.scene = first.scene.updateEnvironment environment
  result : second.result = first.result
  notices : noticesOf second.events = noticesOf first.events

namespace Pass

variable {pass other : Pass} {sink : Sink} {scene : Scene}

/-- Two passes that differ in the environment only end so. -/
theorem Regated.close (regated : Regated environment pass other) (sink : Sink) (views : Nat) :
    (close sink views pass).Regates environment (close sink views other) := by
  unfold Pass.close
  rw [regated.failure]
  cases pass.failure with
  | some fault => exact ⟨regated.scene, rfl, regated.notices⟩
  | none =>
    refine ⟨regated.scene, ?_, ?_⟩
    · simp only [regated.constraints, regated.notices]
    · simp only [noticesOf_compiled, regated.notices]

/-- The hierarchy of a pass does not depend on the emitter. -/
theorem hierarchy_withEmitter (document : Document) (root : ViewId) (scene : Scene)
    (emitter : Emitter) :
    hierarchy document root (scene.withEmitter emitter) =
      (hierarchy document root scene).withEmitter emitter :=
  Scene.buildHierarchy_withEmitter
    { scene with index := scene.index.put (scene.forest.nameOf root) root } emitter root
    document.root

/-- Two passes over scenes that differ in the environment only start so. -/
theorem regated_started (unapplied : scene.Unapplied) (settings : Settings)
    (horizontal vertical : SizeClassKey) (document : Document) (root : ViewId)
    (start environment : SizeClasses) :
    Regated environment (started settings document root (scene.renewed start))
      (started (settings.gatedBy horizontal vertical) document root
        (scene.renewed environment)) where
  recorded := recorded_hierarchy document root (unapplied.recorded start)
  scene := by
    simp only [started, report, Scene.renewed, hierarchy_withEmitter]
    rfl
  notices := by
    simp only [started_eq, Scene.renewed, hierarchy_withEmitter]
    rfl
  constraints := rfl
  failure := by
    simp only [started, report, Scene.renewed, hierarchy_withEmitter]
    rfl

/-- Compiling in one environment and changing it to another one is compiling in that one. -/
theorem compile_regates (unapplied : scene.Unapplied) (settings : Settings)
    (horizontal vertical : SizeClassKey) (document : Document) (root : ViewId)
    (start environment : SizeClasses) :
    (compile settings document root (scene.renewed start)).Regates environment
      (compile (settings.gatedBy horizontal vertical) document root
        (scene.renewed environment)) := by
  have regated := regated_started unapplied settings horizontal vertical document root start
    environment
  have built : (hierarchy document root (scene.renewed environment)).built =
      (hierarchy document root (scene.renewed start)).built := by
    simp only [Scene.renewed, hierarchy_withEmitter]
    rfl
  have tasks : tasks document root (scene.renewed environment) =
      tasks document root (scene.renewed start) := by
    rw [Pass.tasks, Pass.tasks, built]
  rw [compile_eq_close, compile_eq_close, tasks, built]
  exact (regated.foldl_perform settings.isTruthy_passSink _).close _ _

end Pass

/-- Reading in front changes nothing of how two outcomes differ. -/
theorem Outcome.Regates.ofReading {first second : Outcome PassError}
    (regates : first.Regates environment second) (sink : Sink) (told : List Diagnostic) :
    (first.ofReading sink told).Regates environment (second.ofReading sink told) := by
  have notices : ∀ before : List Event,
      noticesOf (before ++ second.events) = noticesOf (before ++ first.events) := by
    intro before
    rw [Pass.noticesOf_append, Pass.noticesOf_append, regates.notices]
  refine ⟨regates.scene, ?_, notices _⟩
  simp only [Outcome.ofReading, regates.result, notices]

/-- Reading a source and compiling it does the same in all environments. -/
theorem compileSource_regates {scene : Scene} (unapplied : scene.Unapplied) (settings : Settings)
    (horizontal vertical : SizeClassKey) (source : Value) (root : ViewId)
    (start environment : SizeClasses) :
    (compileSource settings source root (scene.renewed start)).Regates environment
      (compileSource (settings.gatedBy horizontal vertical) source root
        (scene.renewed environment)) := by
  have same : (settings.gatedBy horizontal vertical).read source = settings.read source := rfl
  cases read : (settings.read source).value with
  | error fault =>
    rw [compileSource_of_unread read, compileSource_of_unread (by rwa [same])]
    exact ⟨rfl, rfl, rfl⟩
  | ok document =>
    rw [compileSource_of_read read, compileSource_of_read (by rwa [same])]
    have unindexed : Scene.Unapplied { scene with index := [] } := unapplied
    exact (Pass.compile_regates unindexed settings.inSource horizontal vertical document root start
      environment).ofReading _ _

/-- What a scene without applied constraints comes to does not depend on the environments that
its emitter has had. -/
structure Scene.Gates (scene : Scene) : Prop where
  /-- After any calls a scene is as if its emitter had had the last environment from the start. -/
  calls : ∀ start calls, (scene.renewed start).answerAll calls =
    (scene.renewed (Call.lastEnvironment start calls)).emitAll (Call.specs calls)
  /-- Its records are those of the emitted constraints, as active as that environment admits. -/
  gated : ∀ start calls,
    ((scene.renewed start).answerAll calls).Gated (Call.lastEnvironment start calls)
      (Call.specs calls)
  /-- Compiling a document in one environment and changing it is compiling it in the other one. -/
  documents : ∀ settings horizontal vertical document root start environment,
    (Pass.compile settings document root (scene.renewed start)).Regates environment
      (Pass.compile (settings.gatedBy horizontal vertical) document root
        (scene.renewed environment))
  sources : ∀ settings horizontal vertical source root start environment,
    (compileSource settings source root (scene.renewed start)).Regates environment
      (compileSource (settings.gatedBy horizontal vertical) source root
        (scene.renewed environment))

/-- **Gating by size classes has no history.** -/
theorem Scene.gates {scene : Scene} (unapplied : scene.Unapplied) : scene.Gates where
  calls := unapplied.answerAll_eq
  gated := by
    intro start calls
    rw [unapplied.answerAll_eq]
    exact unapplied.gated _ _
  documents := Pass.compile_regates unapplied
  sources := compileSource_regates unapplied

/-- Nothing is applied to the window. -/
theorem Pass.unapplied_oneView : Pass.oneView.Unapplied
  | 0 => rfl
  | _ + 1 => rfl

/-- A width of the window for environments of a size class. -/
def widthFor (sizeClass : SizeClass) : Spec where
  target := 0
  leftAttribute := .width
  relation := .equal
  comparableView := none
  rightAttribute := some .noAttribute
  constant := .zero
  multiplier := SignedMultiplier.one
  sizeClasses := ⟨sizeClass, .unspecified⟩

/-- Of two widths the one is active that was emitted before the environment came to admit it. -/
theorem Scene.gates_oneView :
    Pass.oneView.Gates ∧
      ((Pass.oneView.renewed {}).answerAll
        [.emit (widthFor .compact), .update ⟨.regular, .unspecified⟩, .emit (widthFor .regular),
          .update ⟨.compact, .unspecified⟩]).active = [widthFor .compact] := by
  have gates := Scene.gates Pass.unapplied_oneView
  refine ⟨gates, ?_⟩
  rw [(gates.gated _ _).active]
  decide

end ViewLayout
