import ViewLayout.Pass.Compile
import ViewLayout.Proofs.Constraint.Invariants
import ViewLayout.Proofs.Pass.Emission

/-!
# The agenda of a pass

Once the hierarchy is built, a pass has a list of tasks: to report what was wrong with the templates
of a view, and to establish a directive. `agenda` is that list, and `foldl_perform` says that a pass
follows the steps that every task has in the scene as it was built: no task changes anything that a
later one reads. So `compile_eq_ending` gives all that comes of a compilation by its steps.
-/

namespace ViewLayout

/-- Something that a pass does once the hierarchy is built. -/
inductive Task
  | report (diagnostic : Diagnostic)
  | establish (target : ViewId) (directive : Directive)

namespace Task

/-- The steps of a task, which tells what is wrong to a sink. -/
def steps (scope : Scope) (sink : Sink) : Task → List Step
  | report diagnostic => [.notice ⟨sink, diagnostic⟩]
  | establish target directive => (scope.establishment sink target directive).steps

/-- Why a task cannot be done. -/
def failure (scope : Scope) (sink : Sink) : Task → Option FieldError
  | report _ => none
  | establish target directive => (scope.establishment sink target directive).failure

end Task

/-- What directives come to is the same in like scenes. -/
theorem Scene.Alike.bare_scope_eq {scene other : Scene} (alike : scene.Alike other)
    (settings : Settings) : (settings.scope scene).bare = (settings.scope other).bare := by
  simp only [Scope.bare, Settings.scope, alike.forest, alike.index]

/-- Models come to the same in scenes that differ only in what was emitted. -/
theorem Scene.Alike.establishTo_eq {scene other : Scene} (alike : scene.Alike other)
    (settings : Settings) (model : Model) :
    model.establishTo (settings.scope scene) = model.establishTo (settings.scope other) := by
  funext target errors
  rw [← Scope.establishTo_bare, alike.bare_scope_eq, Scope.establishTo_bare]

/-- Establishing does not depend on what was applied before. -/
theorem Scene.Alike.establish_eq {scene other : Scene} (alike : scene.Alike other)
    (settings : Settings) (model : Model) :
    model.establish (settings.scope scene) = model.establish (settings.scope other) := by
  funext target sink
  rw [Model.establish, Model.establish, alike.establishTo_eq settings]

/-- An establishment of the pass does not depend on what was applied before. -/
theorem Scene.Alike.establishment_eq {scene other : Scene} (alike : scene.Alike other)
    (settings : Settings) :
    (settings.scope scene).establishment = (settings.scope other).establishment := by
  funext sink target directive
  exact congrFun (congrFun (alike.establishTo_eq settings _) target) sink

variable {settings : Settings} {scene other : Scene}

/-- The steps of a task do not depend on what was applied before. -/
theorem Task.steps_eq (alike : scene.Alike other) (sink : Sink) (task : Task) :
    task.steps (settings.scope scene) sink = task.steps (settings.scope other) sink := by
  cases task <;> simp only [steps, alike.establishment_eq settings]

/-- Whether a task fails does not depend on what was applied before. -/
theorem Task.failure_eq (alike : scene.Alike other) (sink : Sink) (task : Task) :
    task.failure (settings.scope scene) sink = task.failure (settings.scope other) sink := by
  cases task <;> simp only [failure, alike.establishment_eq settings]

/-- What a pass establishes for a view: the templates and the constraints of its description. -/
structure Order where
  templates : List String
  constraints : List Directive
  target : ViewId

/-- The order that a description gives for a view. -/
def Order.of (built : Description × ViewId) : Order where
  templates := built.1.templates
  constraints := built.1.constraints
  target := built.2

namespace Order

/-- The directives of an order, those of its templates first. -/
def directives (templates : Table Description) (order : Order) : List Directive :=
  (Template.expand templates [] order.templates).value ++ order.constraints

/-- The tasks of an order: to report what is wrong with its templates, and to establish its
directives. -/
def tasks (templates : Table Description) (order : Order) : List Task :=
  (Template.expand templates [] order.templates).diagnostics.map .report ++
    (order.directives templates).map (.establish order.target)

end Order

/-- The tasks of all views that were built, in order. -/
def agenda (templates : Table Description) (built : List (Description × ViewId)) : List Task :=
  (built.map Order.of).flatMap (Order.tasks templates)

namespace Pass

variable {sink : Sink} {pass : Pass}

/-- Does a task, unless the pass has failed. -/
def perform (settings : Settings) (sink : Sink) (pass : Pass) : Task → Pass
  | .report diagnostic =>
    match pass.failure with
    | some _ => pass
    | none => pass.report sink [diagnostic]
  | .establish target directive => pass.establish settings sink target directive

/-- The pass after steps. -/
def follow (pass : Pass) (steps : List Step) : Pass where
  scene := pass.scene.emitAll (steps.filterMap Step.spec?)
  events := pass.events ++ steps.flatMap pass.scene.told
  constraints := pass.constraints ++ steps.filterMap Step.spec?
  failure := pass.failure

theorem follow_nil (pass : Pass) : pass.follow [] = pass := by
  simp [follow, Scene.emitAll]

/-- Steps are followed one after the other. -/
theorem follow_append (pass : Pass) (first second : List Step) :
    pass.follow (first ++ second) = (pass.follow first).follow second := by
  have told := (Scene.alike_emitAll pass.scene (first.filterMap Step.spec?)).told_eq
  simp only [follow, List.filterMap_append, List.flatMap_append, Scene.emitAll_append, told,
    List.append_assoc]

/-- A pass that has failed does nothing more. -/
theorem perform_of_failed {fault : PassError} (failed : pass.failure = some fault) (task : Task) :
    perform settings sink pass task = pass := by
  cases task <;> simp only [perform, establish, failed]

/-- A pass that has failed does no task. -/
theorem foldl_perform_of_failed {fault : PassError} (failed : pass.failure = some fault)
    (tasks : List Task) : tasks.foldl (perform settings sink) pass = pass := by
  induction tasks with
  | nil => rfl
  | cons task rest inner => rw [List.foldl_cons, perform_of_failed failed, inner]

/-- A pass that has not failed follows the steps of a task, and fails if the task does. -/
theorem perform_eq (truthy : sink.isTruthy = true) (unfailed : pass.failure = none) (task : Task) :
    perform settings sink pass task =
      { pass.follow (task.steps (settings.scope pass.scene) sink) with
        failure := (task.failure (settings.scope pass.scene) sink).map .field } := by
  cases task with
  | report diagnostic =>
    simp only [perform, unfailed]
    simp [report, follow, Task.steps, Task.failure, Scene.emitAll, Scene.told, Step.spec?,
      List.filterMap_cons, unfailed]
  | establish target directive =>
    simp only [perform, establish, unfailed, Scene.play_eq, Scope.establish_of_isTruthy truthy]
    rfl

/-- A pass whose tasks can all be done follows their steps, each taken in the scene as it was at
first. -/
theorem foldl_perform {tasks : List Task} (truthy : sink.isTruthy = true)
    (unfailed : pass.failure = none) (alike : pass.scene.Alike scene)
    (done : ∀ task ∈ tasks, task.failure (settings.scope scene) sink = none) :
    tasks.foldl (perform settings sink) pass =
      pass.follow (tasks.flatMap (Task.steps (settings.scope scene) sink)) := by
  induction tasks generalizing pass with
  | nil => exact (follow_nil pass).symm
  | cons task rest inner =>
    have next : perform settings sink pass task =
        pass.follow (task.steps (settings.scope scene) sink) := by
      rw [perform_eq truthy unfailed, Task.failure_eq alike, done task List.mem_cons_self,
        Task.steps_eq alike]
      simp only [follow, unfailed, Option.map_none]
    rw [List.foldl_cons, List.flatMap_cons, follow_append, next]
    exact inner unfailed ((Scene.alike_emitAll ..).trans alike)
      fun other member => done other (List.mem_cons_of_mem _ member)

/-- Tasks change nothing that directives read, whether they can be done or not. -/
theorem alike_foldl_perform (truthy : sink.isTruthy = true) (tasks : List Task) (pass : Pass) :
    (tasks.foldl (perform settings sink) pass).scene.Alike pass.scene := by
  induction tasks generalizing pass with
  | nil => exact ⟨rfl, rfl, rfl⟩
  | cons task rest inner =>
    refine (inner _).trans ?_
    cases unfailed : pass.failure with
    | some fault =>
      rw [perform_of_failed unfailed]
      exact ⟨rfl, rfl, rfl⟩
    | none =>
      rw [perform_eq truthy unfailed]
      exact Scene.alike_emitAll ..

/-- A pass fails with the first task that cannot be done, and on nothing else. -/
theorem failure_foldl {tasks : List Task} (truthy : sink.isTruthy = true)
    (unfailed : pass.failure = none)
    (alike : pass.scene.Alike scene) :
    (tasks.foldl (perform settings sink) pass).failure =
      (tasks.findSome? (Task.failure (settings.scope scene) sink)).map .field := by
  induction tasks generalizing pass with
  | nil => exact unfailed
  | cons task rest inner =>
    have next := @perform_eq settings sink pass truthy unfailed task
    rw [List.foldl_cons, List.findSome?_cons, ← Task.failure_eq alike]
    cases failed : task.failure (settings.scope pass.scene) sink with
    | some fault =>
      have stopped : (perform settings sink pass task).failure = some (.field fault) := by
        rw [next, failed, Option.map_some]
      rw [foldl_perform_of_failed stopped, stopped]
      rfl
    | none =>
      have going : (perform settings sink pass task).failure = none := by
        rw [next, failed, Option.map_none]
      have still : (perform settings sink pass task).scene.Alike scene := by
        rw [next]
        exact (Scene.alike_emitAll ..).trans alike
      exact inner going still

/-- In a pass that did not fail all tasks could be done. -/
theorem failure_eq_none_of_foldl {tasks : List Task} (truthy : sink.isTruthy = true)
    (unfailed : pass.failure = none)
    (alike : pass.scene.Alike scene)
    (finished : (tasks.foldl (perform settings sink) pass).failure = none) :
    ∀ task ∈ tasks, task.failure (settings.scope scene) sink = none := by
  rw [failure_foldl truthy unfailed alike, Option.map_eq_none_iff] at finished
  exact List.findSome?_eq_none_iff.1 finished

/-- What tasks do depends on no event before them. -/
theorem foldl_perform_events (settings : Settings) (truthy : sink.isTruthy = true) (pass : Pass)
    (tasks : List Task) :
    ∃ (next : Pass) (told : List Event), ∀ events,
      tasks.foldl (perform settings sink) { pass with events } =
        { next with events := events ++ told } := by
  induction tasks generalizing pass with
  | nil => exact ⟨pass, [], fun events => by rw [List.append_nil]; rfl⟩
  | cons task rest inner =>
    have first : ∃ (middle : Pass) (told : List Event), ∀ events,
        perform settings sink { pass with events } task =
          { middle with events := events ++ told } := by
      obtain unfailed | ⟨fault, failed⟩ := Option.eq_none_or_eq_some pass.failure
      · refine ⟨perform settings sink pass task,
          (task.steps (settings.scope pass.scene) sink).flatMap pass.scene.told, fun events => ?_⟩
        have still : ({ pass with events } : Pass).failure = none := unfailed
        rw [perform_eq truthy still, perform_eq truthy unfailed]
        rfl
      · refine ⟨pass, [], fun events => ?_⟩
        have still : ({ pass with events } : Pass).failure = some fault := failed
        rw [perform_of_failed still, List.append_nil]
    obtain ⟨middle, told, performed⟩ := first
    obtain ⟨next, more, done⟩ := inner middle
    refine ⟨next, told ++ more, fun events => ?_⟩
    rw [List.foldl_cons, performed, done, List.append_assoc]

/-- The tasks of a view are what establishing its constraints does. -/
theorem establishView_eq (templates : Table Description) (entry : Description × ViewId) :
    establishView settings sink templates pass entry =
      ((Order.of entry).tasks templates).foldl (perform settings sink) pass := by
  unfold establishView
  cases unfailed : pass.failure with
  | some fault => exact (foldl_perform_of_failed unfailed _).symm
  | none =>
    have reports : ∀ (diagnostics : List Diagnostic) {start : Pass}, start.failure = none →
        (diagnostics.map Task.report).foldl (perform settings sink) start =
          start.report sink diagnostics := by
      intro diagnostics
      induction diagnostics with
      | nil =>
        intro start _
        simp [report]
      | cons diagnostic rest inner =>
        intro start going
        have first : perform settings sink start (.report diagnostic) =
            start.report sink [diagnostic] := by
          simp only [perform, going]
        have after : (start.report sink [diagnostic]).failure = none := going
        rw [List.map_cons, List.foldl_cons, first, inner after]
        simp [report]
    simp only [Order.tasks, Order.of, Order.directives, List.foldl_append, reports _ unfailed,
      List.foldl_map]
    rfl

/-- Establishing view by view is doing the tasks of all views. -/
theorem foldl_establishView (templates : Table Description) (built : List (Description × ViewId)) :
    built.foldl (establishView settings sink templates) pass =
      (agenda templates built).foldl (perform settings sink) pass := by
  rw [agenda, List.foldl_flatMap, List.foldl_map]
  exact congrArg (fun step => built.foldl step pass)
    (funext fun pass => funext fun entry => establishView_eq templates entry)

theorem noticesOf_append (first second : List Event) :
    noticesOf (first ++ second) = noticesOf first ++ noticesOf second :=
  List.filterMap_append ..

theorem noticesOf_reported (sink : Sink) (diagnostics : List Diagnostic) :
    noticesOf (diagnostics.map fun diagnostic => .reported ⟨sink, diagnostic⟩) =
      diagnostics.map fun diagnostic => ⟨sink, diagnostic⟩ := by
  simp [noticesOf, Event.notice?, List.filterMap_map, Function.comp_def]

/-- The notices of what is told are those among the steps. -/
theorem noticesOf_told (scene : Scene) (steps : List Step) :
    noticesOf (steps.flatMap scene.told) = steps.filterMap Step.notice? := by
  induction steps with
  | nil => rfl
  | cons step rest inner =>
    rw [List.flatMap_cons, noticesOf, List.filterMap_append]
    have later : (rest.flatMap scene.told).filterMap Event.notice? =
        rest.filterMap Step.notice? := inner
    cases step with
    | notice notice => simp [Scene.told, Event.notice?, Step.notice?, later]
    | spec spec =>
      have silent : (scene.emit spec).2.filterMap Event.notice? = [] := by
        unfold Scene.emit
        split <;> simp [Event.notice?]
      simp [Scene.told, Step.notice?, List.filterMap_cons, later, silent]

/-- Following steps tells the notices among them. -/
theorem noticesOf_follow (pass : Pass) (steps : List Step) :
    noticesOf (pass.follow steps).events =
      noticesOf pass.events ++ steps.filterMap Step.notice? := by
  rw [follow, noticesOf_append, noticesOf_told]

/-- The summary at the end of a pass is no notice. -/
theorem noticesOf_compiled (events : List Event) (views constraints errors : Nat) :
    noticesOf (events ++ [.compiled views constraints errors]) = noticesOf events := by
  simp [noticesOf, Event.notice?]

/-- A sink receives all that gets to it. -/
theorem received_eq_map {notices : List Notice}
    (reached : ∀ notice ∈ notices, notice.sink.reaches sink = true) :
    received sink notices = notices.map Notice.diagnostic := by
  induction notices with
  | nil => rfl
  | cons notice rest inner =>
    have later := inner fun other member => reached other (List.mem_cons_of_mem _ member)
    simp only [received, List.filterMap_cons, reached notice List.mem_cons_self, ↓reduceIte,
      List.map_cons] at later ⊢
    rw [later]

/-- What is reported to a sink first is received first. -/
theorem received_reported (sink : Sink) (diagnostics : List Diagnostic) (events : List Event) :
    received sink (noticesOf
        ((diagnostics.map fun diagnostic => .reported ⟨sink, diagnostic⟩) ++ events)) =
      diagnostics ++ received sink (noticesOf events) := by
  rw [noticesOf_append, noticesOf_reported, received_append, received_eq_map (by simp),
    List.map_map]
  simp [Function.comp_def]

/-- All that a task tells goes to the sink of the pass, whether it can be done or not. -/
theorem sink_eq_of_mem_steps {scope : Scope} {task : Task} {notice : Notice}
    (told : .notice notice ∈ task.steps scope sink) : notice.sink = sink := by
  cases task with
  | report diagnostic =>
    simp only [Task.steps, List.mem_singleton, Step.notice.injEq] at told
    rw [told]
  | establish target directive => exact Scope.sink_eq_of_mem_establishment told

/-- All that is told while tasks are done was told before or is told by one of them, whether
they can be done or not. -/
theorem mem_noticesOf_foldl_perform {tasks : List Task} {notice : Notice}
    (truthy : sink.isTruthy = true) (alike : pass.scene.Alike scene)
    (member : notice ∈ noticesOf (tasks.foldl (perform settings sink) pass).events) :
    notice ∈ noticesOf pass.events ∨
      ∃ task ∈ tasks, .notice notice ∈ task.steps (settings.scope scene) sink := by
  induction tasks generalizing pass with
  | nil => exact .inl member
  | cons task rest inner =>
    have next : (perform settings sink pass task).scene.Alike scene :=
      (alike_foldl_perform truthy [task] pass).trans alike
    rcases inner next member with here | ⟨later, listed, told⟩
    · cases unfailed : pass.failure with
      | some fault =>
        rw [perform_of_failed unfailed] at here
        exact .inl here
      | none =>
        rw [perform_eq truthy unfailed] at here
        change notice ∈ noticesOf (pass.follow _).events at here
        rw [noticesOf_follow, Task.steps_eq alike] at here
        rcases List.mem_append.1 here with before | now
        · exact .inl before
        · exact .inr ⟨task, List.mem_cons_self, mem_filterMap_notice?_iff.1 now⟩
    · exact .inr ⟨later, List.mem_cons_of_mem _ listed, told⟩

variable (settings : Settings) (document : Document) (root : ViewId) (scene : Scene)

/-- The hierarchy of a pass when only its root view was settled. -/
def opened : Building :=
  Building.settle
    { scene := { scene with index := scene.index.put (scene.forest.nameOf root) root } }
    document.root root

/-- The hierarchy that a pass builds: the root view is known by its name. -/
def hierarchy : Building :=
  ({ scene with index := scene.index.put (scene.forest.nameOf root) root } : Scene).buildHierarchy
    root document.root

/-- The tasks of a pass, in their order. -/
def tasks : List Task :=
  agenda document.templates (hierarchy document root scene).built

/-- What the directives of a pass are resolved in: the hierarchy and the names as they were
built. -/
def scope : Scope :=
  settings.scope (hierarchy document root scene).scene

/-- The steps of all tasks of a pass. -/
def steps : List Step :=
  (tasks document root scene).flatMap
    (Task.steps (scope settings document root scene) settings.passSink)

/-- Whether the hierarchy can be built and all tasks can be done. -/
structure Done : Prop where
  built : (hierarchy document root scene).failure = none
  tasks : ∀ task ∈ tasks document root scene,
    task.failure (scope settings document root scene) settings.passSink = none

/-- The pass once the hierarchy is built. -/
def started : Pass :=
  report
    { scene := (hierarchy document root scene).scene
      failure := (hierarchy document root scene).failure.map .hierarchy }
    settings.passSink (hierarchy document root scene).diagnostics

/-- What comes of a pass of so many views at its end. -/
def close (sink : Sink) (views : Nat) (pass : Pass) : Outcome PassError :=
  match pass.failure with
  | some fault => ⟨pass.scene, pass.events, .error fault⟩
  | none =>
    let layout : Layout := ⟨pass.constraints, received sink (noticesOf pass.events)⟩
    let summary : Event := .compiled views layout.constraints.length (errorCount layout.diagnostics)
    ⟨pass.scene, pass.events ++ [summary], .ok layout⟩

/-- The layout of a hierarchy and the steps of its tasks. -/
def layoutOf (building : Building) (steps : List Step) : Layout where
  constraints := steps.filterMap Step.spec?
  diagnostics := building.diagnostics ++ (steps.filterMap Step.notice?).map Notice.diagnostic

/-- How a pass ends by its hierarchy and the steps of its tasks. -/
def ending (sink : Sink) (building : Building) (steps : List Step) : Outcome PassError where
  scene := building.scene.emitAll (steps.filterMap Step.spec?)
  events := building.diagnostics.map (fun diagnostic => .reported ⟨sink, diagnostic⟩) ++
    steps.flatMap building.scene.told ++
    [.compiled building.built.length (layoutOf building steps).constraints.length
      (errorCount (layoutOf building steps).diagnostics)]
  result := .ok (layoutOf building steps)

variable {settings document root scene}

/-- A compilation does its tasks. -/
theorem compile_eq_close :
    compile settings document root scene =
      close settings.passSink (hierarchy document root scene).built.length
        ((tasks document root scene).foldl (perform settings settings.passSink)
          (started settings document root scene)) := by
  rw [tasks, ← foldl_establishView]
  rfl

/-- A compilation leaves the hierarchy as it was built, whether it returns or not. -/
theorem alike_compile (settings : Settings) (document : Document) (root : ViewId) (scene : Scene) :
    (compile settings document root scene).scene.Alike (hierarchy document root scene).scene := by
  have ended (sink : Sink) (views : Nat) (pass : Pass) :
      (close sink views pass).scene = pass.scene := by
    unfold close
    split <;> rfl
  rw [compile_eq_close, ended]
  exact alike_foldl_perform settings.isTruthy_passSink ..

/-- A compilation that returns has done all its tasks. -/
theorem done_of_compile {layout : Layout}
    (returned : (compile settings document root scene).result = .ok layout) :
    Done settings document root scene := by
  rw [compile_eq_close, close] at returned
  have ended : ((tasks document root scene).foldl (perform settings settings.passSink)
      (started settings document root scene)).failure = none := by
    split at returned
    · contradiction
    · assumption
  have built : (hierarchy document root scene).failure = none := by
    cases failed : (hierarchy document root scene).failure with
    | none => rfl
    | some fault =>
      have stopped : (started settings document root scene).failure = some (.hierarchy fault) := by
        simp only [started, report, failed, Option.map_some]
      rw [foldl_perform_of_failed stopped, stopped] at ended
      contradiction
  have going : (started settings document root scene).failure = none := by
    simp only [started, report, built, Option.map_none]
  exact ⟨built, failure_eq_none_of_foldl settings.isTruthy_passSink going ⟨rfl, rfl, rfl⟩ ended⟩

/-- A compilation of a hierarchy that can be built fails only on a directive. -/
theorem failure_of_compile {fault : PassError}
    (built : (hierarchy document root scene).failure = none)
    (failed : (compile settings document root scene).result = .error fault) :
    ∃ task ∈ tasks document root scene, ∃ cause,
      task.failure (scope settings document root scene) settings.passSink = some cause ∧
        fault = .field cause := by
  have going : (started settings document root scene).failure = none := by
    simp only [started, report, built, Option.map_none]
  have alike : (started settings document root scene).scene.Alike
      (hierarchy document root scene).scene := ⟨rfl, rfl, rfl⟩
  rw [compile_eq_close, close, failure_foldl settings.isTruthy_passSink going alike] at failed
  cases first : (tasks document root scene).findSome?
      (Task.failure (scope settings document root scene) settings.passSink) with
  | none =>
    rw [scope] at first
    simp only [first, Option.map_none] at failed
    cases failed
  | some cause =>
    obtain ⟨task, member, same⟩ := List.exists_of_findSome?_eq_some first
    rw [scope] at first
    simp only [first, Option.map_some] at failed
    cases failed
    exact ⟨task, member, cause, same, rfl⟩

/-- A compilation starts with the hierarchy and what it reported. -/
theorem started_eq :
    started settings document root scene =
      { scene := (hierarchy document root scene).scene
        events := (hierarchy document root scene).diagnostics.map fun diagnostic =>
          .reported ⟨settings.passSink, diagnostic⟩
        failure := (hierarchy document root scene).failure.map .hierarchy } := by
  simp [started, report]

/-- A pass that followed steps told all that they report to its sink. -/
theorem received_follow_started {steps : List Step}
    (sunk : ∀ notice ∈ steps.filterMap Step.notice?, notice.sink = settings.passSink) :
    received settings.passSink
        (noticesOf ((started settings document root scene).follow steps).events) =
      (layoutOf (hierarchy document root scene) steps).diagnostics := by
  rw [started_eq, follow, received_reported, noticesOf_told, received_eq_map]
  · rfl
  · intro notice member
    rw [sunk notice member, Sink.reaches_self]

/-- **A compilation whose tasks can be done ends with their steps.** -/
theorem compile_eq_ending (done : Done settings document root scene) :
    compile settings document root scene =
      ending settings.passSink (hierarchy document root scene)
        (steps settings document root scene) := by
  have going : (started settings document root scene).failure = none := by
    simp only [started, report, done.built, Option.map_none]
  have alike : (started settings document root scene).scene.Alike
      (hierarchy document root scene).scene := ⟨rfl, rfl, rfl⟩
  have followed : (tasks document root scene).foldl (perform settings settings.passSink)
      (started settings document root scene) =
        (started settings document root scene).follow (steps settings document root scene) :=
    foldl_perform settings.isTruthy_passSink going alike done.tasks
  have sunk : ∀ notice ∈ (steps settings document root scene).filterMap Step.notice?,
      notice.sink = settings.passSink := by
    intro notice member
    obtain ⟨task, _, told⟩ := List.mem_flatMap.1 (mem_filterMap_notice?_iff.1 member)
    exact sink_eq_of_mem_steps told
  have ended : ((started settings document root scene).follow
      (steps settings document root scene)).failure = none := going
  rw [compile_eq_close, followed, close]
  simp only [ended, received_follow_started sunk]
  rfl

/-- A compilation that returns gives the layout of its steps. -/
theorem eq_layoutOf_of_compile {layout : Layout}
    (returned : (compile settings document root scene).result = .ok layout) :
    layout = layoutOf (hierarchy document root scene) (steps settings document root scene) := by
  rw [compile_eq_ending (done_of_compile returned)] at returned
  exact (Except.ok.inj returned).symm

/-- All that a compilation tells is found while the hierarchy is built or by a task, whether it
returns or not. -/
theorem mem_noticesOf_compile {notice : Notice}
    (member : notice ∈ noticesOf (compile settings document root scene).events) :
    (notice.sink = settings.passSink ∧
        notice.diagnostic ∈ (hierarchy document root scene).diagnostics) ∨
      ∃ task ∈ tasks document root scene,
        .notice notice ∈
          task.steps (scope settings document root scene) settings.passSink := by
  have closed (views : Nat) (pass : Pass) :
      noticesOf (close settings.passSink views pass).events = noticesOf pass.events := by
    unfold close
    split
    · rfl
    · exact noticesOf_compiled ..
  have alike : (started settings document root scene).scene.Alike
      (hierarchy document root scene).scene := ⟨rfl, rfl, rfl⟩
  rw [compile_eq_close, closed] at member
  refine Or.imp_left (fun earlier => ?_)
    (mem_noticesOf_foldl_perform settings.isTruthy_passSink alike member)
  rw [started_eq, noticesOf_reported] at earlier
  obtain ⟨diagnostic, told, rfl⟩ := List.mem_map.1 earlier
  exact ⟨rfl, told⟩

/-- A pass leaves its hierarchy with the constraints of its layout. -/
theorem scene_of_compile {layout : Layout}
    (returned : (compile settings document root scene).result = .ok layout) :
    (compile settings document root scene).scene =
      (hierarchy document root scene).scene.emitAll layout.constraints := by
  rw [eq_layoutOf_of_compile returned, compile_eq_ending (done_of_compile returned)]
  rfl

end Pass

/-- What comes of a pass whose document was read before, with the diagnostics of that. -/
def Outcome.ofReading (sink : Sink) (told : List Diagnostic) (outcome : Outcome PassError) :
    Outcome CompileError :=
  let events := (told.map fun diagnostic => .reported ⟨sink, diagnostic⟩) ++ outcome.events
  { scene := outcome.scene
    events
    result :=
      match outcome.result with
      | .error fault => .error (.pass fault)
      | .ok layout => .ok { layout with diagnostics := received sink (noticesOf events) } }

variable {settings : Settings} {source : Value} {scene : Scene}

/-- A source that cannot be read is not compiled. -/
theorem compileSource_of_unread {fault : DocumentError}
    (unread : (settings.read source).value = .error fault) (root : ViewId) :
    compileSource settings source root scene =
      ⟨scene,
        (settings.read source).diagnostics.map fun diagnostic =>
          .reported ⟨settings.sourceSink, diagnostic⟩,
        .error (.document fault)⟩ := by
  simp only [compileSource, unread]

/-- A source that is read is compiled with an empty index. -/
theorem compileSource_of_read {document : Document}
    (read : (settings.read source).value = .ok document) (root : ViewId) :
    compileSource settings source root scene =
      (Pass.compile settings.inSource document root
        { scene with index := [] }).ofReading settings.sourceSink
        (settings.read source).diagnostics := by
  cases ended : (Pass.compile settings.inSource document root
      { scene with index := [] }).result <;>
    simp only [compileSource, read, Outcome.ofReading, ended]

/-- The layout of a source has the constraints of its pass, and the diagnostics that were told to
the sink from the start. -/
theorem result_of_read {document : Document} {root : ViewId} {inner : Layout}
    (read : (settings.read source).value = .ok document)
    (ended : (Pass.compile settings.inSource document root
      { scene with index := [] }).result = .ok inner) :
    (compileSource settings source root scene).result =
      .ok { inner with
        diagnostics := received settings.sourceSink
          (noticesOf (compileSource settings source root scene).events) } := by
  rw [compileSource_of_read read]
  simp only [Outcome.ofReading, ended]

/-- A source that is compiled was read, and its pass returned the same constraints. -/
theorem pass_of_compileSource {root : ViewId} {layout : Layout}
    (returned : (compileSource settings source root scene).result = .ok layout) :
    ∃ document inner,
      (settings.read source).value = .ok document ∧
        (Pass.compile settings.inSource document root
          { scene with index := [] }).result = .ok inner ∧
          layout.constraints = inner.constraints := by
  cases read : (settings.read source).value with
  | error fault =>
    rw [compileSource_of_unread read] at returned
    cases returned
  | ok document =>
    cases ended : (Pass.compile settings.inSource document root
        { scene with index := [] }).result with
    | error fault =>
      rw [compileSource_of_read read] at returned
      simp only [Outcome.ofReading, ended] at returned
      cases returned
    | ok inner =>
      rw [result_of_read read ended] at returned
      cases returned
      exact ⟨document, inner, rfl, ended, rfl⟩

end ViewLayout
