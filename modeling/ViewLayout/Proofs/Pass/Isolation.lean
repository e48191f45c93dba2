import ViewLayout.Proofs.Constraint.Echo
import ViewLayout.Proofs.Pass.Deletion
import ViewLayout.Proofs.Pass.Records

/-!
# Isolation of directives

A compilation that returns gives what each directive comes to by itself, in the hierarchy and with
the names as they were built, one after the other. So a directive with a fault costs nothing but
itself, and one that is deleted takes along its own constraints, records and diagnostics and nothing
else.
-/

namespace ViewLayout

section Parts

variable {scope : Scope} {sink : Sink} {templates : Table Description}

/-- The specs of an order are those of its directives. -/
theorem Order.specs_tasks (order : Order) :
    ((order.tasks templates).flatMap (Task.steps scope sink)).filterMap Step.spec? =
      (order.directives templates).flatMap (scope.specsOf order.target) := by
  have reports (diagnostics : List Diagnostic) :
      ((diagnostics.map Task.report).flatMap (Task.steps scope sink)).filterMap Step.spec? =
        [] := by
    induction diagnostics with
    | nil => rfl
    | cons diagnostic rest inner =>
      rw [List.map_cons, List.flatMap_cons, List.filterMap_append, inner]
      rfl
  rw [tasks, List.flatMap_append, List.filterMap_append, reports, List.nil_append,
    List.flatMap_map, List.filterMap_flatMap]
  refine congrArg (List.flatMap · _) (funext fun directive => ?_)
  exact scope.specs_establishment sink order.target directive

/-- The diagnostics of an order are those of its templates and of its directives. -/
theorem Order.diagnostics_tasks (order : Order) :
    (((order.tasks templates).flatMap (Task.steps scope sink)).filterMap Step.notice?).map
        Notice.diagnostic =
      (Template.expand templates [] order.templates).diagnostics ++
        (order.directives templates).flatMap (scope.diagnosticsOf order.target) := by
  have reports : ∀ diagnostics : List Diagnostic,
      (((diagnostics.map Task.report).flatMap (Task.steps scope sink)).filterMap
        Step.notice?).map Notice.diagnostic = diagnostics := by
    intro diagnostics
    induction diagnostics with
    | nil => rfl
    | cons diagnostic rest inner =>
      rw [List.map_cons, List.flatMap_cons, List.filterMap_append, List.map_append, inner]
      rfl
  rw [tasks, List.flatMap_append, List.filterMap_append, List.map_append, reports,
    List.flatMap_map, List.filterMap_flatMap, List.map_flatMap]
  refine congrArg (_ ++ List.flatMap · _) (funext fun directive => ?_)
  exact scope.diagnostics_establishment sink order.target directive

/-- The tasks of orders that lack a directive lack the task of establishing it. -/
theorem Order.Lack.tasks {removed : Directive} {orders fewer : List Order}
    (lack : Lack removed orders fewer) (templates : Table Description) :
    orders.length = fewer.length ∧
      (orders.flatMap (Order.tasks templates) = fewer.flatMap (Order.tasks templates) ∨
        ∃ order ∈ orders, removed ∈ order.constraints ∧ ∃ before after,
          orders.flatMap (Order.tasks templates) =
              before ++ .establish order.target removed :: after ∧
            fewer.flatMap (Order.tasks templates) = before ++ after) := by
  cases lack with
  | nothing => exact ⟨rfl, .inl rfl⟩
  | directive before after templates' earlier later target =>
    refine ⟨by simp, .inr ⟨⟨templates', earlier ++ removed :: later, target⟩, by simp, by simp,
      before.flatMap (Order.tasks templates) ++
        (Template.expand templates [] templates').diagnostics.map .report ++
        (Template.expand templates [] templates').value.map (.establish target) ++
        earlier.map (.establish target),
      later.map (.establish target) ++ after.flatMap (Order.tasks templates), ?_, ?_⟩⟩
    · simp [Order.tasks, Order.directives]
    · simp [Order.tasks, Order.directives]

end Parts

namespace Pass

/-- An outcome of a pass, and one that lacks a part of it: the constraints, records and
diagnostics of one directive. Both passes had the same hierarchy. -/
structure Removal (base : Scene) (whole fewer : Outcome PassError) (before own after : List Spec)
    (earlier told later : List Diagnostic) : Prop where
  whole_result : whole.result = .ok ⟨before ++ own ++ after, earlier ++ told ++ later⟩
  fewer_result : fewer.result = .ok ⟨before ++ after, earlier ++ later⟩
  whole_emitted : whole.scene.emitted = base.emitted ++ base.records (before ++ own ++ after)
  fewer_emitted : fewer.scene.emitted = base.emitted ++ base.records (before ++ after)
  whole_applied : ∀ id < base.forest.size,
    whole.scene.applied id =
      base.applied id ++ base.records ((before ++ own ++ after).filter (·.target == id))
  fewer_applied : ∀ id < base.forest.size,
    fewer.scene.applied id =
      base.applied id ++ base.records ((before ++ after).filter (·.target == id))
  alike : fewer.scene.Alike whole.scene

/-- What a compilation does that returns a layout. -/
structure Isolated (settings : Settings) (document : Document) (root : ViewId) (scene : Scene)
    (layout : Layout) : Prop where
  /-- The constraints are those of all directives, view by view. -/
  constraints : layout.constraints =
    (hierarchy document root scene).built.flatMap fun entry =>
      ((Order.of entry).directives document.templates).flatMap
        ((scope settings document root scene).specsOf entry.2)
  /-- So are the diagnostics, after those of the hierarchy, and those of a view's templates come
  first. -/
  diagnostics : layout.diagnostics =
    (hierarchy document root scene).diagnostics ++
      (hierarchy document root scene).built.flatMap fun entry =>
        (Template.expand document.templates [] entry.1.templates).diagnostics ++
          ((Order.of entry).directives document.templates).flatMap
            ((scope settings document root scene).diagnosticsOf entry.2)
  /-- Every directive settles by itself. -/
  settles : ∀ entry ∈ (hierarchy document root scene).built,
    ∀ directive ∈ (Order.of entry).directives document.templates, ∃ verdicts,
      (scope settings document root scene).Settles entry.2 directive verdicts ∧
        (scope settings document root scene).specsOf entry.2 directive =
          verdicts.filterMap Verdict.spec? ∧
        ((scope settings document root scene).diagnosticsOf entry.2 directive).filter
          (·.level == .error) = verdicts.filterMap Verdict.fault?
  /-- What directives read is as it was built. -/
  alike : (compile settings document root scene).scene.Alike (hierarchy document root scene).scene
  /-- A directive that is deleted takes along what it came to, and nothing else. -/
  deletion : ∀ removed smaller, document.root.Drops removed smaller →
    compile settings { document with root := smaller } root scene =
        compile settings document root scene ∨
      ∃ entry ∈ (hierarchy document root scene).built, removed ∈ entry.1.constraints ∧
        ∃ before after earlier later,
          Removal (hierarchy document root scene).scene (compile settings document root scene)
            (compile settings { document with root := smaller } root scene)
            before ((scope settings document root scene).specsOf entry.2 removed) after
            earlier ((scope settings document root scene).diagnosticsOf entry.2 removed) later

variable {settings : Settings} {document : Document} {root : ViewId} {scene : Scene}

/-- The specs of a pass are those of its views and directives. -/
theorem specs_steps :
    (steps settings document root scene).filterMap Step.spec? =
      (hierarchy document root scene).built.flatMap fun entry =>
        ((Order.of entry).directives document.templates).flatMap
          ((scope settings document root scene).specsOf entry.2) := by
  rw [steps, tasks, agenda, List.flatMap_assoc, List.filterMap_flatMap, List.flatMap_map]
  exact congrArg (List.flatMap · _) (funext fun entry => (Order.of entry).specs_tasks)

/-- The diagnostics of a pass are those of its views and directives. -/
theorem diagnostics_steps :
    ((steps settings document root scene).filterMap Step.notice?).map Notice.diagnostic =
      (hierarchy document root scene).built.flatMap fun entry =>
        (Template.expand document.templates [] entry.1.templates).diagnostics ++
          ((Order.of entry).directives document.templates).flatMap
            ((scope settings document root scene).diagnosticsOf entry.2) := by
  rw [steps, tasks, agenda, List.flatMap_assoc, List.filterMap_flatMap, List.map_flatMap,
    List.flatMap_map]
  exact congrArg (List.flatMap · _) (funext fun entry => (Order.of entry).diagnostics_tasks)

/-- The directives of the views that were built can be read, whoever is told. -/
theorem Done.unfailed (done : Done settings document root scene) {entry : Description × ViewId}
    (built : entry ∈ (hierarchy document root scene).built) {directive : Directive}
    (given : directive ∈ (Order.of entry).directives document.templates) (sink : Sink) :
    ((scope settings document root scene).establishment sink entry.2 directive).failure = none := by
  have member : Task.establish entry.2 directive ∈ Pass.tasks document root scene := by
    refine List.mem_flatMap.2 ⟨Order.of entry, List.mem_map_of_mem built, ?_⟩
    exact List.mem_append_right _ (List.mem_map_of_mem given)
  rw [((scope settings document root scene).sayings_eq sink _ entry.2 directive).2]
  exact done.tasks _ member

/-- Building a hierarchy keeps all records in the ledger. -/
theorem recorded_hierarchy (document : Document) (root : ViewId) (recorded : scene.Recorded) :
    (hierarchy document root scene).scene.Recorded := by
  have named : Scene.Recorded
      { scene with index := scene.index.put (scene.forest.nameOf root) root } :=
    ⟨recorded.emitted, recorded.applied⟩
  exact (named.buildHierarchy root document.root).1

/-- The hierarchies of two documents, of which one lacks a directive, are the same but for it. -/
theorem hierarchy_of_drops (root : ViewId) (scene : Scene) {removed : Directive}
    {smaller : Description}
    (drops : document.root.Drops removed smaller) :
    ∃ fewer, hierarchy { document with root := smaller } root scene =
        { hierarchy document root scene with built := fewer } ∧
      Order.Lack removed ((hierarchy document root scene).built.map Order.of)
        (fewer.map Order.of) := by
  obtain ⟨next, added, others, appends, appendsFewer, lack⟩ :=
    Building.lacks_buildUnder drops root
      { scene := { scene with index := scene.index.put (scene.forest.nameOf root) root } }
  have whole : hierarchy document root scene = { next with built := added } := appends []
  have less : hierarchy { document with root := smaller } root scene =
      { next with built := others } := appendsFewer []
  refine ⟨others, ?_, ?_⟩
  · rw [less, whole]
  · rw [whole]
    exact lack

/-- The end of a pass depends on how many views were built, and not on their descriptions. -/
theorem ending_built (sink : Sink) (building : Building) {fewer : List (Description × ViewId)}
    (length : fewer.length = building.built.length) (steps : List Step) :
    ending sink { building with built := fewer } steps = ending sink building steps := by
  simp only [ending, layoutOf, length]

/-- What is left of a scene when a part of the constraints is not emitted. -/
theorem removal_ending (sink : Sink) {building : Building} (recorded : building.scene.Recorded)
    (before own after : List Step) :
    Removal building.scene (ending sink building (before ++ own ++ after))
      (ending sink building (before ++ after))
      (before.filterMap Step.spec?) (own.filterMap Step.spec?) (after.filterMap Step.spec?)
      (building.diagnostics ++ (before.filterMap Step.notice?).map Notice.diagnostic)
      ((own.filterMap Step.notice?).map Notice.diagnostic)
      ((after.filterMap Step.notice?).map Notice.diagnostic) where
  whole_result := by simp [ending, layoutOf]
  fewer_result := by simp [ending, layoutOf]
  whole_emitted := by
    rw [← List.filterMap_append, ← List.filterMap_append]
    exact Scene.emitted_emitAll recorded _
  fewer_emitted := by
    rw [← List.filterMap_append]
    exact Scene.emitted_emitAll recorded _
  whole_applied := by
    intro id inside
    rw [← List.filterMap_append, ← List.filterMap_append]
    exact Scene.applied_emitAll recorded _ inside
  fewer_applied := by
    intro id inside
    rw [← List.filterMap_append]
    exact Scene.applied_emitAll recorded _ inside
  alike := (Scene.alike_emitAll ..).trans (Scene.alike_emitAll ..).symm

/-- A directive that is deleted takes along what it came to, and nothing else. -/
theorem removal_of_drops (recorded : scene.Recorded) (done : Done settings document root scene)
    {removed : Directive} {smaller : Description}
    (drops : document.root.Drops removed smaller) :
    compile settings { document with root := smaller } root scene =
        compile settings document root scene ∨
      ∃ entry ∈ (hierarchy document root scene).built, removed ∈ entry.1.constraints ∧
        ∃ before after earlier later,
          Removal (hierarchy document root scene).scene (compile settings document root scene)
            (compile settings { document with root := smaller } root scene)
            before ((scope settings document root scene).specsOf entry.2 removed) after
            earlier ((scope settings document root scene).diagnosticsOf entry.2 removed) later := by
  obtain ⟨fewer, same, lack⟩ := hierarchy_of_drops root scene drops
  have sameScope : scope settings { document with root := smaller } root scene =
      scope settings document root scene := by
    rw [scope, scope, same]
  obtain ⟨lengths, parts⟩ := lack.tasks document.templates
  rw [List.length_map, List.length_map] at lengths
  -- The smaller document has no task that the whole one does not have.
  have doneOf : (∀ task ∈ agenda document.templates fewer, task ∈ tasks document root scene) →
      compile settings { document with root := smaller } root scene =
        ending settings.passSink (hierarchy document root scene)
          ((agenda document.templates fewer).flatMap
            (Task.steps (scope settings document root scene) settings.passSink)) := by
    intro known
    have sameTasks : tasks { document with root := smaller } root scene =
        agenda document.templates fewer := by
      rw [tasks, same]
    have smallerDone : Done settings { document with root := smaller } root scene := by
      refine ⟨?_, fun task member => ?_⟩
      · rw [same]
        exact done.built
      · rw [sameTasks] at member
        rw [sameScope]
        exact done.tasks task (known task member)
    rw [compile_eq_ending smallerDone, steps, sameTasks, sameScope, same,
      ending_built _ _ lengths.symm]
  rw [compile_eq_ending done]
  rcases parts with equal | ⟨order, given, taken, before, after, whole, less⟩
  · left
    have sameTasks : agenda document.templates fewer = tasks document root scene := equal.symm
    rw [doneOf (by simp [sameTasks]), sameTasks]
    rfl
  · right
    obtain ⟨entry, built, rfl⟩ := List.mem_map.1 given
    refine ⟨entry, built, taken, ?_⟩
    have wholeTasks : tasks document root scene = before ++ .establish entry.2 removed :: after :=
      whole
    have lessTasks : agenda document.templates fewer = before ++ after := less
    have known : ∀ task ∈ agenda document.templates fewer, task ∈ tasks document root scene := by
      intro task member
      rw [lessTasks] at member
      rw [wholeTasks]
      rcases List.mem_append.1 member with earlier | later
      · exact List.mem_append_left _ earlier
      · exact List.mem_append_right _ (List.mem_cons_of_mem _ later)
    have own : ((scope settings document root scene).establishment settings.passSink
          entry.2 removed).steps.filterMap Step.spec? =
        (scope settings document root scene).specsOf entry.2 removed :=
      Scope.specs_establishment ..
    have told : (((scope settings document root scene).establishment settings.passSink
          entry.2 removed).steps.filterMap Step.notice?).map Notice.diagnostic =
        (scope settings document root scene).diagnosticsOf entry.2 removed :=
      Scope.diagnostics_establishment ..
    have removal := removal_ending settings.passSink
      (recorded_hierarchy document root recorded)
      (before.flatMap
        (Task.steps (scope settings document root scene) settings.passSink))
      ((scope settings document root scene).establishment settings.passSink entry.2
        removed).steps
      (after.flatMap
        (Task.steps (scope settings document root scene) settings.passSink))
    rw [own, told] at removal
    rw [doneOf known, lessTasks, steps, wholeTasks, List.flatMap_append, List.flatMap_append,
      List.flatMap_cons, ← List.append_assoc]
    exact ⟨_, _, _, _, removal⟩

/-- What is applied to a view after a pass: what was before, then the records of its
constraints. -/
theorem applied_of_compile (recorded : scene.Recorded) {layout : Layout}
    (returned : (compile settings document root scene).result = .ok layout) {id : ViewId}
    (inside : id < (hierarchy document root scene).scene.forest.size) :
    (compile settings document root scene).scene.applied id =
      scene.applied id ++ scene.records (layout.constraints.filter (·.target == id)) := by
  have keeps := Scene.keepsRecords_buildHierarchy
    { scene with index := scene.index.put (scene.forest.nameOf root) root } root document.root
  have before : (hierarchy document root scene).scene.applied id = scene.applied id := by
    have positions := congrFun keeps.applied id
    have ledger : (hierarchy document root scene).scene.ledger = scene.ledger := keeps.ledger
    rw [Scene.applied, ledger]
    exact congrArg (List.filterMap (scene.ledger[·]?)) positions
  have records : (hierarchy document root scene).scene.records = scene.records := by
    have emitter : (hierarchy document root scene).scene.emitter = scene.emitter := keeps.emitter
    have same : (hierarchy document root scene).scene.record? = scene.record? := by
      funext spec
      rw [Scene.record?, Scene.record?, emitter]
    funext specs
    rw [Scene.records, Scene.records, same]
  rw [scene_of_compile returned,
    Scene.applied_emitAll (recorded_hierarchy document root recorded) _ inside, before, records]

/-- **A compilation that returns isolates its directives.** -/
theorem compile_isolates {layout : Layout} (recorded : scene.Recorded)
    (returned : (compile settings document root scene).result = .ok layout) :
    Isolated settings document root scene layout := by
  have done := done_of_compile returned
  have ended := compile_eq_ending done
  have given : layoutOf (hierarchy document root scene) (steps settings document root scene) =
      layout := by
    rw [ended] at returned
    exact Except.ok.inj returned
  subst given
  exact {
    constraints := specs_steps
    diagnostics := congrArg _ diagnostics_steps
    settles := by
      intro entry built directive given
      obtain ⟨specs, errors⟩ := Scope.specsOf_eq (done.unfailed built given .log)
      exact ⟨_, Scope.settles_verdicts, specs, errors⟩
    alike := by
      rw [ended]
      exact Scene.alike_emitAll ..
    deletion := fun removed smaller drops => removal_of_drops recorded done drops }

/-- A window, the first of whose directives refers to no view. -/
def partlyFaulty : Document where
  root :=
    { name := "window"
      constraints := [⟨"top", .shorthand "@nowhere", .log⟩, ⟨"width", .verbose [], .log⟩] }

/-- A scene of one view, the window. -/
def oneView : Scene where
  forest := { views := [{ name := "window" }] }

/-- The error of the first directive costs the second one nothing. -/
theorem compile_isolates_partlyFaulty :
    ∃ layout, (compile {} partlyFaulty 0 oneView).result = .ok layout ∧
      layout.constraints.map Spec.leftAttribute = [.width] ∧
      layout.diagnostics = [.referenceUnresolved "nowhere" "window" none] := by
  have built : (hierarchy partlyFaulty 0 oneView).built = [(partlyFaulty.root, 0)] := rfl
  have directives : (Order.of (partlyFaulty.root, 0)).directives partlyFaulty.templates =
      partlyFaulty.root.constraints := by
    simp [Order.directives, Order.of, Template.expand, partlyFaulty, Reported.clean]
  have expanded :
      (Template.expand partlyFaulty.templates [] partlyFaulty.root.templates).diagnostics = [] := by
    simp [Template.expand, partlyFaulty, Reported.clean]
  have done : Done {} partlyFaulty 0 oneView := by
    refine ⟨by decide, fun task member => ?_⟩
    rw [tasks, agenda, built] at member
    obtain ⟨order, given, listed⟩ := List.mem_flatMap.1 member
    obtain rfl : order = Order.of (partlyFaulty.root, 0) := by simpa using given
    rcases List.mem_append.1 listed with reported | established
    · obtain ⟨diagnostic, _, rfl⟩ := List.mem_map.1 reported
      rfl
    · rw [directives] at established
      obtain ⟨directive, own, rfl⟩ := List.mem_map.1 established
      rcases List.mem_cons.1 own with rfl | rest
      · decide
      · rw [List.mem_singleton.1 rest]
        decide
  have recorded : oneView.Recorded := by
    refine ⟨fun _ member => absurd member List.not_mem_nil, fun id view found position member => ?_⟩
    have only : view ∈ [({ name := "window" } : View)] := List.mem_of_getElem? found
    rw [List.mem_singleton.1 only] at member
    exact absurd member List.not_mem_nil
  have returned : (compile {} partlyFaulty 0 oneView).result =
      .ok (layoutOf (hierarchy partlyFaulty 0 oneView) (steps {} partlyFaulty 0 oneView)) := by
    rw [compile_eq_ending done]
    rfl
  have isolated := compile_isolates recorded returned
  refine ⟨_, returned, ?_, ?_⟩
  · rw [isolated.constraints, built, List.flatMap_singleton, directives]
    decide
  · rw [isolated.diagnostics, built, List.flatMap_singleton, directives, expanded]
    rfl

end Pass

end ViewLayout
