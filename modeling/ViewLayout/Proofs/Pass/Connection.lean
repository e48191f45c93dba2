import ViewLayout.Proofs.Constraint.Kinship
import ViewLayout.Proofs.Pass.Naming
import ViewLayout.Proofs.Pass.Orders

/-!
# Connection of views

When a source is compiled by itself, no name means anything but the root view and what was declared
below it, however views were moved and declared again. So the index never leads out of the root
view's tree, all comparisons are within that tree, and the error that says otherwise is never told:
`compileSource_connects`.
-/

namespace ViewLayout

/-- All that names mean is the root view or below it. -/
structure Scene.Connected (root : ViewId) (scene : Scene) : Prop where
  formed : scene.forest.WellFormed
  indexed : ∀ name id, scene.index.get? name = some id → scene.forest.AtOrAbove root id

namespace Scene

variable {root target : ViewId} {scene other : Scene} {settings : Settings}

/-- What is above in alike scenes. -/
theorem Alike.atOrAbove (alike : scene.Alike other) {upper lower : ViewId}
    (above : other.forest.AtOrAbove upper lower) : scene.forest.AtOrAbove upper lower := by
  rwa [Forest.AtOrAbove, Forest.hasParent_eq_of_parent? alike.parent?_eq]

/-- Alike scenes are connected alike. -/
theorem Connected.of_alike (connected : other.Connected root) (alike : scene.Alike other) :
    scene.Connected root where
  formed := alike.wellFormed connected.formed
  indexed := fun name id meant => alike.atOrAbove (connected.indexed name id (alike.index ▸ meant))

/-- In a connected scene all that a reference of a view below the root view comes to is in its
tree, if nothing is around. -/
theorem Connected.kindred (connected : scene.Connected root) (alone : settings.environment = [])
    (under : scene.forest.AtOrAbove root target) : (settings.scope scene).Kindred target := by
  intro reference view meant
  have formed := connected.formed
  cases reference with
  | none => cases meant
  | some name =>
    change scene.forest.root view = scene.forest.root target
    cases parental : (settings.scope scene).meansParent name with
    | true =>
      simp only [Scope.resolve, parental, ↓reduceIte] at meant
      split at meant
      · next above =>
        cases meant
        exact (formed.root_eq_of_atOrAbove (.single above)).symm
      · cases meant
    | false =>
      have found : (settings.scope scene).lookup? name = scene.index.get? name := by
        simp [Scope.lookup?, Settings.scope, alone, Table.get?]
      simp only [Scope.resolve, parental, Bool.false_eq_true, ↓reduceIte, found] at meant
      split at meant
      · next known =>
        cases meant
        rw [formed.root_eq_of_atOrAbove (connected.indexed name _ known),
          formed.root_eq_of_atOrAbove under]
      · cases meant

end Scene

namespace Pass

variable {settings : Settings} {document : Document} {root : ViewId} {scene : Scene}

/-- A hierarchy that is built with names of its own is connected, and all views that were built
are the root view or below it. -/
theorem connected_hierarchy (document : Document) (formed : scene.forest.WellFormed)
    (inside : root < scene.forest.size) (fresh : scene.index = []) :
    (hierarchy document root scene).scene.Connected root ∧
      ∀ entry ∈ (hierarchy document root scene).built,
        (hierarchy document root scene).scene.forest.AtOrAbove root entry.2 := by
  have indexed : ∀ name id, scene.index.get? name = some id → id < scene.forest.size := by
    rw [fresh]
    exact fun name id meant => nomatch meant
  have leads := leads_hierarchy formed inside indexed document
  refine ⟨⟨leads.sound.formed, fun name id meant => ?_⟩, leads.sound.under⟩
  rw [get?_index_hierarchy formed inside fresh, meaning?, Option.or_eq_some_iff] at meant
  rcases meant with declared | ⟨_, own⟩
  · obtain ⟨entry, new, same⟩ := List.mem_map.1 (Table.mem_of_last? declared)
    cases same
    exact leads.sound.under entry (List.mem_of_mem_tail (List.mem_filter.1 new).1)
  · split at own
    · cases own
      exact .refl
    · cases own

/-- A pass once tasks were done. -/
def after (settings : Settings) (document : Document) (root : ViewId) (scene : Scene)
    (done : List Task) : Pass :=
  done.foldl (perform settings settings.passSink) (started settings document root scene)

/-- No task of a pass changes more than what is applied. -/
theorem alike_after (settings : Settings) (document : Document) (root : ViewId) (scene : Scene)
    (done : List Task) :
    (after settings document root scene done).scene.Alike (hierarchy document root scene).scene :=
  alike_foldl_perform settings.isTruthy_passSink done _

/-- How a pass keeps its views together. -/
structure Connects (settings : Settings) (document : Document) (root : ViewId) (scene : Scene) :
    Prop where
  /-- At every task, each name of the index means the root view or a view below it. -/
  indexed : ∀ done rest, tasks document root scene = done ++ rest →
    ∀ name id, (after settings document root scene done).scene.index.get? name = some id →
      (after settings document root scene done).scene.forest.AtOrAbove root id
  /-- So at every directive, each attribute is compared within one tree. -/
  shared : ∀ done target directive rest,
    tasks document root scene = done ++ .establish target directive :: rest →
      ∀ leftAttribute,
        let scope := settings.scope (after settings document root scene done).scene
        scope.isShared (scope.contextOf target directive
          (scope.resolve target (directive.answer .reference)).view? leftAttribute) = true
  /-- That two views are in different trees is never told, whether the pass returns or not. -/
  untold : ∀ notice ∈ noticesOf (compile settings document root scene).events, ∀ identifier,
    notice.diagnostic ≠ .ancestryNotShared identifier
  /-- A layout has the constraints of all directives in turn, -/
  constraints : ∀ layout, (compile settings document root scene).result = .ok layout →
    layout.constraints = (orders document root scene).flatMap
      (Order.specs document.templates (scope settings document root scene))
  /-- and those of a directive with no reference, or with one to a view, are one for each attribute
  on its left. -/
  complete : ∀ layout, (compile settings document root scene).result = .ok layout →
    ∀ target directive, Given document root scene target directive →
      (∀ name, (scope settings document root scene).resolve target (directive.answer .reference) ≠
        .unresolved name) →
        ((scope settings document root scene).specsOf target directive).map
            (fun spec => (spec.target, spec.leftAttribute)) =
          (directive.answer .leftAttributes).map fun leftAttribute => (target, leftAttribute)

/-- What a task of a pass tells is found while templates are expanded or directives are
established. -/
theorem stage_of_mem_tasks {task : Task} (listed : task ∈ tasks document root scene)
    {notice : Notice} {sink : Sink}
    (told : .notice notice ∈ task.steps (scope settings document root scene) sink) :
    notice.diagnostic.stage = .expanding ∨
      ∃ target directive, task = .establish target directive ∧
        Given document root scene target directive := by
  cases task with
  | establish target directive => exact .inr ⟨target, directive, rfl, mem_tasks_iff.1 listed⟩
  | report diagnostic =>
    simp only [Task.steps, List.mem_singleton, Step.notice.injEq] at told
    subst told
    obtain ⟨order, _, task⟩ := List.mem_flatMap.1 listed
    rcases List.mem_append.1 task with reported | established
    · obtain ⟨_, ofTemplate, same⟩ := List.mem_map.1 reported
      cases same
      exact .inl (Template.stage_of_mem_expand ofTemplate)
    · obtain ⟨_, _, same⟩ := List.mem_map.1 established
      cases same

/-- A pass by itself keeps its views together. -/
theorem compile_connects (settings : Settings) (document : Document) (root : ViewId) (scene : Scene)
    (formed : scene.forest.WellFormed) (inside : root < scene.forest.size)
    (fresh : scene.index = []) (alone : settings.environment = []) :
    Connects settings document root scene := by
  obtain ⟨connected, under⟩ := connected_hierarchy document formed inside fresh
  have targeted {target : ViewId} {directive : Directive}
      (given : Given document root scene target directive) :
      (hierarchy document root scene).scene.forest.AtOrAbove root target := by
    obtain ⟨entry, built, rfl, _⟩ := given
    exact under entry built
  have kindred {target : ViewId} {directive : Directive}
      (given : Given document root scene target directive) :
      (scope settings document root scene).Kindred target :=
    connected.kindred alone (targeted given)
  exact {
    indexed := fun done _ _ => (connected.of_alike (alike_after _ _ _ _ done)).indexed
    shared := by
      intro done target directive rest listed leftAttribute
      have member : Task.establish target directive ∈ tasks document root scene := by
        rw [listed]
        exact List.mem_append_right _ List.mem_cons_self
      have alike := alike_after settings document root scene done
      have now := connected.of_alike alike
      have above := alike.atOrAbove (targeted (mem_tasks_iff.1 member))
      exact (now.kindred alone above).isShared now.formed rfl rfl
    untold := by
      intro notice member identifier same
      rcases mem_noticesOf_compile member with ⟨_, told⟩ | ⟨task, listed, told⟩
      · rw [same] at told
        cases Scene.stage_of_mem_buildHierarchy told
      · rcases stage_of_mem_tasks listed told with expanding | ⟨target, directive, rfl, given⟩
        · rw [same] at expanding
          cases expanding
        · exact (kindred given).ne_ancestryNotShared connected.formed told identifier same
    constraints := by
      intro layout returned
      rw [eq_ordered returned]
      rfl
    complete := by
      intro layout returned target directive given resolved
      rw [(kindred given).specsOf_eq connected.formed
        (given.unfailed (done_of_compile returned) .log) resolved, List.map_map]
      rfl }

end Pass

/-- How a source that is compiled by itself keeps its views together. -/
structure ConnectsSource (settings : Settings) (source : Value) (root : ViewId) (scene : Scene) :
    Prop where
  /-- That two views are in different trees is never told, whatever comes of the source. -/
  untold : ∀ notice ∈ noticesOf (compileSource settings source root scene).events, ∀ identifier,
    notice.diagnostic ≠ .ancestryNotShared identifier
  /-- The pass of its document keeps the views together. -/
  pass : ∀ document, (settings.read source).value = .ok document →
    Pass.Connects settings.inSource document root
      { scene with index := [] }
  /-- A layout has the constraints of that pass, and no such diagnostic. -/
  layout : ∀ layout, (compileSource settings source root scene).result = .ok layout →
    (∀ identifier, .ancestryNotShared identifier ∉ layout.diagnostics) ∧
      ∃ document inner,
        (settings.read source).value = .ok document ∧
          (Pass.compile settings.inSource document root
            { scene with index := [] }).result = .ok inner ∧
            layout.constraints = inner.constraints

/-- **No source that is compiled by itself has a constraint refused for views in different trees**:
wherever the root view stands, each directive that is resolved gives one constraint for each of its
attributes. -/
theorem compileSource_connects (settings : Settings) (source : Value) (root : ViewId)
    (scene : Scene) (formed : scene.forest.WellFormed) (inside : root < scene.forest.size)
    (alone : settings.environment = []) : ConnectsSource settings source root scene := by
  have connects (document : Document) :
      Pass.Connects settings.inSource document root
        { scene with index := [] } :=
    Pass.compile_connects _ document root _ formed inside rfl alone
  have untold : ∀ notice ∈ noticesOf (compileSource settings source root scene).events,
      ∀ identifier, notice.diagnostic ≠ .ancestryNotShared identifier := by
    have reading : ∀ notice ∈ noticesOf
        ((settings.read source).diagnostics.map fun diagnostic =>
          .reported ⟨settings.sourceSink, diagnostic⟩), ∀ identifier,
          notice.diagnostic ≠ .ancestryNotShared identifier := by
      intro notice member identifier same
      rw [Pass.noticesOf_reported] at member
      obtain ⟨diagnostic, told, rfl⟩ := List.mem_map.1 member
      have stage := Document.stage_of_mem_readWith told
      rw [show diagnostic = _ from same] at stage
      cases stage
    intro notice member
    cases read : (settings.read source).value with
    | error fault =>
      rw [compileSource_of_unread read] at member
      exact reading notice member
    | ok document =>
      rw [compileSource_of_read read, Outcome.ofReading, Pass.noticesOf_append] at member
      rcases List.mem_append.1 member with earlier | later
      · exact reading notice earlier
      · exact (connects document).untold notice later
  exact {
    untold
    pass := fun document _ => connects document
    layout := by
      intro layout returned
      obtain ⟨document, inner, read, ended, same⟩ := pass_of_compileSource returned
      refine ⟨fun identifier member => ?_, document, inner, read, ended, same⟩
      rw [result_of_read read ended] at returned
      cases returned
      obtain ⟨notice, told, kept⟩ := List.mem_filterMap.1 member
      split at kept
      · exact untold notice told identifier (Option.some.inj kept)
      · cases kept }

/-- A page with two panels, of which the second has the label that the first one had. -/
def reboundSource : Value :=
  .mapping
    [(.text "constraints", .mapping [(.text "size top", .text "@panel")]),
      (.text "views",
        .mapping
          [(.text "!panel",
            .mapping [(.text "views", .mapping [(.text "!label", .mapping [])])]),
            (.text "!panel:Card",
              .mapping
                [(.text "views",
                  .mapping
                    [(.text "label",
                      .mapping
                        [(.text "constraints",
                          .mapping
                            [(.text "leading", .text "@page"), (.text "left", .text "@aside"),
                              (.text "bottom", .text "@super")])])])])])]

/-- What is read from that source. -/
def rebound : Document where
  root :=
    { name := "root"
      constraints := [⟨"size top", .shorthand "@panel", .collecting .source .log⟩]
      subviews :=
        [{ name := "panel", isNew := true, subviews := [{ name := "label", isNew := true }] },
          { name := "panel", isNew := true, superclass := some "Card"
            subviews :=
              [{ name := "label"
                 constraints :=
                  [⟨"leading", .shorthand "@page", .collecting .source .log⟩,
                    ⟨"left", .shorthand "@aside", .collecting .source .log⟩,
                    ⟨"bottom", .shorthand "@super", .collecting .source .log⟩] }] }] }

/-- The page in a window is compared with the second panel, and the label in that with the page. -/
theorem compileSource_connects_rebound :
    ConnectsSource {} reboundSource 1 Scene.nested ∧
      ∃ layout, (compileSource {} reboundSource 1 Scene.nested).result = .ok layout ∧
        layout.constraints.map
            (fun spec => (spec.target, spec.leftAttribute, spec.comparableView)) =
          [(1, .width, some 5), (1, .height, some 5), (1, .top, some 5), (4, .leading, some 1),
            (4, .bottom, some 5)] := by
  have connects := compileSource_connects {} reboundSource 1 Scene.nested
    (Forest.wellFormed_after _) (by decide) rfl
  have read : (Settings.read {} reboundSource).value = .ok rebound := rfl
  have done : Pass.Done (Settings.inSource {}) rebound 1 { Scene.nested with index := [] } :=
    Pass.done_of_untemplated (by decide) (by decide)
  have ended := congrArg Outcome.result (Pass.compile_eq_ending done)
  have returned := @result_of_read {} _ _ _ _ _ read ended
  refine ⟨connects, _, returned, ?_⟩
  dsimp only
  rw [Pass.constraints_of_untemplated ended (by decide)]
  decide

end ViewLayout
