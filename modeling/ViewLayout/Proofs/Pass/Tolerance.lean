import ViewLayout.Proofs.Constraint.Questions
import ViewLayout.Proofs.Directive.Numbers
import ViewLayout.Proofs.Pass.Building
import ViewLayout.Proofs.Pass.Isolation

/-!
# Tolerance of unusable numbers

What is wrong in a directive costs the directive or one of its fields, and all others are
established. There is one thing that a pass does not tolerate: a field that is asked for and gives
an integer too large for a number. `compile_tolerates` says that this stops the pass and nothing
else does, and that any other number that cannot be used costs its field and a warning.
-/

namespace ViewLayout.Pass

/-- A directive is to be established for a view that was built. -/
def Given (document : Document) (root : ViewId) (scene : Scene) (target : ViewId)
    (directive : Directive) : Prop :=
  ∃ entry ∈ (hierarchy document root scene).built, entry.2 = target ∧
    directive ∈ (Order.of entry).directives document.templates

/-- What a pass makes of numbers that cannot be used. -/
structure Tolerates (settings : Settings) (document : Document) (root : ViewId) (scene : Scene) :
    Prop where
  /-- The pass gives a layout unless a number is asked for that is an integer too large. -/
  returns : (∃ layout, (compile settings document root scene).result = .ok layout) ↔
    ∀ target directive, Given document root scene target directive →
      ∀ field ∈ (scope settings document root scene).asked target directive,
        ¬ directive.Overflows field
  /-- No other fault stops it. -/
  stops : ∀ fault, (compile settings document root scene).result = .error fault →
    fault = .field .integerTooLarge
  /-- A number that is asked for and cannot be used costs a warning, and its field has the
  default. -/
  warned : ∀ layout, (compile settings document root scene).result = .ok layout →
    ∀ target directive, Given document root scene target directive → ∀ numberField warning,
      NumberField.field numberField ∈ (scope settings document root scene).asked target directive →
        numberField.Unusable directive.payload warning →
          warning ∈ layout.diagnostics ∧
            directive.answer numberField.field = numberField.field.answer none
  /-- The constraints are those of all directives by what these answer. -/
  constraints : ∀ layout, (compile settings document root scene).result = .ok layout →
    layout.constraints =
      (hierarchy document root scene).built.flatMap fun entry =>
        ((Order.of entry).directives document.templates).flatMap fun directive =>
          ((scope settings document root scene).verdicts entry.2 directive).filterMap Verdict.spec?
  /-- A directive comes to a constraint or an error for each attribute, or to one error. -/
  settles : ∀ target directive,
    (scope settings document root scene).Settles target directive
      ((scope settings document root scene).verdicts target directive)

variable {settings : Settings} {document : Document} {root : ViewId} {scene : Scene}

/-- The directives that are to be established are those that are given. -/
theorem mem_tasks_iff {target : ViewId} {directive : Directive} :
    Task.establish target directive ∈ tasks document root scene ↔
      Given document root scene target directive := by
  constructor
  · intro member
    obtain ⟨order, listed, task⟩ := List.mem_flatMap.1 member
    obtain ⟨entry, built, rfl⟩ := List.mem_map.1 listed
    rcases List.mem_append.1 task with reported | established
    · obtain ⟨diagnostic, _, same⟩ := List.mem_map.1 reported
      cases same
    · obtain ⟨other, given, same⟩ := List.mem_map.1 established
      cases same
      exact ⟨entry, built, rfl, given⟩
  · rintro ⟨entry, built, rfl, given⟩
    refine List.mem_flatMap.2 ⟨Order.of entry, List.mem_map_of_mem built, ?_⟩
    exact List.mem_append_right _ (List.mem_map_of_mem given)

/-- A task cannot be done exactly if a number is asked for that is an integer too large. -/
theorem overflows_of_failure {target : ViewId} {directive : Directive} {cause : FieldError}
    {sink : Sink} (showable : directive.Showable)
    (failed : ((scope settings document root scene).establishment sink target directive).failure =
      some cause) :
    cause = .integerTooLarge ∧
      ∃ field ∈ (scope settings document root scene).asked target directive,
        directive.Overflows field := by
  obtain ⟨field, asked, unread⟩ := Scope.unread_of_failed failed
  obtain ⟨rfl, overflows⟩ := (Directive.read_eq_error_iff showable).1 unread
  exact ⟨rfl, field, asked, overflows⟩

/-- A directive that is to be established can be read, if all tasks can be done. -/
theorem Given.unfailed {target : ViewId} {directive : Directive}
    (given : Given document root scene target directive) (done : Done settings document root scene)
    (sink : Sink) :
    ((scope settings document root scene).establishment sink target directive).failure = none := by
  obtain ⟨entry, built, rfl, own⟩ := given
  exact done.unfailed built own sink

/-- No integer too large is asked for, if all tasks can be done. -/
theorem Given.fits {target : ViewId} {directive : Directive}
    (given : Given document root scene target directive) (done : Done settings document root scene)
    (showable : directive.Showable) :
    ∀ field ∈ (scope settings document root scene).asked target directive,
      ¬ directive.Overflows field := by
  intro field asked overflows
  obtain ⟨reported, read, _⟩ := Scope.told_of_unfailed (given.unfailed done .log) asked
  rw [(Directive.read_eq_error_iff showable).2 ⟨rfl, overflows⟩] at read
  contradiction

/-- All tasks can be done, if all directives that are to be established can be read. -/
theorem done_of_given (built : (hierarchy document root scene).failure = none)
    (read : ∀ target directive, Given document root scene target directive →
      ((scope settings document root scene).establishment settings.passSink target
        directive).failure = none) :
    Done settings document root scene := by
  refine ⟨built, fun task member => ?_⟩
  cases task with
  | report diagnostic => rfl
  | establish target directive => exact read target directive (mem_tasks_iff.1 member)

/-- All tasks can be done, if no integer too large is asked for. -/
theorem done_of_fits (built : (hierarchy document root scene).failure = none)
    (showable : ∀ target directive, Given document root scene target directive →
      directive.Showable)
    (fits : ∀ target directive, Given document root scene target directive →
      ∀ field ∈ (scope settings document root scene).asked target directive,
        ¬ directive.Overflows field) :
    Done settings document root scene := by
  refine done_of_given built fun target directive given => ?_
  cases failed : ((scope settings document root scene).establishment settings.passSink
      target directive).failure with
  | none => rfl
  | some cause =>
    obtain ⟨_, field, asked, overflows⟩ :=
      overflows_of_failure (showable target directive given) failed
    exact absurd overflows (fits target directive given field asked)

/-- A number that is asked for and cannot be used costs a warning, and its field has the
default. -/
theorem warned_of_unusable {layout : Layout}
    (returned : (compile settings document root scene).result = .ok layout) {target : ViewId}
    {directive : Directive} (given : Given document root scene target directive)
    (showable : directive.Showable) {numberField : NumberField} {warning : Diagnostic}
    (asked : numberField.field ∈ (scope settings document root scene).asked target directive)
    (unusable : numberField.Unusable directive.payload warning) :
    warning ∈ layout.diagnostics ∧
      directive.answer numberField.field = numberField.field.answer none := by
  have done := done_of_compile returned
  have read := Directive.read_of_unusable showable unusable (given.fits done showable _ asked)
  obtain ⟨reported, same, told⟩ := Scope.told_of_unfailed (given.unfailed done .log) asked
  cases read.symm.trans same
  refine ⟨?_, by rw [Directive.answer, read]⟩
  obtain ⟨entry, listed, rfl, own⟩ := given
  rw [eq_layoutOf_of_compile returned, layoutOf, diagnostics_steps]
  refine List.mem_append_right _ (List.mem_flatMap.2 ⟨entry, listed, ?_⟩)
  refine List.mem_append_right _ (List.mem_flatMap.2 ⟨directive, own, ?_⟩)
  exact told warning List.mem_cons_self

/-- The hierarchy of a pass is sound, and its root view is where it was. -/
theorem leads_hierarchy (formed : scene.forest.WellFormed) (inside : root < scene.forest.size)
    (indexed : ∀ name id, scene.index.get? name = some id → id < scene.forest.size)
    (document : Document) :
    Building.Leads root
      { scene := { scene with index := scene.index.put (scene.forest.nameOf root) root } }
      (hierarchy document root scene) :=
  have named := Building.sound_of_named formed inside indexed (scene.forest.nameOf root)
  Building.leads_buildHierarchy named.formed named.inside named.indexed document.root

/-- **A pass tolerates all numbers that cannot be used but integers too large.** -/
theorem compile_tolerates (settings : Settings) (document : Document) (root : ViewId)
    (scene : Scene) (formed : scene.forest.WellFormed) (inside : root < scene.forest.size)
    (indexed : ∀ name id, scene.index.get? name = some id → id < scene.forest.size)
    (showable : ∀ target directive, Given document root scene target directive →
      directive.Showable) :
    Tolerates settings document root scene := by
  have built := (leads_hierarchy formed inside indexed document).sound.unfailed
  exact {
    returns := by
      constructor
      · rintro ⟨layout, returned⟩ target directive given
        exact given.fits (done_of_compile returned) (showable target directive given)
      · intro fits
        exact ⟨_, congrArg Outcome.result (compile_eq_ending (done_of_fits built showable fits))⟩
    stops := by
      intro fault failed
      obtain ⟨task, member, cause, same, rfl⟩ := failure_of_compile built failed
      cases task with
      | report diagnostic => cases same
      | establish target directive =>
        have given := mem_tasks_iff.1 member
        rw [(overflows_of_failure (showable target directive given) same).1]
    warned := by
      intro layout returned target directive given numberField warning asked unusable
      exact warned_of_unusable returned given (showable target directive given) asked unusable
    constraints := by
      intro layout returned
      rw [eq_layoutOf_of_compile returned, layoutOf, specs_steps]
      refine List.flatMap_congr fun entry listed => List.flatMap_congr fun directive own => ?_
      have given : Given document root scene entry.2 directive := ⟨entry, listed, rfl, own⟩
      exact (Scope.specsOf_eq (given.unfailed (done_of_compile returned) .log)).1
    settles := fun _ _ => Scope.settles_verdicts }

/-- A document without subviews builds its root. -/
theorem built_of_leaf (subviews : document.root.subviews = []) :
    (hierarchy document root scene).built = [(document.root, root)] := by
  rw [hierarchy, Scene.buildHierarchy, subviews, Building.buildAll]
  rfl

/-- A view without templates has its own directives. -/
theorem directives_of_templates_eq_nil {entry : Description × ViewId}
    (templates : entry.1.templates = []) :
    (Order.of entry).directives document.templates = entry.1.constraints := by
  simp [Order.directives, Order.of, templates, Template.expand, Reported.clean]

/-- A view alone is given its own directives. -/
theorem given_iff_of_leaf (subviews : document.root.subviews = [])
    (templates : document.root.templates = []) {target : ViewId} {directive : Directive} :
    Given document root scene target directive ↔
      root = target ∧ directive ∈ document.root.constraints := by
  have own : (Order.of (document.root, root)).directives document.templates =
      document.root.constraints := directives_of_templates_eq_nil templates
  simp [Given, built_of_leaf subviews, own]

/-- The tasks of a view alone can be done, if its own directives can be read. -/
theorem done_of_leaf (subviews : document.root.subviews = [])
    (templates : document.root.templates = [])
    (read : ∀ directive ∈ document.root.constraints,
      ((scope settings document root scene).establishment settings.passSink root
        directive).failure = none) :
    Done settings document root scene := by
  refine done_of_given ?_ fun target directive given => ?_
  · rw [hierarchy, Scene.buildHierarchy, subviews, Building.buildAll]
    rfl
  · obtain ⟨rfl, own⟩ := (given_iff_of_leaf subviews templates).1 given
    exact read directive own

/-- The constraints of a view alone are those of its own directives. -/
theorem constraints_of_leaf {layout : Layout} (subviews : document.root.subviews = [])
    (templates : document.root.templates = [])
    (returned : (compile settings document root scene).result = .ok layout) :
    layout.constraints =
      document.root.constraints.flatMap ((scope settings document root scene).specsOf root) := by
  rw [eq_layoutOf_of_compile returned, layoutOf, specs_steps, built_of_leaf subviews,
    List.flatMap_singleton, directives_of_templates_eq_nil templates]

/-- All that is told of a view alone is told of its own directives. -/
theorem diagnostics_of_leaf {layout : Layout} (subviews : document.root.subviews = [])
    (templates : document.root.templates = [])
    (returned : (compile settings document root scene).result = .ok layout) :
    layout.diagnostics =
      document.root.constraints.flatMap
        ((scope settings document root scene).diagnosticsOf root) := by
  have quiet : (hierarchy document root scene).diagnostics = [] := by
    rw [hierarchy, Scene.buildHierarchy, subviews, Building.buildAll]
    rfl
  rw [eq_layoutOf_of_compile returned, layoutOf, diagnostics_steps, built_of_leaf subviews,
    List.flatMap_singleton, directives_of_templates_eq_nil templates, quiet, templates]
  simp [Template.expand, Reported.clean]

/-- A window whose width is no number, and whose height is divided by zero. -/
def misnumbered : Document where
  root :=
    { name := "window"
      constraints :=
        [⟨"width", .verbose [(.text "constant", .text "wide")], .log⟩,
          ⟨"height", .shorthand "/0", .log⟩] }

/-- Both are told of, and there are constraints for both. -/
theorem compile_tolerates_misnumbered :
    ∃ layout, (compile {} misnumbered 0 oneView).result = .ok layout ∧
      layout.constraints.map Spec.leftAttribute = [.width, .height] ∧
      .invalidNumber "constant" (.text "wide") ∈ layout.diagnostics ∧
      .zeroDivisor ∈ layout.diagnostics := by
  have given : ∀ {target directive}, Given misnumbered 0 oneView target directive ↔
      0 = target ∧ directive ∈ misnumbered.root.constraints := given_iff_of_leaf rfl rfl
  have texts : ∀ directive ∈ misnumbered.root.constraints, ∀ (numberField : NumberField) value,
      numberField.given? directive.payload = some value → ∃ text, value = .text text := by
    intro directive member numberField value found
    rcases List.mem_cons.1 member with rfl | rest
    · cases numberField with
      | constant => exact ⟨_, (Option.some.inj found).symm⟩
      | multiplier => cases found
      | priority => cases found
    · rw [List.mem_singleton.1 rest] at found
      cases numberField with
      | constant => cases found
      | multiplier => exact ⟨_, (Option.some.inj found).symm⟩
      | priority => cases found
  have tolerates := compile_tolerates {} misnumbered 0 oneView
    (Forest.wellFormed_after [.create "window" none none]) (by decide)
    (fun name id meant => by cases meant)
    (by
      intro target directive own numberField value found
      obtain ⟨text, rfl⟩ := texts directive (given.1 own).2 numberField value found
      rfl)
  obtain ⟨layout, returned⟩ := tolerates.returns.2 (by
    rintro target directive own field _ ⟨numberField, value, _, found, integer, same, _⟩
    obtain ⟨text, rfl⟩ := texts directive (given.1 own).2 numberField value found
    cases same)
  have width := given.2 ⟨rfl, List.mem_cons_self⟩
  have height := given.2 ⟨rfl, List.mem_cons_of_mem _ List.mem_cons_self⟩
  have zero : (Value.text "0").finite? = some .zero := by decide
  refine ⟨layout, returned, ?_, ?_, ?_⟩
  · rw [tolerates.constraints layout returned, built_of_leaf rfl, List.flatMap_singleton,
      directives_of_templates_eq_nil rfl]
    decide
  · exact (tolerates.warned layout returned 0 _ width .constant _ (by decide)
      (.number rfl (by decide))).1
  · exact (tolerates.warned layout returned 0 _ height .multiplier _ (by decide)
      (.divisor rfl zero rfl rfl)).1

/-- A width that is an integer beyond all numbers. -/
def boundless : Directive :=
  ⟨"width", .verbose [(.text "constant", .int (.ofNat (Nat.pow 10 400)))], .collecting .source .log⟩

/-- A height that can be read, beside such a width. -/
def bounded : Directive :=
  ⟨"height", .shorthand "+20", .collecting .source .log⟩

/-- A view with such a width, and with a height. -/
def immeasurable : Document where
  root := { name := "root", constraints := [boundless, bounded] }

/-- A layout of that view. -/
def immeasurableSource : Value :=
  .mapping
    [(.text "constraints",
      .mapping
        [(.text "width", .mapping [(.text "constant", .int (.ofNat (Nat.pow 10 400)))]),
          (.text "height", .text "+20")])]

/-- The layout can be read, but its width stops the pass, so that there is no constraint for its
height either. -/
theorem compileSource_immeasurable :
    (Settings.read {} immeasurableSource).value = .ok immeasurable ∧
      (compileSource {} immeasurableSource 0 oneView).result =
        .error (.pass (.field .integerTooLarge)) := by
  have read : (Settings.read {} immeasurableSource).value = .ok immeasurable := rfl
  have given : ∀ {target directive}, Given immeasurable 0 oneView target directive ↔
      0 = target ∧ directive ∈ immeasurable.root.constraints := given_iff_of_leaf rfl rfl
  have first : Task.failure (scope (Settings.inSource {}) immeasurable 0 oneView)
      (Settings.inSource {}).passSink (.establish 0 boundless) = some .integerTooLarge := by
    decide +kernel
  have second : Task.failure (scope (Settings.inSource {}) immeasurable 0 oneView)
      (Settings.inSource {}).passSink (.establish 0 bounded) = none := by
    decide +kernel
  have stopped : (compile (Settings.inSource {}) immeasurable 0 oneView).result =
      .error (.field .integerTooLarge) := by
    cases ended : (compile (Settings.inSource {}) immeasurable 0 oneView).result with
    | ok layout =>
      have width : Task.establish 0 boundless ∈ tasks immeasurable 0 oneView :=
        mem_tasks_iff.2 (given.2 ⟨rfl, List.mem_cons_self⟩)
      have unfailed := (done_of_compile ended).tasks _ width
      rw [first] at unfailed
      cases unfailed
    | error fault =>
      have built : (hierarchy immeasurable 0 oneView).failure = none := by decide
      obtain ⟨task, member, cause, same, rfl⟩ := failure_of_compile built ended
      cases task with
      | report diagnostic => cases same
      | establish target directive =>
        obtain ⟨rfl, own⟩ := given.1 (mem_tasks_iff.1 member)
        rcases List.mem_cons.1 own with rfl | rest
        · rw [first] at same
          cases same
          rfl
        · rw [List.mem_singleton.1 rest, second] at same
          cases same
  refine ⟨read, ?_⟩
  unfold compileSource
  simp only [read]
  have same : (compile (Settings.inSource {}) immeasurable 0
      { oneView with index := [] }).result = .error (.field .integerTooLarge) := stopped
  simp only [same]

end ViewLayout.Pass
