import ViewLayout.Proofs.Constraint.Pairs
import ViewLayout.Proofs.Constraint.Questions
import ViewLayout.Proofs.Directive.Attributes
import ViewLayout.Proofs.Directive.Names
import ViewLayout.Proofs.Pass.Agenda

/-!
# Left sides that are joined

A left side that is joined of two by a separator names the attributes of the first and then those of
the second. Nothing that a directive answers otherwise depends on its left side, and no attribute
leaves anything behind for the next one, so `establish_joins` says that the joined directive comes
to what the two come to, one after the other, and that the emitter receives it in that order.
-/

namespace ViewLayout

namespace Reading

/-- The attributes on a joined left side are those of both. -/
theorem attributes_append (first second : String) {separator : Char}
    (separates : isAttributeSeparator separator = true) :
    attributes (first ++ separator.toString ++ second) = attributes first ++ attributes second := by
  have spelled : (first ++ separator.toString ++ second).toList =
      first.toList ++ separator :: second.toList := by
    simp [String.toList_append, Char.toString]
  rw [attributes, spelled, runs_append _ _ separates, List.filter_append, List.flatMap_append]
  rfl

end Reading

/-- The directive with another left side. -/
def Directive.withLhs (directive : Directive) (lhs : String) : Directive :=
  { directive with lhs }

namespace Directive

variable (directive : Directive) (lhs : String)

/-- Only the attributes on the left are read from the left side. -/
theorem read_withLhs {field : Field} (other : field ≠ .leftAttributes) :
    (directive.withLhs lhs).read field = directive.read field := by
  obtain ⟨own, payload, sink⟩ := directive
  cases payload <;> cases field <;> first | rfl | contradiction

/-- Only the attributes on the left are answered from the left side. -/
theorem answer_withLhs {field : Field} (other : field ≠ .leftAttributes) :
    (directive.withLhs lhs).answer field = directive.answer field := by
  rw [answer, answer, read_withLhs directive lhs other]

/-- The left side can always be read. -/
theorem exists_read_leftAttributes :
    ∃ reported, directive.read .leftAttributes = .ok reported := by
  obtain ⟨own, payload, sink⟩ := directive
  cases payload <;> exact ⟨_, rfl⟩

end Directive

namespace Scope

variable {scope : Scope} {sink : Sink} {target : ViewId} {directive : Directive}
  {whole left right : String}

/-- A context does not depend on the left side. -/
theorem contextOf_withLhs (scope : Scope) (target : ViewId) (directive : Directive) (lhs : String) :
    scope.contextOf target (directive.withLhs lhs) = scope.contextOf target directive := by
  funext givenView leftAttribute
  simp only [contextOf, directive.answer_withLhs lhs (by decide : Field.relation ≠ _),
    directive.answer_withLhs lhs (by decide : Field.rightAttribute ≠ _),
    directive.answer_withLhs lhs (by decide : Field.constant ≠ _),
    directive.answer_withLhs lhs (by decide : Field.multiplier ≠ _)]

/-- The verdict on an attribute does not depend on the left side that it is taken from. -/
theorem verdict_withLhs (scope : Scope) (directive : Directive) (lhs : String) :
    scope.verdict (directive.withLhs lhs) = scope.verdict directive := by
  funext context
  simp only [verdict, specOf, directive.answer_withLhs lhs (by decide : Field.priority ≠ _),
    directive.answer_withLhs lhs (by decide : Field.identifier ≠ _),
    directive.answer_withLhs lhs (by decide : Field.horizontalSizeClass ≠ _),
    directive.answer_withLhs lhs (by decide : Field.verticalSizeClass ≠ _)]

theorem resolve_withLhs (scope : Scope) (target : ViewId) (directive : Directive) (lhs : String) :
    scope.resolve target ((directive.withLhs lhs).answer .reference) =
      scope.resolve target (directive.answer .reference) := by
  rw [directive.answer_withLhs lhs (by decide)]

section Joined

variable (joined : Reading.attributes whole = Reading.attributes left ++ Reading.attributes right)
include joined

/-- A joined left side asks for what both ask for. -/
theorem mem_asked_joined {field : Field} :
    field ∈ scope.asked target (directive.withLhs whole) ↔
      field ∈ scope.asked target (directive.withLhs left) ∨
        field ∈ scope.asked target (directive.withLhs right) := by
  unfold asked
  simp only [resolve_withLhs, contextOf_withLhs, Directive.answer_leftAttributes]
  cases scope.resolve target (directive.answer .reference) with
  | unresolved name => exact (or_self_iff).symm
  | _ =>
    simp only [Directive.withLhs, joined, List.flatMap_append, List.mem_cons, List.mem_append]
    rw [← or_or_distrib_left, ← or_or_distrib_left]

/-- A directive with a joined left side can be read if both can, and only then. -/
theorem unfailed_joined :
    (scope.establishment sink target (directive.withLhs whole)).failure = none ↔
      (scope.establishment sink target (directive.withLhs left)).failure = none ∧
        (scope.establishment sink target (directive.withLhs right)).failure = none := by
  have same (lhs other : String) (field : Field) :
      (∃ reported, (directive.withLhs lhs).read field = .ok reported) ↔
        ∃ reported, (directive.withLhs other).read field = .ok reported := by
    by_cases own : field = .leftAttributes
    · subst own
      exact iff_of_true (Directive.exists_read_leftAttributes _)
        (Directive.exists_read_leftAttributes _)
    · rw [directive.read_withLhs lhs own, directive.read_withLhs other own]
  simp only [unfailed_iff, mem_asked_joined joined, or_imp, forall_and]
  simp only [same whole left, same right left]

/-- A directive with a joined left side comes to the constraints of both, in order. -/
theorem specsOf_joined
    (unfailed : (scope.establishment .log target (directive.withLhs whole)).failure = none) :
    scope.specsOf target (directive.withLhs whole) =
      scope.specsOf target (directive.withLhs left) ++
        scope.specsOf target (directive.withLhs right) := by
  obtain ⟨unfailedLeft, unfailedRight⟩ := (unfailed_joined joined).1 unfailed
  rw [(specsOf_eq unfailed).1, (specsOf_eq unfailedLeft).1, (specsOf_eq unfailedRight).1]
  unfold verdicts
  simp only [resolve_withLhs, contextOf_withLhs, verdict_withLhs, Directive.answer_leftAttributes]
  cases scope.resolve target (directive.answer .reference) with
  | unresolved name => rfl
  | _ => simp only [Directive.withLhs, joined, List.map_append, List.filterMap_append]

end Joined

end Scope

/-- What a directive comes to is what two others come to, one after the other. -/
structure Scene.Joins (scene : Scene) (whole first second : Model.Establishment) : Prop where
  /-- It can be established if both can. -/
  returns : whole.failure = none ↔ first.failure = none ∧ second.failure = none
  /-- Its constraints are those of the first and then those of the second. -/
  specs : whole.failure = none → whole.specs = first.specs ++ second.specs
  /-- The emitter, its ledger and the views are left as by the first and then the second. -/
  played : whole.failure = none →
    (scene.play whole.steps).1 = ((scene.play first.steps).1.play second.steps).1
  /-- The records of the emitter are those of the constraints, in that order. -/
  emitted : whole.failure = none → scene.Recorded →
    (scene.play whole.steps).1.emitted =
      scene.emitted ++ scene.records first.specs ++ scene.records second.specs

namespace Settings

/-- Establishing a directive with another left side, told to any sinks. -/
def establishLeft (settings : Settings) (scene : Scene) (target : ViewId) (directive : Directive)
    (own sink : Option Sink) (lhs : String) : Model.Establishment :=
  let model : Model := { directive := directive.withLhs lhs, ownSink := own }
  model.establish (settings.scope scene) target sink

variable {settings : Settings} {scene : Scene} {target : ViewId} {directive : Directive}
  {own sink : Option Sink}

/-- Whoever is told, it comes to the same. -/
theorem sayings_establishLeft (lhs : String) :
    let alone := (settings.scope scene).establishment .log target (directive.withLhs lhs)
    (settings.establishLeft scene target directive own sink lhs).steps.map Step.saying =
        alone.steps.map Step.saying ∧
      (settings.establishLeft scene target directive own sink lhs).failure = alone.failure :=
  Model.sayings_eq { directive := directive.withLhs lhs, ownSink := own }
    { directive := directive.withLhs lhs, ownSink := some .log } rfl rfl (settings.scope scene)
    target _ .log

theorem specs_establishLeft (lhs : String) :
    (settings.establishLeft scene target directive own sink lhs).specs =
      (settings.scope scene).specsOf target (directive.withLhs lhs) :=
  Model.Establishment.specs_eq_of_sayings (sayings_establishLeft lhs).1

theorem failure_establishLeft (lhs : String) :
    (settings.establishLeft scene target directive own sink lhs).failure =
      ((settings.scope scene).establishment .log target (directive.withLhs lhs)).failure :=
  (sayings_establishLeft lhs).2

/-- **A left side that is joined by a separator comes to what its parts come to.** The second part
may be established where the first one's constraints were emitted or not. -/
theorem establish_joins (settings : Settings) (scene : Scene) (target : ViewId)
    (directive : Directive) (own sink : Option Sink) {separator : Char}
    (separates : separator ∈ [' ', ':', ',']) (left right : String) :
    let first := settings.establishLeft scene target directive own sink left
    let next := (scene.play first.steps).1
    let second := settings.establishLeft next target directive own sink right
    scene.Joins
        (settings.establishLeft scene target directive own sink
          (left ++ separator.toString ++ right)) first second ∧
      second = settings.establishLeft scene target directive own sink right := by
  intro first next second
  have separator_ends : Reading.isAttributeSeparator separator = true := by
    simp only [List.mem_cons, List.not_mem_nil, or_false] at separates
    rcases separates with rfl | rfl | rfl <;> rfl
  have joined := Reading.attributes_append left right separator_ends
  have alike : next.Alike scene := by
    simp only [next, Scene.play_eq]
    exact Scene.alike_emitAll scene _
  have unmoved : second = settings.establishLeft scene target directive own sink right := by
    simp only [second, establishLeft, alike.establish_eq settings]
  have returns : (settings.establishLeft scene target directive own sink
      (left ++ separator.toString ++ right)).failure = none ↔
        first.failure = none ∧ second.failure = none := by
    rw [unmoved]
    simp only [first, failure_establishLeft]
    exact Scope.unfailed_joined joined
  have specs (unfailed : (settings.establishLeft scene target directive own sink
      (left ++ separator.toString ++ right)).failure = none) :
      (settings.establishLeft scene target directive own sink
        (left ++ separator.toString ++ right)).specs = first.specs ++ second.specs := by
    rw [failure_establishLeft] at unfailed
    rw [unmoved]
    simp only [first, specs_establishLeft]
    exact Scope.specsOf_joined joined unfailed
  refine ⟨⟨returns, specs, fun unfailed => ?_, fun unfailed recorded => ?_⟩, unmoved⟩
  · simp only [Scene.play_eq]
    exact (congrArg scene.emitAll (specs unfailed)).trans (scene.emitAll_append _ _)
  · have records : scene.records (first.specs ++ second.specs) =
        scene.records first.specs ++ scene.records second.specs := List.filterMap_append
    simp only [Scene.play_eq]
    rw [List.append_assoc, ← records, ← specs unfailed]
    exact Scene.emitted_emitAll recorded _

/-- A header in a window. -/
def headed : Scene where
  forest := ⟨[{ name := "window", subviews := [1] }, { name := "header", parent := some 0 }]⟩
  index := [("window", 0), ("header", 1)]

/-- Two attributes in one directive come to what they come to in two. -/
theorem establish_joins_edges :
    let directive : Directive := ⟨"", .shorthand "@window <8 /2", .log⟩
    let first := establishLeft {} headed 1 directive none none "edges"
    let next := (headed.play first.steps).1
    let second := establishLeft {} next 1 directive none none " bogus:size"
    let whole := establishLeft {} headed 1 directive none none
      ("edges" ++ ','.toString ++ " bogus:size")
    ',' ∈ [' ', ':', ','] ∧ whole.failure = none ∧ whole.specs = first.specs ++ second.specs ∧
      whole.specs.map Spec.leftAttribute =
        [.leading, .top, .trailing, .bottom, .width, .height] := by
  intro directive first next second whole
  have separates : ',' ∈ [' ', ':', ','] := by decide
  have unfailed : whole.failure = none := by decide +kernel
  have joins := (establish_joins {} headed 1 directive none none separates "edges" " bogus:size").1
  exact ⟨separates, unfailed, joins.specs unfailed, by decide +kernel⟩

end Settings

end ViewLayout
