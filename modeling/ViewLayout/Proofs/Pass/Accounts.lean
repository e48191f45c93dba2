import Mathlib.Logic.Function.Basic
import ViewLayout.Proofs.Pass.Regating
import ViewLayout.Proofs.Pass.Soundness

/-!
# Accounts of constraints

The constraints of a pass are kept in three places: in the layout, with the emitter, and with the
views that they are for. `compileSource_accounts` says that the three agree, constraint by
constraint and in the same order. What a layout has for a name is put together from the constraints
of the views of that name; `Merges` says that nothing is lost, doubled or reordered on the way.
-/

namespace ViewLayout

section Merges

variable {ι α : Type} [DecidableEq ι]

/-- A list is merged from parts: it begins with the head of one of them and goes on with what is
merged from the rest. -/
inductive Merges : (ι → List α) → List α → Prop
  | nil {parts : ι → List α} (empty : ∀ index, parts index = []) : Merges parts []
  | cons {parts : ι → List α} {first : α} {rest whole : List α} (index : ι)
    (head : parts index = first :: rest) (later : Merges (Function.update parts index rest) whole) :
    Merges parts (first :: whole)

/-- A list is merged from its parts by a key. -/
theorem merges_filter (key : α → ι) (whole : List α) :
    Merges (fun index => whole.filter (key · == index)) whole := by
  induction whole with
  | nil => exact .nil fun _ => rfl
  | cons first rest inner =>
    have head : (first :: rest).filter (key · == key first) =
        first :: rest.filter (key · == key first) := by simp
    refine .cons (key first) head ?_
    have left : Function.update (fun index => (first :: rest).filter (key · == index)) (key first)
        (rest.filter (key · == key first)) = fun index => rest.filter (key · == index) := by
      funext index
      by_cases same : index = key first
      · rw [same, Function.update_self]
      · have other : (key first == index) = false := beq_eq_false_iff_ne.2 (Ne.symm same)
        rw [Function.update_of_ne same, List.filter_cons, other]
        rfl
    rw [left]
    exact inner

end Merges

namespace Scene

/-- What is applied to a view, if it has a name. -/
def appliedUnder (scene : Scene) (name : String) (id : ViewId) : List Spec :=
  if scene.forest.nameOf id = name then (scene.applied id).map Activation.spec else []

/-- What a layout has for a name is merged from what is applied to the views of that name. -/
theorem merges_forView {scene : Scene} {layout : Layout}
    (applied : ∀ id, (scene.applied id).map Activation.spec =
      layout.constraints.filter (·.target == id)) (name : String) :
    Merges (scene.appliedUnder name) (layout.forView scene.forest name) := by
  have parts : scene.appliedUnder name =
      fun id => (layout.forView scene.forest name).filter (·.target == id) := by
    funext id
    rw [appliedUnder, applied, Layout.forView, List.filter_filter]
    split
    · next named =>
      refine List.filter_congr fun spec _ => ?_
      by_cases same : spec.target = id
      · simp [same, named]
      · simp [same]
    · next other =>
      refine (List.filter_eq_nil_iff.2 fun spec _ => ?_).symm
      intro both
      obtain ⟨same, named⟩ := Bool.and_eq_true_iff.1 both
      rw [beq_iff_eq.1 same] at named
      exact other (beq_iff_eq.1 named)
  rw [parts]
  exact merges_filter Spec.target _

end Scene

/-- The accounts that a pass leaves of a layout: what the emitter and the views have of it. -/
structure Accounts (environment : SizeClasses) (built : List ViewId) (layout : Layout)
    (scene : Scene) : Prop where
  /-- The emitter has a record of each constraint, in the same order. -/
  emitted : scene.emitted.map Activation.spec = layout.constraints
  /-- Every view shares those of the emitter's records that are for it. -/
  filed : scene.Filed
  applied : ∀ id < scene.forest.size,
    scene.applied id = scene.emitted.filter (·.spec.target == id)
  /-- Views that were not built have none. -/
  unbuilt : ∀ id, id ∉ built → scene.forest.appliedTo id = []
  /-- As many records are active as there are constraints that the environment admits. -/
  active : scene.emitted.countP (·.active) =
    layout.constraints.countP (·.sizeClasses.admits environment)
  /-- What the layout has for a name is merged from what is applied to the views of that name. -/
  forView : ∀ name, Merges (scene.appliedUnder name) (layout.forView scene.forest name)

variable {environment : SizeClasses} {built : List ViewId} {layout : Layout} {scene : Scene}

/-- The accounts of a layout are those of its constraints. -/
theorem Accounts.of_constraints_eq {other : Layout}
    (accounts : Accounts environment built layout scene)
    (same : other.constraints = layout.constraints) :
    Accounts environment built other scene where
  emitted := accounts.emitted.trans same.symm
  filed := accounts.filed
  applied := accounts.applied
  unbuilt := accounts.unbuilt
  active := by rw [same, accounts.active]
  forView := by
    intro name
    rw [Layout.forView, same]
    exact accounts.forView name

namespace Scene.Gated

/-- The emitter has the constraints that it was asked to emit. -/
theorem specs_emitted {specs : List Spec} (gated : scene.Gated environment specs) :
    scene.emitted.map Activation.spec = specs := by
  rw [gated.emitted, List.map_map]
  exact List.map_id _

/-- What is applied to a view are the constraints for it. -/
theorem specs_applied {specs : List Spec} (gated : scene.Gated environment specs)
    (inside : ∀ spec ∈ specs, spec.target < scene.forest.size) (id : ViewId) :
    (scene.applied id).map Activation.spec = specs.filter (·.target == id) := by
  by_cases known : id < scene.forest.size
  · rw [gated.applied id known, gated.emitted, List.filter_map, List.map_map]
    exact List.map_id _
  · have missing : scene.forest.view? id = none := List.getElem?_eq_none (Nat.le_of_not_lt known)
    have none : specs.filter (·.target == id) = [] := by
      refine List.filter_eq_nil_iff.2 fun spec member same => known ?_
      exact beq_iff_eq.1 same ▸ inside spec member
    rw [none, Scene.applied, missing]
    rfl

/-- A view that no constraint is for has no record. -/
theorem appliedTo_eq_nil {specs : List Spec} (gated : scene.Gated environment specs) {id : ViewId}
    (none : ∀ spec ∈ specs, spec.target ≠ id) : scene.forest.appliedTo id = [] := by
  by_cases known : id < scene.forest.size
  · rw [gated.filed id known]
    refine List.filter_eq_nil_iff.2 fun position member here => ?_
    obtain ⟨record, stands, same⟩ := Option.any_eq_true _ _ |>.1 here
    have recorded : record ∈ scene.emitted := List.mem_filterMap.2 ⟨position, member, stands⟩
    have own : record.spec ∈ specs := by
      rw [← gated.specs_emitted]
      exact List.mem_map_of_mem recorded
    exact none record.spec own (beq_iff_eq.1 same)
  · have missing : scene.forest.view? id = Option.none :=
      List.getElem?_eq_none (Nat.le_of_not_lt known)
    rw [Forest.appliedTo, missing]
    rfl

/-- The accounts of a layout are right if its constraints are gated and are for views that were
built. -/
theorem accounts (gated : scene.Gated environment layout.constraints)
    (aimed : ∀ spec ∈ layout.constraints, spec.target ∈ built)
    (inside : ∀ id ∈ built, id < scene.forest.size) :
    Accounts environment built layout scene where
  emitted := gated.specs_emitted
  filed := gated.filed
  applied := gated.applied
  unbuilt := fun id other => gated.appliedTo_eq_nil fun spec member same =>
    other (same ▸ aimed spec member)
  active := by
    rw [gated.emitted, List.countP_map]
    rfl
  forView := Scene.merges_forView
    (gated.specs_applied fun spec member => inside _ (aimed spec member))

end Scene.Gated

namespace Pass

variable {settings : Settings} {document : Document} {root : ViewId}

/-- All views that are built are in the forest. -/
theorem lt_size_of_built (formed : scene.forest.WellFormed) (inside : root < scene.forest.size)
    (indexed : ∀ name id, scene.index.get? name = some id → id < scene.forest.size)
    {entry : Description × ViewId} (listed : entry ∈ (hierarchy document root scene).built) :
    entry.2 < (hierarchy document root scene).scene.forest.size := by
  have leads := leads_hierarchy formed inside indexed document
  exact Building.lt_size_of_atOrAbove leads.sound.inside (leads.sound.under entry listed)

/-- Nothing is applied while the hierarchy is built. -/
theorem unapplied_hierarchy (unapplied : scene.Unapplied) (document : Document) (root : ViewId) :
    (hierarchy document root scene).scene.Unapplied := by
  intro id
  have keeps := Scene.keepsRecords_buildHierarchy
    { scene with index := scene.index.put (scene.forest.nameOf root) root } root document.root
  exact (congrFun keeps.applied id).trans (unapplied id)

/-- A pass with a new emitter leaves its constraints gated. -/
theorem gated_compile (unapplied : scene.Unapplied)
    (returned : (compile settings document root (scene.renewed environment)).result = .ok layout) :
    (compile settings document root (scene.renewed environment)).scene.Gated environment
      layout.constraints := by
  rw [scene_of_compile returned, Scene.renewed, hierarchy_withEmitter]
  exact (unapplied_hierarchy unapplied document root).gated environment layout.constraints

theorem compile_accounts (unapplied : scene.Unapplied) (formed : scene.forest.WellFormed)
    (inside : root < scene.forest.size)
    (indexed : ∀ name id, scene.index.get? name = some id → id < scene.forest.size)
    (returned : (compile settings document root (scene.renewed environment)).result = .ok layout) :
    Accounts environment ((hierarchy document root scene).built.map Prod.snd) layout
      (compile settings document root (scene.renewed environment)).scene := by
  have same : hierarchy document root (scene.renewed environment) =
      (hierarchy document root scene).withEmitter (.recording environment []) :=
    hierarchy_withEmitter ..
  refine (gated_compile unapplied returned).accounts ?_ ?_
  · intro spec member
    obtain ⟨directive, ⟨entry, listed, target, _⟩, _⟩ := (mem_constraints_iff returned).1 member
    rw [same] at listed
    exact List.mem_map.2 ⟨entry, listed, target⟩
  · intro id listed
    obtain ⟨entry, built, rfl⟩ := List.mem_map.1 listed
    rw [(alike_compile ..).size_eq, same]
    exact lt_size_of_built formed inside indexed built

end Pass

/-- **No constraint is lost or doubled between a layout, the emitter and the views.** -/
theorem compileSource_accounts {settings : Settings} {source : Value} {root : ViewId}
    (unapplied : scene.Unapplied) (formed : scene.forest.WellFormed)
    (inside : root < scene.forest.size)
    (returned : (compileSource settings source root
      (scene.renewed settings.config.environment)).result = .ok layout) :
    ∃ document, (settings.read source).value = .ok document ∧
      Accounts settings.config.environment
        ((Pass.hierarchy document root { scene with index := [] }).built.map Prod.snd) layout
        (compileSource settings source root (scene.renewed settings.config.environment)).scene := by
  obtain ⟨document, inner, read, ended, same⟩ := pass_of_compileSource returned
  have unindexed : Scene.Unapplied { scene with index := [] } := unapplied
  have accounts := Pass.compile_accounts unindexed formed inside
    (fun name id meant => by cases meant) ended
  refine ⟨document, read, ?_⟩
  rw [compileSource_of_read read]
  exact accounts.of_constraints_eq same

/-- Settings for a narrow window. -/
def narrow : Settings where
  config := { horizontalSizeClass := .compact }

/-- A window with two labels, one of them in a panel. -/
def labelledSource : Value :=
  .mapping
    [(.text "constraints",
      .mapping [(.text "width", .text "+20 hr"), (.text "top", .text "@nowhere")]),
      (.text "views",
        .mapping
          [(.text "!label",
            .mapping [(.text "constraints", .mapping [(.text "height", .text "+8")])]),
            (.text "!panel",
              .mapping
                [(.text "views",
                  .mapping
                    [(.text "!label",
                      .mapping
                        [(.text "constraints", .mapping [(.text "width", .text "+4 hc")])])])])])]

/-- What is read from that source. -/
def labelled : Document where
  root :=
    { name := "root"
      constraints :=
        [⟨"width", .shorthand "+20 hr", .collecting .source .log⟩,
          ⟨"top", .shorthand "@nowhere", .collecting .source .log⟩]
      subviews :=
        [{ name := "label", isNew := true
           constraints := [⟨"height", .shorthand "+8", .collecting .source .log⟩] },
          { name := "panel", isNew := true
            subviews :=
              [{ name := "label", isNew := true
                 constraints := [⟨"width", .shorthand "+4 hc", .collecting .source .log⟩] }] }] }

/-- The window's width is for wider environments, and its top has no constraint. -/
theorem compileSource_accounts_labelled :
    ∃ layout,
      (compileSource narrow labelledSource 0
        (Pass.oneView.renewed narrow.config.environment)).result = .ok layout ∧
      layout.constraints.map Spec.target = [0, 1, 3] ∧
      layout.constraints.countP (·.sizeClasses.admits narrow.config.environment) = 2 ∧
      ∃ document, (narrow.read labelledSource).value = .ok document ∧
        Accounts narrow.config.environment
          ((Pass.hierarchy document 0 { Pass.oneView with index := [] }).built.map Prod.snd) layout
          (compileSource narrow labelledSource 0
            (Pass.oneView.renewed narrow.config.environment)).scene := by
  have read : (narrow.read labelledSource).value = .ok labelled := rfl
  have done : Pass.Done narrow.inSource labelled 0
      { Pass.oneView.renewed narrow.config.environment with index := [] } :=
    Pass.done_of_untemplated (by decide) (by decide)
  have ended := congrArg Outcome.result (Pass.compile_eq_ending done)
  have constraints := Pass.constraints_of_untemplated ended (by decide)
  have returned := result_of_read read ended
  refine ⟨_, returned, ?_, ?_, compileSource_accounts Pass.unapplied_oneView
    (Forest.wellFormed_after [.create "window" none none]) (by decide) returned⟩
  · rw [constraints]
    decide
  · rw [constraints]
    decide

end ViewLayout
