import Mathlib.Data.List.Nodup
import ViewLayout.Pass.Report
import ViewLayout.Proofs.Constraint.Renumbering
import ViewLayout.Proofs.Pass.Comparison
import ViewLayout.Proofs.Pass.Matching
import ViewLayout.Proofs.Pass.Naming
import ViewLayout.Proofs.Pass.Orders

/-!
# The order of subviews does not matter

Where the subviews of descriptions come in another order, the same orders are given for the same
views, by other numbers and in another sequence. Each of them comes to the same, and as no two are
for one view, the constraints of each view keep their order. `compile_reorders` says so of whole
passes.
-/

namespace ViewLayout

/-- The record of a constraint for views with other numbers. -/
def Activation.renumber (number : ViewId → ViewId) (record : Activation) : Activation :=
  { record with spec := record.spec.renumber number }

/-- An order for a view with another number. -/
def Order.renumber (number : ViewId → ViewId) (order : Order) : Order :=
  { order with target := number order.target }

section Orders

variable {number : ViewId → ViewId} {scope other : Scope} {templates : Table Description}
  {orders reordered : List Order}

namespace Order

/-- The specs of an order have the other numbers. -/
theorem specs_renumber (renumbers : scope.Renumbers number other) (templates : Table Description)
    (order : Order) :
    (order.renumber number).specs templates other =
      (order.specs templates scope).map (Spec.renumber number) := by
  rw [specs, specs, List.map_flatMap]
  exact congrArg (List.flatMap · _) (funext fun directive => renumbers.specsOf_eq _ directive)

/-- What is told of an order holds no numbers. -/
theorem told_renumber (renumbers : scope.Renumbers number other) (templates : Table Description)
    (order : Order) :
    (order.renumber number).told templates other = order.told templates scope :=
  congrArg (_ ++ List.flatMap · _)
    (funext fun directive => renumbers.diagnosticsOf_eq _ directive)

/-- The constraints of an order are for its view. -/
theorem target_of_mem_specs {order : Order}
    (read : ∀ directive ∈ order.directives templates,
      (scope.establishment .log order.target directive).failure = none) {spec : Spec}
    (own : spec ∈ order.specs templates scope) : spec.target = order.target := by
  obtain ⟨directive, given, own⟩ := List.mem_flatMap.1 own
  obtain ⟨_, _, _, _, _, rfl⟩ := Scope.exists_context_of_mem_specsOf (read directive given) own
  rfl

end Order

/-- A list of one item at most has one order. -/
theorem eq_of_perm_of_length_le_one {α : Type} {first second : List α}
    (permuted : first.Perm second) (short : second.length ≤ 1) : first = second := by
  match second with
  | [] => exact permuted.eq_nil
  | [_] => exact List.perm_singleton.1 permuted

/-- Where all keys are different, at most one order has a given one. -/
theorem length_filter_le_one {κ : Type} [DecidableEq κ] {key : Order → κ}
    (distinct : (orders.map key).Nodup) (value : κ) :
    (orders.filter fun order => key order == value).length ≤ 1 := by
  have once := List.nodup_iff_count_le_one.1 distinct value
  rwa [List.count, List.countP_map, List.countP_eq_length_filter] at once

/-- The constraints for chosen views are those of the orders for them. -/
theorem filter_flatMap_specs
    (aimed : ∀ order ∈ orders, ∀ spec ∈ order.specs templates scope, spec.target = order.target)
    (chosen : ViewId → Bool) :
    (orders.flatMap (Order.specs templates scope)).filter (fun spec => chosen spec.target) =
      (orders.filter fun order => chosen order.target).flatMap (Order.specs templates scope) := by
  induction orders with
  | nil => rfl
  | cons order rest inner =>
    have later := inner fun order member => aimed order (List.mem_cons_of_mem _ member)
    have here : (order.specs templates scope).filter (fun spec => chosen spec.target) =
        if chosen order.target then order.specs templates scope else [] := by
      rw [List.filter_congr fun spec own => by rw [aimed order List.mem_cons_self spec own]]
      split
      · next yes => simp [yes]
      · next no => simp [no]
    rw [List.flatMap_cons, List.filter_append, later, here, List.filter_cons]
    split
    · rw [List.flatMap_cons]
    · rfl

/-- The specs of several orders have the other numbers. -/
theorem flatMap_specs_renumber (renumbers : scope.Renumbers number other)
    (templates : Table Description) (orders : List Order) :
    (orders.map (Order.renumber number)).flatMap (Order.specs templates other) =
      (orders.flatMap (Order.specs templates scope)).map (Spec.renumber number) := by
  rw [List.flatMap_map, List.map_flatMap]
  exact congrArg (List.flatMap · orders) (funext (Order.specs_renumber renumbers templates))

/-- The orders come to the same constraints, for views with other numbers and in another
sequence. -/
theorem perm_flatMap_specs (templates : Table Description)
    (renumbers : scope.Renumbers number other)
    (permuted : reordered.Perm (orders.map (Order.renumber number))) :
    (reordered.flatMap (Order.specs templates other)).Perm
      ((orders.flatMap (Order.specs templates scope)).map (Spec.renumber number)) := by
  rw [← flatMap_specs_renumber renumbers]
  exact permuted.flatMap_right _

/-- What is told of several orders is told in another order. -/
theorem perm_flatMap_told (templates : Table Description)
    (renumbers : scope.Renumbers number other)
    (permuted : reordered.Perm (orders.map (Order.renumber number))) :
    (reordered.flatMap (Order.told templates other)).Perm
      (orders.flatMap (Order.told templates scope)) := by
  have whole := permuted.flatMap_right (Order.told templates other)
  rwa [List.flatMap_map, funext (Order.told_renumber renumbers templates)] at whole

/-- Constraints for one view come in the same order, whatever comes before and after them: no
other order has its key. -/
theorem filter_flatMap_reordered {κ : Type} [DecidableEq κ] (key keyThere : ViewId → κ)
    (renumbers : scope.Renumbers number other)
    (permuted : reordered.Perm (orders.map (Order.renumber number)))
    (aimed : ∀ order ∈ orders, ∀ spec ∈ order.specs templates scope, spec.target = order.target)
    (same : ∀ id, keyThere (number id) = key id)
    (distinct : (orders.map fun order => key order.target).Nodup) (value : κ) :
    (reordered.flatMap (Order.specs templates other)).filter
        (fun spec => keyThere spec.target == value) =
      ((orders.flatMap (Order.specs templates scope)).filter
        fun spec => key spec.target == value).map (Spec.renumber number) := by
  have aimedThere : ∀ order ∈ reordered, ∀ spec ∈ order.specs templates other,
      spec.target = order.target := by
    intro order member spec own
    obtain ⟨before, listed, rfl⟩ := List.mem_map.1 (permuted.mem_iff.1 member)
    rw [Order.specs_renumber renumbers] at own
    obtain ⟨old, ownBefore, rfl⟩ := List.mem_map.1 own
    exact congrArg number (aimed before listed old ownBefore)
  have picked : (reordered.filter fun order => keyThere order.target == value).Perm
      ((orders.filter fun order => key order.target == value).map (Order.renumber number)) := by
    have whole := permuted.filter fun order => keyThere order.target == value
    rw [List.filter_map] at whole
    refine whole.trans (.of_eq (congrArg _ (List.filter_congr fun order _ => ?_)))
    exact congrArg (· == value) (same order.target)
  have alone := length_filter_le_one distinct value
  -- With one order left on either side at most, they can only be left in one sequence.
  rw [filter_flatMap_specs aimedThere fun id => keyThere id == value,
    filter_flatMap_specs aimed fun id => key id == value,
    eq_of_perm_of_length_le_one picked (by rwa [List.length_map]),
    flatMap_specs_renumber renumbers]

end Orders

/-- A spec is written with the names of its views, which stay. -/
theorem Spec.toValue_renumber {number : ViewId → ViewId} {forest next : Forest}
    (named : ∀ id, next.nameOf (number id) = forest.nameOf id) (spec : Spec) :
    (spec.renumber number).toValue next = spec.toValue forest := by
  simp only [toValue, toEntries, renumber, named, Option.map_map, Function.comp_def]
  rfl

namespace Pass

variable {settings : Settings} {document other : Document} {root : ViewId} {scene : Scene}

/-- The same orders are given, for views with other numbers and one after the other in another
way. -/
theorem Matched.perm_orders (matched : Matched document other root scene)
    (shuffles : document.root.Shuffles other.root) :
    (orders other root scene).Perm
      ((orders document root scene).map
        (Order.renumber (renumbering document other root scene))) := by
  have first : Order.of (other.root, root) =
      (Order.of (document.root, root)).renumber (renumbering document other root scene) := by
    rw [shuffles.eq_of_same (fun description => Order.of (description, root)) fun _ _ => rfl,
      Order.renumber, Order.of, renumbering_old matched.fresh.inside]
  have each : ∀ placed ∈ document.root.walk.tail,
      Order.of (placed.2, ((hierarchy other root scene).scene.index.get? placed.2.name).getD 0) =
        (Order.of (placed.2,
          ((hierarchy document root scene).scene.index.get? placed.2.name).getD 0)).renumber
            (renumbering document other root scene) := by
    intro placed listed
    obtain ⟨id, seat, _, _⟩ := matched.fresh.exists_named listed
    rw [matched.get?_index, matched.fresh.meant seat]
    rfl
  have later := shuffles.perm_walk (fun description => Order.of (description,
    ((hierarchy other root scene).scene.index.get? description.name).getD 0)) fun _ _ => rfl
  rw [List.map_congr_left each] at later
  rw [orders, orders, matched.again.built_eq, matched.fresh.built_eq, List.map_cons, List.map_cons,
    List.map_cons, List.map_map, List.map_map, List.map_map, first]
  exact later.cons _

/-- The views that orders are given for have different names. -/
theorem Fresh.nodup_orders (fresh : Fresh document root scene) :
    ((orders document root scene).map fun order =>
      (hierarchy document root scene).scene.forest.nameOf order.target).Nodup := by
  have each : ∀ placed ∈ document.root.walk.tail,
      (hierarchy document root scene).scene.forest.nameOf
        (((hierarchy document root scene).scene.index.get? placed.2.name).getD 0) =
          placed.2.name := by
    intro placed listed
    obtain ⟨id, seat, _, named⟩ := fresh.exists_named listed
    rw [fresh.meant seat, Option.getD_some, Forest.nameOf_eq_getD, named, Option.getD_some]
  have distinct := fresh.distinct
  rw [← List.map_congr_left each, ← fresh.nameOf_root] at distinct
  rw [orders, fresh.built_eq, List.map_cons, List.map_cons, List.map_map, List.map_map]
  exact distinct

/-- Directives are resolved in the same, but for the numbers of views. -/
theorem Matched.renumbers (matched : Matched document other root scene)
    (shuffles : document.root.Shuffles other.root)
    (known : ∀ name id, settings.environment.get? name = some (.view id) → id < scene.forest.size) :
    (scope settings document root scene).Renumbers (renumbering document other root scene)
      (scope settings other root scene) := by
  have reorders := matched.reorders shuffles
  have surroundings (name : String) :
      (settings.environment.get? name >>= Surrounding.view?).map
        (renumbering document other root scene) =
          (settings.environment.get? name >>= Surrounding.view?) := by
    cases found : settings.environment.get? name with
    | none => rfl
    | some surrounding =>
      cases surrounding with
      | other => rfl
      | view id => exact congrArg some (renumbering_old (known name id found))
  exact {
    parents := reorders.parent?_eq
    named := reorders.nameOf_eq
    shares := reorders.sharesAncestry_eq matched.fresh.formed_hierarchy
      matched.again.formed_hierarchy
    meant := by
      intro name
      have index := matched.get?_index name
      simp only [Scope.lookup?, scope, Settings.scope, index, Option.map_or, surroundings]
    config := rfl }

/-- The records of specs have the other numbers. -/
theorem records_renumber (scene : Scene) (number : ViewId → ViewId) (specs : List Spec) :
    scene.records (specs.map (Spec.renumber number)) =
      (scene.records specs).map (Activation.renumber number) := by
  rw [Scene.records, Scene.records, List.filterMap_map, List.map_filterMap]
  refine congrArg (List.filterMap · specs) (funext fun spec => ?_)
  simp only [Function.comp_apply, Scene.record?, Option.map_map]
  rfl

/-- Where a view has another number, nothing was applied before. -/
theorem Matched.applied_renumbering (matched : Matched document other root scene) (id : ViewId) :
    scene.applied (renumbering document other root scene id) = scene.applied id := by
  by_cases old : id < scene.forest.size
  · rw [renumbering_old old]
  · have outside : ¬ renumbering document other root scene id < scene.forest.size := by
      intro inside
      have same := matched.bijective.injective (renumbering_old inside)
      rw [same] at inside
      exact old inside
    have missing {id : ViewId} (beyond : ¬ id < scene.forest.size) : scene.applied id = [] := by
      rw [Scene.applied, Forest.view?_eq_none_iff.2 (Nat.le_of_not_lt beyond)]
      rfl
    rw [missing old, missing outside]

/-- The constraints of an order are for its view, in a pass that can do its tasks. -/
theorem Done.aimed (done : Done settings document root scene) :
    ∀ order ∈ orders document root scene,
      ∀ spec ∈ order.specs document.templates (scope settings document root scene),
        spec.target = order.target := by
  intro order listed spec
  refine Order.target_of_mem_specs fun directive own => ?_
  have given : Given document root scene order.target directive :=
    given_iff.2 ⟨order, listed, rfl, own⟩
  exact given.unfailed done _

/-- A pass can do its tasks if it can with subviews in another order. -/
theorem Matched.done (matched : Matched document other root scene)
    (shuffles : document.root.Shuffles other.root)
    (templates : other.templates = document.templates)
    (known : ∀ name id, settings.environment.get? name = some (.view id) → id < scene.forest.size)
    (done : Done settings document root scene) : Done settings other root scene := by
  obtain ⟨_, grows⟩ := matched.again.grows
  refine done_of_given grows.unfailed fun target directive given => ?_
  obtain ⟨order, listed, rfl, own⟩ := given_iff.1 given
  obtain ⟨before, listedBefore, rfl⟩ :=
    List.mem_map.1 ((matched.perm_orders shuffles).mem_iff.1 listed)
  rw [templates] at own
  have givenBefore : Given document root scene before.target directive :=
    given_iff.2 ⟨before, listedBefore, rfl, own⟩
  exact ((matched.renumbers shuffles known).establishment_eq _ before.target directive).2.trans
    (givenBefore.unfailed done _)

/-- The two passes leave views that differ in their numbers and in the order of subviews. -/
theorem Matched.reorders_compile (matched : Matched document other root scene)
    (shuffles : document.root.Shuffles other.root) (settings : Settings) :
    Forest.Reorders (renumbering document other root scene)
      (compile settings document root scene).scene.forest
      (compile settings other root scene).scene.forest :=
  (matched.reorders shuffles).of_bare_eq (alike_compile settings document root scene).forest
    (alike_compile settings other root scene).forest

/-- For each view constraints come in the same order. -/
theorem Matched.filter_target_eq (matched : Matched document other root scene)
    (shuffles : document.root.Shuffles other.root)
    (known : ∀ name id, settings.environment.get? name = some (.view id) → id < scene.forest.size)
    (done : Done settings document root scene) (id : ViewId) :
    ((orders other root scene).flatMap
        (Order.specs document.templates (scope settings other root scene))).filter
          (·.target == renumbering document other root scene id) =
      (((orders document root scene).flatMap
        (Order.specs document.templates (scope settings document root scene))).filter
          (·.target == id)).map (Spec.renumber (renumbering document other root scene)) := by
  -- Orders are for views with different names, so they are for different views.
  have targets : ((orders document root scene).map fun order =>
      renumbering document other root scene order.target).Nodup := by
    refine .of_map (hierarchy other root scene).scene.forest.nameOf ?_
    rw [List.map_map]
    simpa only [Function.comp_def, (matched.reorders shuffles).nameOf_eq] using
      matched.fresh.nodup_orders
  have same (spec : Spec) :
      (renumbering document other root scene spec.target ==
        renumbering document other root scene id) = (spec.target == id) := by
    rw [Bool.eq_iff_iff, beq_iff_eq, beq_iff_eq]
    exact matched.bijective.injective.eq_iff
  simp only [← same]
  exact filter_flatMap_reordered (renumbering document other root scene) (fun id => id)
    (matched.renumbers shuffles known) (matched.perm_orders shuffles) done.aimed (fun _ => rfl)
    targets _

/-- What comes of describing subviews in another order: the same views by other numbers, with
the same constraints. -/
structure Reordered (number : ViewId → ViewId) (scene : Scene) (layout other : Layout)
    (after next : Scene) : Prop where
  /-- Views that there were keep their numbers. -/
  kept : ∀ id < scene.forest.size, number id = id
  hierarchy : Forest.Reorders number after.forest next.forest
  index : ∀ name, next.index.get? name = (after.index.get? name).map number
  constraints : other.constraints.Perm (layout.constraints.map (Spec.renumber number))
  /-- Constraints are written as the same values. -/
  values : (other.constraints.map (Spec.toValue next.forest)).Perm
    (layout.constraints.map (Spec.toValue after.forest))
  /-- For each name they come in the same order. -/
  forView : ∀ name, other.forView next.forest name =
    (layout.forView after.forest name).map (Spec.renumber number)
  valuesForView : ∀ name, (other.forView next.forest name).map (Spec.toValue next.forest) =
    (layout.forView after.forest name).map (Spec.toValue after.forest)
  diagnostics : other.diagnostics.Perm layout.diagnostics
  /-- The same is applied to each view, if all records were in the ledger. -/
  applied : scene.Recorded → ∀ id < after.forest.size, ∃ records,
    after.applied id = scene.applied id ++ records ∧
      next.applied (number id) = scene.applied id ++ records.map (Activation.renumber number)

/-- **The order in which subviews are described does not matter**, wherever it is changed. What
names mean outside the index are views that there were before. -/
theorem compile_reorders (fresh : Fresh document root scene)
    (known : ∀ name id, settings.environment.get? name = some (.view id) → id < scene.forest.size)
    (shuffles : document.root.Shuffles other.root)
    (templates : other.templates = document.templates) {layout : Layout}
    (returned : (compile settings document root scene).result = .ok layout) :
    ∃ reordered, (compile settings other root scene).result = .ok reordered ∧
      Reordered (renumbering document other root scene) scene layout reordered
        (compile settings document root scene).scene (compile settings other root scene).scene := by
  have done := done_of_compile returned
  have matched := fresh.matched shuffles
  have renumbers := matched.renumbers shuffles known
  have permuted := matched.perm_orders shuffles
  have hierarchy := matched.reorders_compile shuffles settings
  have alike := alike_compile settings document root scene
  have alikeThere := alike_compile settings other root scene
  have ended := result_eq (matched.done shuffles templates known done)
  rw [ordered, templates] at ended
  have resulted := result_eq done
  rw [ordered] at resulted
  obtain rfl := Except.ok.inj (resulted.symm.trans returned)
  have written : ∀ specs : List Spec,
      (specs.map (Spec.renumber (renumbering document other root scene))).map
          (Spec.toValue (compile settings other root scene).scene.forest) =
        specs.map (Spec.toValue (compile settings document root scene).scene.forest) := by
    intro specs
    rw [List.map_map]
    exact List.map_congr_left fun spec _ => Spec.toValue_renumber hierarchy.nameOf_eq spec
  have constraints := perm_flatMap_specs document.templates renumbers permuted
  have distinct := fresh.nodup_orders
  simp only [← alike.nameOf_eq] at distinct
  have forView := filter_flatMap_reordered _ _ renumbers permuted done.aimed hierarchy.nameOf_eq
    distinct
  refine ⟨_, ended, ?_⟩
  exact {
    kept := fun id => renumbering_old
    hierarchy
    index := by
      intro name
      rw [alike.index, alikeThere.index]
      exact matched.get?_index name
    constraints
    values := by
      rw [← written]
      exact constraints.map _
    forView
    valuesForView := by
      intro name
      rw [← written]
      exact congrArg _ (forView name)
    diagnostics := by
      rw [matched.fresh.untold, matched.again.untold]
      exact perm_flatMap_told _ renumbers permuted
    applied := by
      intro recorded id inside
      have insideThere := hierarchy.lt_size inside
      rw [alike.size_eq] at inside
      rw [alikeThere.size_eq] at insideThere
      refine ⟨_, applied_of_compile recorded returned inside, ?_⟩
      rw [applied_of_compile recorded ended insideThere, matched.applied_renumbering,
        ← records_renumber, ← matched.filter_target_eq shuffles known done] }

/-- A window with a page and a title, of which the body of the page refers to the title. -/
def paged : Document where
  root :=
    { name := "window"
      subviews :=
        [{ name := "page", isNew := true
           subviews :=
             [{ name := "header", isNew := true },
               { name := "body", isNew := true
                 constraints := [⟨"top", .shorthand "@title", .log⟩] }] },
          { name := "title", isNew := true }] }

/-- The same window with its title first, and the page with its body first. -/
def repaged : Document where
  root :=
    { name := "window"
      subviews :=
        [{ name := "title", isNew := true },
          { name := "page", isNew := true
            subviews :=
              [{ name := "body", isNew := true
                 constraints := [⟨"top", .shorthand "@title", .log⟩] },
                { name := "header", isNew := true }] }] }

/-- The pages are shuffled. -/
theorem shuffles_repaged : paged.root.Shuffles repaged.root :=
  .intro paged.root (.swap _ _ _) <|
    .cons (.intro _ .nil .nil) <|
      .cons (.intro _ (.swap _ _ _) (.cons (.intro _ .nil .nil) (.cons (.intro _ .nil .nil) .nil)))
        .nil

/-- Settings in which a name outside the index means the window. -/
def panelled : Settings where
  environment := [("panel", .view 0)]

/-- The body of the page refers to the title wherever both of them stand. -/
theorem compile_reorders_repaged :
    ∃ layout reordered, (compile panelled paged 0 oneView).result = .ok layout ∧
      (compile panelled repaged 0 oneView).result = .ok reordered ∧
        Reordered (renumbering paged repaged 0 oneView) oneView layout reordered
          (compile panelled paged 0 oneView).scene (compile panelled repaged 0 oneView).scene ∧
        (List.range 5).map (renumbering paged repaged 0 oneView) = [0, 2, 4, 3, 1] ∧
        layout.constraints.map (fun spec => (spec.target, spec.comparableView)) =
          [(3, some 4)] := by
  have fresh : Fresh paged 0 oneView := fresh_oneView (by decide) (by decide)
  have known : ∀ name id, panelled.environment.get? name = some (.view id) →
      id < oneView.forest.size := by
    intro name id found
    simp only [panelled, Table.get?] at found
    split at found <;> cases found
    decide
  have done : Done panelled paged 0 oneView :=
    done_of_untemplated (by decide) (by decide)
  have returned := congrArg Outcome.result (compile_eq_ending done)
  obtain ⟨reordered, again, same⟩ := compile_reorders fresh known shuffles_repaged rfl returned
  have untemplated : ∀ entry ∈ (hierarchy paged 0 oneView).built, entry.1.templates = [] := by
    decide
  have directives : ∀ entry ∈ (hierarchy paged 0 oneView).built,
      (Order.of entry).directives paged.templates = entry.1.constraints := by
    intro entry listed
    simp [Order.directives, Order.of, untemplated entry listed, Template.expand, Reported.clean]
  have constraints : (layoutOf (hierarchy paged 0 oneView)
      (steps panelled paged 0 oneView)).constraints =
        (hierarchy paged 0 oneView).built.flatMap fun entry => entry.1.constraints.flatMap
          ((scope panelled paged 0 oneView).specsOf entry.2) := by
    refine specs_steps.trans (List.flatMap_congr fun entry listed => ?_)
    rw [directives entry listed]
  refine ⟨_, reordered, returned, again, same, by decide, ?_⟩
  exact (congrArg _ constraints).trans (by decide)

end Pass

end ViewLayout
