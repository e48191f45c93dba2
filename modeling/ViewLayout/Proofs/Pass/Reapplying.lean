import ViewLayout.Proofs.Pass.Fresh
import ViewLayout.Proofs.Pass.Orders

/-!
# Applying a layout again

A pass over a document of new views with different names leaves every view where the document
describes it, and known by its name. `Forest.Stands` says so of a subtree, and a description that
stands is found by a second pass and changed in nothing. So the second pass leaves all as it is and
comes to the same layout.
-/

namespace ViewLayout

namespace Description

mutual

/-- A description of which all views are to be looked up. -/
def existing : Description → Description
  | ⟨name, _, superclass, constraints, properties, zIndex, templates, subviews⟩ =>
    ⟨name, false, superclass, constraints, properties, zIndex, templates, existingAll subviews⟩

/-- Descriptions of which all views are to be looked up. -/
def existingAll : List Description → List Description
  | [] => []
  | description :: rest => description.existing :: existingAll rest

end

/-- Only the marks of new views are taken from a description. -/
theorem existing_eq (description : Description) :
    description.existing =
      { description with isNew := false, subviews := existingAll description.subviews } := by
  cases description
  rw [existing]

end Description

/-- The document that describes the same views as ones that are there. -/
def Document.existing (document : Document) : Document :=
  { document with root := document.root.existing }

namespace Forest

/-- Names do not depend on what is applied. -/
theorem names_eq_of_bare_eq {forest next : Forest} (same : next.bare = forest.bare) :
    next.names = forest.names := by
  have bare (forest : Forest) : forest.bare.names = forest.names := by
    simp [names, Forest.bare, View.bare]
  rw [← bare, same, bare]

/-- A view that is changed to itself stays as it is. -/
theorem modify_eq_self {forest : Forest} {id : ViewId} {view : View} {change : View → View}
    (found : forest.view? id = some view) (same : change view = view) :
    forest.modify id change = forest := by
  rw [modify, Forest.mk.injEq]
  apply List.ext_getElem?
  intro other
  rw [List.getElem?_modify]
  by_cases here : id = other
  · subst here
    have held : forest.views[id]? = some view := found
    simp [held, same]
  · simp [here]

mutual

/-- A description stands below a view: its name means a view there that is as it says, and its
subviews stand below that one. -/
inductive Stands (forest : Forest) (index : ViewIndex) : ViewId → Description → Prop
  | intro {parent id : ViewId} {view : View} {description : Description}
    (known : index.get? description.name = some id) (found : forest.view? id = some view)
    (placed : view.parent = some parent) (zIndex : view.zIndex = description.zIndex)
    (properties : view.properties.putAll description.properties = view.properties)
    (subviews : StandsAll forest index id description.subviews) :
    Stands forest index parent description

/-- Each of some descriptions stands below a view. -/
inductive StandsAll (forest : Forest) (index : ViewIndex) : ViewId → List Description → Prop
  | nil {parent : ViewId} : StandsAll forest index parent []
  | cons {parent : ViewId} {description : Description} {rest : List Description}
    (first : Stands forest index parent description)
    (others : StandsAll forest index parent rest) :
    StandsAll forest index parent (description :: rest)

end

variable {forest : Forest} {index : ViewIndex} {since : Nat}

mutual

/-- A description stands that a view mirrors, if new views are known by their names. -/
theorem Mirrors.stands (formed : forest.WellFormed)
    (known : ∀ id view, since ≤ id → forest.view? id = some view →
      index.get? view.name = some id) :
    ∀ {parent id : ViewId} {description : Description}, forest.Mirrors since id description →
      forest.parent? id = some parent → forest.Stands index parent description
  | parent, id, description, @Mirrors.intro _ _ _ view _ fresh found name _ zIndex properties
      subviews, placed => by
    have below : ∀ other ∈ view.subviews, forest.parent? other = some id := by
      intro other listed
      rw [← subviewsOf_of_view? found] at listed
      exact formed.mem_subviewsOf_iff.1 listed
    refine .intro (name ▸ known id view fresh found) found ?_ zIndex ?_
      (MirrorsAll.stands formed known subviews below)
    · rwa [← parent?_of_view? found]
    · rw [properties, Table.putAll_putAll]

/-- Subviews that mirror their descriptions stand below their parent. -/
theorem MirrorsAll.stands (formed : forest.WellFormed)
    (known : ∀ id view, since ≤ id → forest.view? id = some view →
      index.get? view.name = some id) :
    ∀ {parent : ViewId} {ids : List ViewId} {descriptions : List Description},
      forest.MirrorsAll since ids descriptions → (∀ id ∈ ids, forest.parent? id = some parent) →
        forest.StandsAll index parent descriptions
  | _, _, _, .nil, _ => .nil
  | _, _, _, .cons first others, placed =>
    .cons (Mirrors.stands formed known first (placed _ List.mem_cons_self))
      (MirrorsAll.stands formed known others fun id member =>
        placed id (List.mem_cons_of_mem _ member))

end

end Forest

namespace Building

open Description

/-- The description that a view is looked up by, with the view that its name means. -/
def lookedUp (index : ViewIndex) (placed : Placed) : Description × ViewId :=
  (placed.2.existing, (index.get? placed.2.name).getD 0)

variable {scene : Scene}

/-- A view that is there under its parent and as its description says is found and not changed. -/
theorem settle_of_stands {description : Description} {id : ViewId} {view : View}
    (found : scene.forest.view? id = some view) (zIndex : view.zIndex = description.zIndex)
    (properties : view.properties.putAll description.properties = view.properties)
    (built : List (Description × ViewId)) :
    ({ scene, built } : Building).settle description id =
      { scene, built := built ++ [(description, id)] } := by
  have same : scene.forest.modify id (fun view =>
      { view with
        zIndex := description.zIndex
        properties := view.properties.putAll description.properties }) = scene.forest := by
    refine Forest.modify_eq_self found ?_
    rw [← zIndex, properties]
  simp only [settle, withForest, same]

mutual

/-- A description that stands is built from what is there, and nothing is changed by that. -/
theorem build_existing (above : Option Description) :
    ∀ {parent : ViewId} {description : Description},
      scene.forest.Stands scene.index parent description → ∀ built,
        build parent description.existing { scene, built } =
          { scene, built := built ++ (description.listing above).map (lookedUp scene.index) }
  | parent, description, @Forest.Stands.intro _ _ _ id view _ known found placed zIndex properties
      subviews, built => by
    have there : scene.forest.parent? id = some parent :=
      (Forest.parent?_of_view? found).trans placed
    have had : ({ scene, built } : Building).materialize parent description.existing =
        ({ scene, built }, some id) := by
      simp only [existing_eq, materialize, find, known, there, Bool.false_eq_true, ↓reduceIte]
    have settled : ({ scene, built } : Building).settle description.existing id =
        { scene, built := built ++ [(description.existing, id)] } := by
      refine settle_of_stands found ?_ ?_ built
      · rw [existing_eq]
        exact zIndex
      · rw [existing_eq]
        exact properties
    have here : lookedUp scene.index (above, description) = (description.existing, id) := by
      rw [lookedUp, known, Option.getD_some]
    have subviewsOf : description.existing.subviews = existingAll description.subviews := by
      rw [existing_eq]
    rw [build_of_had rfl had, buildUnder, settled, subviewsOf,
      buildAll_existing (some description) subviews, listing_eq, List.map_cons, here,
      List.append_assoc, List.singleton_append]

/-- Building subviews that are there changes nothing. -/
theorem buildAll_existing (above : Option Description) :
    ∀ {parent : ViewId} {descriptions : List Description},
      scene.forest.StandsAll scene.index parent descriptions → ∀ built,
        buildAll parent (existingAll descriptions) { scene, built } =
          { scene, built := built ++ (listingAll above descriptions).map (lookedUp scene.index) }
  | _, _, .nil, built => by
    rw [existingAll, buildAll, listingAll, List.map_nil, List.append_nil]
  | _, _, .cons first others, built => by
    rw [existingAll, buildAll, build_existing above first, buildAll_existing above others,
      listingAll, List.map_append, List.append_assoc]

end

end Building

namespace Pass

variable {settings : Settings} {document : Document} {root : ViewId} {scene : Scene}

/-- A hierarchy whose descriptions all stand is built from what is there. -/
theorem hierarchy_existing {view : View} (found : scene.forest.view? root = some view)
    (zIndex : view.zIndex = document.root.zIndex)
    (properties : view.properties.putAll document.root.properties = view.properties)
    (known : scene.index.get? (scene.forest.nameOf root) = some root)
    (stands : scene.forest.StandsAll scene.index root document.root.subviews) :
    hierarchy document.existing root scene =
      { scene
        built := (document.root.existing, root) ::
          (Description.listingAll (some document.root) document.root.subviews).map
            (Building.lookedUp scene.index) } := by
  have subviewsOf : document.existing.root.subviews =
      Description.existingAll document.root.subviews := by
    rw [Document.existing, Description.existing_eq]
  have settled : ({ scene } : Building).settle document.existing.root root =
      { scene, built := [(document.root.existing, root)] } := by
    refine Building.settle_of_stands found ?_ ?_ []
    · rw [Document.existing, Description.existing_eq]
      exact zIndex
    · rw [Document.existing, Description.existing_eq]
      exact properties
  rw [hierarchy, Table.put_of_get? known, Scene.buildHierarchy, settled, subviewsOf,
    Building.buildAll_existing (some document.root) stands]
  rfl

/-- What comes of applying a layout again to its own views: nothing is created, moved or
reported, and the pass comes to the same layout. -/
structure Reapplied (settings : Settings) (document : Document) (root : ViewId) (scene : Scene)
    (again : Scene) (layout : Layout) : Prop where
  /-- Every description is built with the view that was made for it. -/
  hierarchy : hierarchy document.existing root again =
    { scene := again
      built := (hierarchy document root scene).built.map fun entry =>
        (entry.1.existing, entry.2) }
  result : (compile settings document.existing root again).result = .ok layout
  /-- Nothing but constraints is applied to the views, and names mean what they meant. -/
  forest : (compile settings document.existing root again).scene.forest.bare = again.forest.bare
  index : (compile settings document.existing root again).scene.index = again.index

/-- What a document describes stands once its views are made, and so is the root view. -/
theorem Fresh.stands (fresh : Fresh document root scene) {after : Scene}
    (forest : after.forest.bare = (hierarchy document root scene).scene.forest.bare)
    (index : after.index = (hierarchy document root scene).scene.index) :
    after.forest.StandsAll after.index root document.root.subviews ∧
      ∃ view, after.forest.view? root = some view ∧ view.zIndex = document.root.zIndex ∧
        view.properties.putAll document.root.properties = view.properties := by
  obtain ⟨before, ids, _, now, below⟩ := fresh.view?_root
  have kept := Forest.keepsFrom_of_bare_eq forest
  have formed := Forest.formed_of_bare_eq forest fresh.formed_hierarchy
  obtain ⟨applied, left⟩ := kept 0 root _ (Nat.zero_le _) now
  have mirrors : after.forest.MirrorsAll scene.forest.size ids document.root.subviews :=
    below.mono (kept _) (Nat.le_refl _)
  have known : ∀ id view, scene.forest.size ≤ id → after.forest.view? id = some view →
      after.index.get? view.name = some id := by
    intro id view new there
    rw [index]
    refine fresh.known new ?_
    rw [← Forest.names_eq_of_bare_eq forest, Forest.getElem?_names, there, Option.map_some]
  have placed : ∀ id ∈ ids, after.forest.parent? id = some root := by
    intro id member
    refine formed.mem_subviewsOf_iff.1 ?_
    rw [Forest.subviewsOf_of_view? left]
    exact List.mem_append_right _ member
  exact ⟨mirrors.stands formed known placed, _, left, rfl, Table.putAll_putAll ..⟩

/-- A second pass finds the views that the first one made, and leaves them as they are. -/
theorem Fresh.hierarchy_again (fresh : Fresh document root scene) {after : Scene}
    (forest : after.forest.bare = (hierarchy document root scene).scene.forest.bare)
    (index : after.index = (hierarchy document root scene).scene.index) :
    hierarchy document.existing root after =
      { scene := after
        built := (hierarchy document root scene).built.map fun entry =>
          (entry.1.existing, entry.2) } := by
  obtain ⟨stands, view, found, zIndex, properties⟩ := fresh.stands forest index
  have known : after.index.get? (after.forest.nameOf root) = some root := by
    rw [index, Forest.nameOf_eq_getD, Forest.names_eq_of_bare_eq forest, ← Forest.nameOf_eq_getD,
      fresh.nameOf_root]
    exact fresh.known_root
  rw [hierarchy_existing found zIndex properties known stands, fresh.built_eq, tail_walk,
    List.map_cons, List.map_map, index]
  rfl

/-- An order for a view that is there is the same. -/
theorem Order.of_existing (entry : Description × ViewId) :
    Order.of (entry.1.existing, entry.2) = Order.of entry := by
  rw [Order.of, Description.existing_eq]
  rfl

/-- **A layout of new views with different names can be applied again to its own views**, whoever is
told and whatever the constraints are handed to. -/
theorem compile_reapplies (fresh : Fresh document root scene) {layout : Layout}
    (returned : (compile settings document root scene).result = .ok layout) (sink : Sink)
    (emitter : Emitter) :
    Reapplied { settings with sink } document root scene
      { (compile settings document root scene).scene with emitter } layout := by
  have done := done_of_compile returned
  have alike := alike_compile settings document root scene
  -- What the first pass applied to the views is not seen by the second one.
  have again : hierarchy document.existing root
      { (compile settings document root scene).scene with emitter } = _ :=
    fresh.hierarchy_again alike.forest alike.index
  generalize afterEq : ({ (compile settings document root scene).scene with emitter } : Scene) =
    after at again ⊢
  have establishment : (scope { settings with sink } document.existing root after).establishment =
      (scope settings document root scene).establishment := by
    rw [scope, again, ← afterEq]
    exact alike.establishment_eq settings
  have same : orders document.existing root after = orders document root scene := by
    rw [orders, again, List.map_map]
    exact List.map_congr_left fun entry _ => Order.of_existing entry
  have built : (hierarchy document.existing root after).failure = none := by rw [again]
  have told : (hierarchy document.existing root after).diagnostics =
      (hierarchy document root scene).diagnostics := by
    rw [again, fresh.untold]
  have result := result_of_orders done built rfl same establishment told
  have left := alike_compile { settings with sink } document.existing root after
  rw [again] at left
  exact {
    hierarchy := again
    result := result.trans returned
    forest := left.forest
    index := left.index }

/-- A window with a page and a title, of which the page refers to the title. -/
def titled : Document where
  root :=
    { name := "window"
      subviews :=
        [{ name := "page", isNew := true, zIndex := 1, properties := [("role", "main")],
            constraints := [⟨"top", .shorthand "@title", .log⟩] },
          { name := "title", isNew := true }] }

/-- The views of the page and the title are found again, also if no constraint is recorded. -/
theorem compile_reapplies_titled :
    ∃ layout, (compile {} titled 0 oneView).result = .ok layout ∧
      Reapplied { sink := .collector 0 } titled 0 oneView
        { (compile {} titled 0 oneView).scene with emitter := .discarding } layout ∧
      (hierarchy titled 0 oneView).built.map Prod.snd = [0, 1, 2] := by
  have fresh : Fresh titled 0 oneView := fresh_oneView (by decide) (by decide)
  have done : Done {} titled 0 oneView := done_of_untemplated (by decide) (by decide)
  have returned := congrArg Outcome.result (compile_eq_ending done)
  exact ⟨_, returned, compile_reapplies fresh returned (.collector 0) .discarding, by decide⟩

end Pass

end ViewLayout
