import ViewLayout.Pass.Build
import ViewLayout.Proofs.Forest.History

/-!
# Building under a root view

All that is built lies at or below the root view, whatever the names of the index mean: `Sound` is
the invariant, and `Leads` adds what one step keeps of the building before it. Because the place of
a view is below the root, a view that is not above its place is not above the root either, so that
moving it leaves the root where it is, and the check before a move is the one that the move makes
itself.
-/

namespace ViewLayout.Building

variable {root : ViewId} {building next last : Building}

/-- What has been built lies at or below the root view, in a well-formed forest whose views the
names of the index mean. -/
structure Sound (root : ViewId) (building : Building) : Prop where
  formed : building.scene.forest.WellFormed
  inside : root < building.scene.forest.size
  indexed : ∀ name id, building.scene.index.get? name = some id → id < building.scene.forest.size
  under : ∀ entry ∈ building.built, building.scene.forest.AtOrAbove root entry.2
  unfailed : building.failure = none

/-- A sound building after another one, in which the root view is where it was and all that was
below it still is. -/
structure Leads (root : ViewId) (building next : Building) : Prop where
  sound : next.Sound root
  kept : ∀ id, building.scene.forest.AtOrAbove root id → next.scene.forest.AtOrAbove root id
  parent?_root : next.scene.forest.parent? root = building.scene.forest.parent? root

/-- A sound building leads to itself. -/
theorem Sound.leads_self (sound : building.Sound root) : Leads root building building :=
  ⟨sound, fun _ above => above, rfl⟩

/-- Where a building leads leads on. -/
theorem Leads.trans (first : Leads root building next) (second : Leads root next last) :
    Leads root building last :=
  ⟨second.sound, fun id above => second.kept id (first.kept id above),
    second.parent?_root.trans first.parent?_root⟩

/-- What is below a view of the forest is there as well. -/
theorem lt_size_of_atOrAbove {forest : Forest} {upper lower : ViewId}
    (inside : upper < forest.size) (above : forest.AtOrAbove upper lower) :
    lower < forest.size := by
  rcases Relation.ReflTransGen.cases_head above with rfl | ⟨parent, step, _⟩
  · exact inside
  · exact Forest.lt_size_of_parent? step

/-- A report leads on. -/
theorem Sound.leads_report (sound : building.Sound root) (diagnostic : Diagnostic) :
    Leads root building (building.report diagnostic) :=
  ⟨⟨sound.formed, sound.inside, sound.indexed, sound.under, sound.unfailed⟩,
    fun _ above => above, rfl⟩

/-- A name may come to mean any view. -/
theorem Sound.leads_register (sound : building.Sound root) (name : String) {id : ViewId}
    (inside : id < building.scene.forest.size) :
    Leads root building (building.register name id) where
  sound := {
    formed := sound.formed
    inside := sound.inside
    indexed := by
      intro wanted found meant
      simp only [register, Table.get?_put] at meant
      split at meant
      · exact Option.some.inj meant ▸ inside
      · exact sound.indexed wanted found meant
    under := sound.under
    unfailed := sound.unfailed }
  kept := fun _ above => above
  parent?_root := rfl

/-- A view that gets a place below the root view changes nothing of what is built. -/
theorem Sound.leads_withForest (sound : building.Sound root) {parent id : ViewId} {forest : Forest}
    (under : building.scene.forest.AtOrAbove root parent)
    (grown : building.scene.forest.size ≤ forest.size)
    (places : building.scene.forest.Places parent id forest) :
    Leads root building (building.withForest forest) where
  sound := {
    formed := places.formed
    inside := Nat.lt_of_lt_of_le sound.inside grown
    indexed := fun name found meant =>
      Nat.lt_of_lt_of_le (sound.indexed name found meant) grown
    under := fun entry member => places.atOrAbove under (.inr (sound.under entry member))
    unfailed := sound.unfailed }
  kept := fun _ above => places.atOrAbove under (.inr above)
  parent?_root := places.parent?_of_atOrAbove under

/-- Settling a view changes nothing but that view. -/
theorem forest_settle (description : Description) (id : ViewId) :
    (building.settle description id).scene.forest =
      building.scene.forest.modify id fun view =>
        { view with
          zIndex := description.zIndex
          properties := view.properties.putAll description.properties } :=
  rfl

/-- Settling a view keeps the forest well formed. -/
theorem formed_settle (formed : building.scene.forest.WellFormed) (description : Description)
    (id : ViewId) : (building.settle description id).scene.forest.WellFormed := by
  refine formed.of_agree (fun other => ?_) fun other => ?_
  · apply Forest.parent?_modify
    exact fun _ => rfl
  · apply Forest.subviewsOf_modify
    exact fun _ => rfl

/-- A view at or below the root view may be settled. -/
theorem Sound.leads_settle (sound : building.Sound root) (description : Description) {id : ViewId}
    (above : building.scene.forest.AtOrAbove root id) :
    Leads root building (building.settle description id) := by
  have parents (other : ViewId) :
      (building.settle description id).scene.forest.parent? other =
        building.scene.forest.parent? other := by
    rw [forest_settle]
    apply Forest.parent?_modify
    exact fun _ => rfl
  have lists (other : ViewId) :
      (building.settle description id).scene.forest.subviewsOf other =
        building.scene.forest.subviewsOf other := by
    rw [forest_settle]
    apply Forest.subviewsOf_modify
    exact fun _ => rfl
  have size : (building.settle description id).scene.forest.size = building.scene.forest.size :=
    Forest.size_modify ..
  have kept (other : ViewId) (under : building.scene.forest.AtOrAbove root other) :
      (building.settle description id).scene.forest.AtOrAbove root other := by
    rwa [Forest.AtOrAbove, Forest.hasParent_eq_of_parent? parents]
  refine ⟨⟨sound.formed.of_agree parents lists, size ▸ sound.inside, fun name found meant => ?_,
    fun entry member => ?_, sound.unfailed⟩, kept, parents root⟩
  · rw [size]
    exact sound.indexed name found meant
  · rcases List.mem_append.1 member with before | now
    · exact kept entry.2 (sound.under entry before)
    · rw [List.mem_singleton.1 now]
      exact kept id above

/-- What comes of creating the view of a description: it has the next number, is listed last by
its parent and has no subviews, and nothing else is changed. -/
structure Makes (parent : ViewId) (description : Description) (building placed : Building) :
    Prop where
  formed : placed.scene.forest.WellFormed
  failure : placed.failure = building.failure
  built : placed.built = building.built
  size : placed.scene.forest.size = building.scene.forest.size + 1
  created : placed.scene.forest.view? building.scene.forest.size =
    some
      { name := description.name
        superclass := description.superclass
        parent := some parent }
  earlier : ∀ other < building.scene.forest.size,
    placed.scene.forest.view? other =
      (building.scene.forest.view? other).map fun view =>
        { view with
          subviews := view.subviews ++
            if parent = other then [building.scene.forest.size] else [] }
  warned : ∃ told, placed.diagnostics = building.diagnostics ++ told ∧
    ∀ diagnostic ∈ told, ∃ name, diagnostic = .viewRedeclared name

/-- A view can be created under any view that is there. -/
theorem makes_create (formed : building.scene.forest.WellFormed)
    (inside : parent < building.scene.forest.size) (description : Description) :
    ∃ placed, building.create parent description = (placed, some building.scene.forest.size) ∧
      Makes parent description building placed := by
  obtain ⟨forest, made, size, places⟩ := formed.places_createUnder inside description.name
    description.superclass
  have views (other : ViewId) := formed.view?_createUnder made other
  have warned : ∃ told, (∀ diagnostic ∈ told, ∃ name, diagnostic = Diagnostic.viewRedeclared name) ∧
      building.create parent description =
        ({ building with
            scene :=
              { building.scene with
                forest
                index := building.scene.index.put description.name building.scene.forest.size }
            diagnostics := building.diagnostics ++ told },
          some building.scene.forest.size) := by
    by_cases known : building.scene.index.has description.name = true
    · refine ⟨[.viewRedeclared description.name], by simp, ?_⟩
      simp only [create, known, ↓reduceIte, report, made]
      rfl
    · refine ⟨[], by simp, ?_⟩
      simp only [create, known, ↓reduceIte, Bool.false_eq_true, made, List.append_nil]
      rfl
  obtain ⟨told, warnings, created⟩ := warned
  refine ⟨_, created, places.formed, rfl, rfl, size, ?_, fun other below => ?_, told, rfl, warnings⟩
  · rw [views, if_pos rfl, if_neg (Nat.ne_of_lt inside)]
  · rw [views, if_neg (Nat.ne_of_gt below)]

/-- What creating the view of a description leaves. -/
theorem create_eq_of_had {parent id : ViewId} {description : Description} {placed : Building}
    (had : building.create parent description = (placed, some id)) :
    ∃ forest, building.scene.forest.createUnder parent description.name description.superclass =
        .ok (id, forest) ∧
      placed =
        { building with
          scene :=
            { building.scene with
              forest
              index := building.scene.index.put description.name id }
          diagnostics := building.diagnostics ++
            if building.scene.index.has description.name then [.viewRedeclared description.name]
            else [] } := by
  by_cases known : building.scene.index.has description.name = true
  · simp only [create, known, ↓reduceIte, report] at had ⊢
    split at had
    · cases had
    · next forest made =>
      cases had
      exact ⟨forest, made, rfl⟩
  · simp only [create, known, ↓reduceIte, Bool.false_eq_true] at had ⊢
    split at had
    · cases had
    · next forest made =>
      cases had
      exact ⟨forest, made, by rw [List.append_nil]; rfl⟩

/-- What finding the view of a description leaves: it was there, or it is moved. -/
theorem find_eq_of_had {parent id : ViewId} {description : Description} {placed : Building}
    (had : building.find parent description = (placed, some id)) :
    building.scene.index.get? description.name = some id ∧
      (building.scene.forest.parent? id = some parent ∧ placed = building ∨
        ∃ forest, building.scene.forest.addSubview parent id = .ok forest ∧
          placed = building.withForest forest) := by
  rw [find] at had
  cases meant : building.scene.index.get? description.name with
  | none =>
    simp only [meant] at had
    cases had
  | some found =>
    simp only [meant] at had
    split at had
    · next there =>
      cases had
      exact ⟨rfl, .inl ⟨there, rfl⟩⟩
    · split at had
      · cases had
      · split at had
        · cases had
        · next moved added =>
          cases had
          exact ⟨rfl, .inr ⟨moved, added, rfl⟩⟩

/-- A description's view was had at or below the root view, or was not had. -/
def HadUnder (root : ViewId) (building : Building) (placed : Building × Option ViewId) : Prop :=
  Leads root building placed.1 ∧
    ∀ id, placed.2 = some id → placed.1.scene.forest.AtOrAbove root id

/-- A new view can be created below the root view. -/
theorem Sound.hadUnder_create (sound : building.Sound root) {parent : ViewId}
    (under : building.scene.forest.AtOrAbove root parent) (description : Description) :
    HadUnder root building (building.create parent description) := by
  have warned : Leads root building
      (if building.scene.index.has description.name then
        building.report (.viewRedeclared description.name)
      else building) := by
    split
    · exact sound.leads_report _
    · exact sound.leads_self
  rw [create]
  generalize (if building.scene.index.has description.name then
    building.report (.viewRedeclared description.name) else building) = start at warned ⊢
  obtain ⟨forest, made, size, places⟩ := warned.sound.formed.places_createUnder
    (lt_size_of_atOrAbove warned.sound.inside (warned.kept parent under)) description.name
    description.superclass
  simp only [made]
  have placed := warned.sound.leads_withForest (warned.kept parent under) (by omega) places
  have fresh : start.scene.forest.size < (start.withForest forest).scene.forest.size :=
    size ▸ Nat.lt_succ_self _
  refine ⟨warned.trans (placed.trans (placed.sound.leads_register description.name fresh)), ?_⟩
  rintro id ⟨⟩
  exact places.atOrAbove (warned.kept parent under) (.inl rfl)

/-- A view that is found can be moved below the root view, or else contains its place. -/
theorem Sound.hadUnder_find (sound : building.Sound root) {parent : ViewId}
    (under : building.scene.forest.AtOrAbove root parent) (description : Description) :
    HadUnder root building (building.find parent description) := by
  have formed := sound.formed
  rw [find]
  cases meant : building.scene.index.get? description.name with
  | none => exact ⟨sound.leads_report _, by simp⟩
  | some id =>
    by_cases there : building.scene.forest.parent? id = some parent
    · simp only [there, ↓reduceIte]
      refine ⟨sound.leads_self, ?_⟩
      rintro _ ⟨⟩
      exact .head there under
    · by_cases contains : building.scene.forest.isAncestorOf id parent = true
      · simp only [there, contains, ↓reduceIte]
        exact ⟨sound.leads_report _, by simp⟩
      · have free : ¬ building.scene.forest.AtOrAbove id parent :=
          (not_congr formed.isAncestorOf_iff).1 contains
        have moved := (Forest.addSubview_eq_ok_iff formed).2 ⟨free, rfl⟩
        have places := formed.places_addSubview (sound.indexed _ _ meant)
          (lt_size_of_atOrAbove sound.inside under) moved
        have size := Forest.size_addSubview formed moved
        simp only [there, contains, moved, ↓reduceIte]
        refine ⟨sound.leads_withForest under (Nat.le_of_eq size.symm) places, ?_⟩
        rintro _ ⟨⟩
        exact places.atOrAbove under (.inl rfl)

/-- The view of a description is had at or below the root view, or is not had. -/
theorem Sound.hadUnder_materialize (sound : building.Sound root) {parent : ViewId}
    (under : building.scene.forest.AtOrAbove root parent) (description : Description) :
    HadUnder root building (building.materialize parent description) := by
  rw [materialize]
  split
  · exact sound.hadUnder_create under description
  · exact sound.hadUnder_find under description

mutual

/-- Building a description below the root view keeps the building sound. -/
theorem Sound.leads_build {parent : ViewId} : ∀ (description : Description) {building : Building},
    building.Sound root → building.scene.forest.AtOrAbove root parent →
      Leads root building (build parent description building)
  | ⟨name, isNew, superclass, constraints, properties, zIndex, templates, subviews⟩, building,
      sound, under => by
    have had := sound.hadUnder_materialize under
      ⟨name, isNew, superclass, constraints, properties, zIndex, templates, subviews⟩
    rw [build]
    simp only [sound.unfailed]
    split
    · next placed none =>
      rw [none] at had
      exact had.1
    · next placed id some =>
      rw [some] at had
      have settled := had.1.sound.leads_settle
        ⟨name, isNew, superclass, constraints, properties, zIndex, templates, subviews⟩
        (had.2 id rfl)
      exact (had.1.trans settled).trans
        (Sound.leads_buildAll subviews settled.sound (settled.kept id (had.2 id rfl)))

/-- Building subviews leads on. -/
theorem Sound.leads_buildAll {parent : ViewId} : ∀ (descriptions : List Description)
    {building : Building}, building.Sound root → building.scene.forest.AtOrAbove root parent →
      Leads root building (buildAll parent descriptions building)
  | [], building, sound, _ => by
    rw [buildAll]
    exact sound.leads_self
  | description :: rest, building, sound, under => by
    rw [buildAll]
    have first := Sound.leads_build description sound under
    exact first.trans (Sound.leads_buildAll rest first.sound (first.kept parent under))

end

/-- A hierarchy is sound before anything is built, also when a name comes to mean the root view. -/
theorem sound_of_named {scene : Scene} (formed : scene.forest.WellFormed)
    (inside : root < scene.forest.size)
    (indexed : ∀ name id, scene.index.get? name = some id → id < scene.forest.size)
    (name : String) :
    Sound root { scene := { scene with index := scene.index.put name root } } :=
  have start : Sound root { scene } := ⟨formed, inside, indexed, by simp, rfl⟩
  (start.leads_register name inside).sound

/-- Building a hierarchy leads on from its scene. -/
theorem leads_buildHierarchy {scene : Scene} (formed : scene.forest.WellFormed)
    (inside : root < scene.forest.size)
    (indexed : ∀ name id, scene.index.get? name = some id → id < scene.forest.size)
    (description : Description) :
    Leads root { scene } (scene.buildHierarchy root description) := by
  have start : Sound root { scene } := ⟨formed, inside, indexed, by simp, rfl⟩
  have above : scene.forest.AtOrAbove root root := .refl
  have settled := start.leads_settle description above
  exact settled.trans
    (settled.sound.leads_buildAll description.subviews (settled.kept root above))

end ViewLayout.Building

namespace ViewLayout

/-- **A hierarchy can be built from any root view, whatever the names of the index mean**: no move
is refused, the root view stays where it is, all that is built lies at or below it, and the forest
stays well formed. -/
theorem Scene.buildHierarchy_safe (scene : Scene) (root : ViewId) (description : Description)
    (formed : scene.forest.WellFormed) (inside : root < scene.forest.size)
    (indexed : ∀ name id, scene.index.get? name = some id → id < scene.forest.size) :
    (scene.buildHierarchy root description).failure = none ∧
      (scene.buildHierarchy root description).scene.forest.parent? root =
        scene.forest.parent? root ∧
      (∀ entry ∈ (scene.buildHierarchy root description).built,
        root = entry.2 ∨
          (scene.buildHierarchy root description).scene.forest.Above root entry.2) ∧
      (scene.buildHierarchy root description).scene.forest.WellFormed := by
  have leads := Building.leads_buildHierarchy formed inside indexed description
  refine ⟨leads.sound.unfailed, leads.parent?_root, fun entry member => ?_, leads.sound.formed⟩
  exact Forest.atOrAbove_iff_eq_or_above.1 (leads.sound.under entry member)

/-- A scene in which the index knows a view, the one that it is in, and a view of another tree. -/
def Scene.nested : Scene where
  forest := Forest.after
    [.create "window" none none, .create "page" none (some 0), .create "overlay" none none]
  index := [("window", 0), ("page", 1), ("overlay", 2)]

/-- The description of a page that asks for the window that the page is in, for a view of another
tree, and for a new view in that one. -/
def Description.nested : Description where
  name := "page"
  subviews :=
    [{ name := "window" }, { name := "overlay", subviews := [{ name := "label", isNew := true }] }]

/-- The page stays in its window, and the view of the other tree comes below the page. -/
theorem buildHierarchy_nested_safe :
    (Scene.nested.buildHierarchy 1 .nested).built.map Prod.snd = [1, 2, 3] ∧
      (Scene.nested.buildHierarchy 1 .nested).scene.forest.parent? 1 = some 0 ∧
      (Scene.nested.buildHierarchy 1 .nested).failure = none := by
  have indexed : ∀ name id, Scene.nested.index.get? name = some id →
      id < Scene.nested.forest.size := by
    intro name id meant
    have all : ∀ entry ∈ Scene.nested.index, entry.2 < Scene.nested.forest.size := by decide
    exact all _ (Table.mem_of_get? meant)
  obtain ⟨unfailed, stays, _⟩ := Scene.buildHierarchy_safe .nested 1 .nested
    (Forest.wellFormed_after _) (by decide) indexed
  exact ⟨by decide, stays.trans (by decide), unfailed⟩

end ViewLayout
