import ViewLayout.Pass.Build
import ViewLayout.Proofs.Pass.Emission

/-!
# Records while a hierarchy is built

Building makes, moves and settles views. It hands nothing to the emitter, so that all records are as
they were, and those of each view are still in the ledger. Nor does it look at the emitter, so that
the hierarchy is the same with any.
-/

namespace ViewLayout

namespace Forest

/-- The positions of the records that were applied to a view. -/
def appliedTo (forest : Forest) (id : ViewId) : List Nat :=
  ((forest.view? id).map View.applied).getD []

variable {forest next : Forest} {parent id : ViewId}

/-- A change that keeps records keeps all of them. -/
theorem appliedTo_modify {change : View → View}
    (keeps : ∀ view, (change view).applied = view.applied) (id : ViewId) :
    (forest.modify id change).appliedTo = forest.appliedTo := by
  funext other
  rw [appliedTo, appliedTo, view?_modify]
  split
  · cases forest.view? other with
    | none => rfl
    | some view => exact keeps view
  · rfl

/-- A new view has no records, and no other one loses any. -/
theorem appliedTo_create (name : String) (superclass : Option String) :
    (forest.create name superclass).2.appliedTo = forest.appliedTo := by
  funext other
  rw [appliedTo, appliedTo, view?_create]
  split
  · next same =>
    rw [← same, view?_size]
    rfl
  · rfl

theorem appliedTo_addSubview (moved : forest.addSubview parent id = .ok next) :
    next.appliedTo = forest.appliedTo := by
  unfold Forest.addSubview at moved
  split at moved
  · contradiction
  · cases moved
    have detached : (forest.detach id).appliedTo = forest.appliedTo := by
      unfold detach
      split
      · rfl
      · refine (appliedTo_modify ?_ _).trans (appliedTo_modify ?_ _) <;> exact fun _ => rfl
    refine .trans ?_ detached
    refine (appliedTo_modify ?_ _).trans (appliedTo_modify ?_ _) <;> exact fun _ => rfl

/-- A new view under a parent changes no records. -/
theorem appliedTo_createUnder {name : String} {superclass : Option String}
    (made : forest.createUnder parent name superclass = .ok (id, next)) :
    next.appliedTo = forest.appliedTo := by
  obtain ⟨rfl, moved⟩ := (createUnder_eq_ok_iff name superclass).1 made
  exact (appliedTo_addSubview moved).trans (appliedTo_create name superclass)

end Forest

namespace Building

/-- The records of a building are those of a scene. -/
structure KeepsRecords (scene : Scene) (building : Building) : Prop where
  ledger : building.scene.ledger = scene.ledger
  emitter : building.scene.emitter = scene.emitter
  applied : building.scene.forest.appliedTo = scene.forest.appliedTo

variable {scene : Scene} {building : Building}

/-- Making a view keeps the records. -/
theorem KeepsRecords.create (keeps : KeepsRecords scene building) (parent : ViewId)
    (description : Description) :
    KeepsRecords scene (building.create parent description).1 := by
  unfold Building.create
  have warned : KeepsRecords scene
      (if building.scene.index.has description.name then
        building.report (.viewRedeclared description.name)
      else building) := by
    split
    · exact ⟨keeps.ledger, keeps.emitter, keeps.applied⟩
    · exact keeps
  generalize (if building.scene.index.has description.name then
    building.report (.viewRedeclared description.name) else building) = start at warned ⊢
  cases made : start.scene.forest.createUnder parent description.name description.superclass with
  | error fault =>
    simp only [made]
    exact ⟨warned.ledger, warned.emitter, warned.applied⟩
  | ok grown =>
    simp only [made]
    exact ⟨warned.ledger, warned.emitter,
      (Forest.appliedTo_createUnder made).trans warned.applied⟩

/-- Finding a view keeps the records. -/
theorem KeepsRecords.find (keeps : KeepsRecords scene building) (parent : ViewId)
    (description : Description) :
    KeepsRecords scene (building.find parent description).1 := by
  have stays : ∀ diagnostics failure,
      KeepsRecords scene { building with diagnostics, failure } :=
    fun _ _ => ⟨keeps.ledger, keeps.emitter, keeps.applied⟩
  unfold Building.find
  split
  · exact stays _ _
  · dsimp only
    split
    · exact keeps
    · split
      · exact stays _ _
      · split
        · exact stays _ _
        · next moved added =>
          exact ⟨keeps.ledger, keeps.emitter,
            (Forest.appliedTo_addSubview added).trans keeps.applied⟩

theorem KeepsRecords.materialize (keeps : KeepsRecords scene building) (parent : ViewId)
    (description : Description) :
    KeepsRecords scene (building.materialize parent description).1 := by
  unfold Building.materialize
  split
  · exact keeps.create parent description
  · exact keeps.find parent description

theorem KeepsRecords.settle (keeps : KeepsRecords scene building) (description : Description)
    (id : ViewId) : KeepsRecords scene (building.settle description id) where
  ledger := keeps.ledger
  emitter := keeps.emitter
  applied := by
    refine (Forest.appliedTo_modify ?_ id).trans keeps.applied
    exact fun _ => rfl

mutual

theorem KeepsRecords.build {parent : ViewId} : ∀ (description : Description) {building : Building},
    KeepsRecords scene building → KeepsRecords scene (Building.build parent description building)
  | ⟨name, isNew, superclass, constraints, properties, zIndex, templates, subviews⟩, building,
      keeps => by
    have had := keeps.materialize parent
      ⟨name, isNew, superclass, constraints, properties, zIndex, templates, subviews⟩
    rw [Building.build]
    cases failed : building.failure with
    | some fault => exact keeps
    | none =>
      dsimp only
      split
      · next placed none =>
        rw [none] at had
        exact had
      · next placed id some =>
        rw [some] at had
        exact KeepsRecords.buildAll subviews (had.settle _ id)

/-- Building keeps all records. -/
theorem KeepsRecords.buildAll {parent : ViewId} : ∀ (descriptions : List Description)
    {building : Building}, KeepsRecords scene building →
      KeepsRecords scene (Building.buildAll parent descriptions building)
  | [], building, keeps => by
    rw [Building.buildAll]
    exact keeps
  | description :: rest, building, keeps => by
    rw [Building.buildAll]
    exact KeepsRecords.buildAll rest (KeepsRecords.build description keeps)

end

end Building

/-- A hierarchy that is built has the records of its scene. -/
theorem Scene.keepsRecords_buildHierarchy (scene : Scene) (root : ViewId)
    (description : Description) :
    Building.KeepsRecords scene (scene.buildHierarchy root description) := by
  have start : Building.KeepsRecords scene { scene } := ⟨rfl, rfl, rfl⟩
  exact Building.KeepsRecords.buildAll description.subviews (start.settle description root)

/-- **They are in its ledger**, if they were in that of the scene. -/
theorem Scene.Recorded.buildHierarchy {scene : Scene} (recorded : scene.Recorded) (root : ViewId)
    (description : Description) :
    (scene.buildHierarchy root description).scene.Recorded ∧
      (scene.buildHierarchy root description).scene.emitted = scene.emitted := by
  have keeps := scene.keepsRecords_buildHierarchy root description
  refine ⟨⟨?_, ?_⟩, ?_⟩
  · rw [keeps.ledger, keeps.emitter]
    exact recorded.emitted
  · intro id view found position member
    rw [keeps.ledger]
    have before := congrFun keeps.applied id
    simp only [Forest.appliedTo, found, Option.map_some, Option.getD_some] at before
    rw [before] at member
    cases was : scene.forest.view? id with
    | none => simp [was] at member
    | some old => exact recorded.applied id old was position (by simpa [was] using member)
  · rw [Scene.emitted, keeps.ledger, keeps.emitter]
    rfl

/-- The scene with another emitter. -/
def Scene.withEmitter (scene : Scene) (emitter : Emitter) : Scene :=
  { scene with emitter }

namespace Building

/-- The building with another emitter. -/
def withEmitter (emitter : Emitter) (building : Building) : Building :=
  { building with scene := building.scene.withEmitter emitter }

variable (emitter : Emitter) (building : Building)

/-- Making a view does not look at the emitter. -/
theorem create_withEmitter (parent : ViewId) (description : Description) :
    (building.withEmitter emitter).create parent description =
      Prod.map (withEmitter emitter) id (building.create parent description) := by
  have forest : (building.withEmitter emitter).scene.forest = building.scene.forest := rfl
  have index : (building.withEmitter emitter).scene.index = building.scene.index := rfl
  unfold create
  by_cases known : building.scene.index.has description.name = true
  all_goals
    cases made : building.scene.forest.createUnder parent description.name
        description.superclass with
    | error fault =>
      simp [known, report, made, index, forest]
      rfl
    | ok grown =>
      simp [known, report, made, index, forest]
      rfl

/-- Finding a view does not look at the emitter. -/
theorem find_withEmitter (parent : ViewId) (description : Description) :
    (building.withEmitter emitter).find parent description =
      Prod.map (withEmitter emitter) id (building.find parent description) := by
  have forest : (building.withEmitter emitter).scene.forest = building.scene.forest := rfl
  have index : (building.withEmitter emitter).scene.index = building.scene.index := rfl
  unfold find
  rw [forest, index]
  split
  · rfl
  · dsimp only
    split
    · rfl
    · split
      · rfl
      · split <;> rfl

theorem materialize_withEmitter (parent : ViewId) (description : Description) :
    (building.withEmitter emitter).materialize parent description =
      Prod.map (withEmitter emitter) id (building.materialize parent description) := by
  unfold materialize
  split
  · exact create_withEmitter ..
  · exact find_withEmitter ..

mutual

theorem build_withEmitter {parent : ViewId} : ∀ (description : Description) (building : Building),
    build parent description (building.withEmitter emitter) =
      (build parent description building).withEmitter emitter
  | ⟨name, isNew, superclass, constraints, properties, zIndex, templates, subviews⟩, building => by
    have had := building.materialize_withEmitter emitter parent
      ⟨name, isNew, superclass, constraints, properties, zIndex, templates, subviews⟩
    rw [build, build]
    have failure : (building.withEmitter emitter).failure = building.failure := rfl
    rw [failure]
    cases failed : building.failure with
    | some fault => rfl
    | none =>
      dsimp only
      rw [had]
      cases made : building.materialize parent
        ⟨name, isNew, superclass, constraints, properties, zIndex, templates, subviews⟩ with
      | mk placed found =>
        cases found with
        | none => rfl
        | some id => exact buildAll_withEmitter subviews (placed.settle _ id)

/-- Building does not look at the emitter. -/
theorem buildAll_withEmitter {parent : ViewId} : ∀ (descriptions : List Description)
    (building : Building), buildAll parent descriptions (building.withEmitter emitter) =
      (buildAll parent descriptions building).withEmitter emitter
  | [], building => by
    rw [buildAll, buildAll]
  | description :: rest, building => by
    rw [buildAll, buildAll, build_withEmitter description building]
    exact buildAll_withEmitter rest (build _ description building)

end

end Building

/-- A hierarchy is built whoever the emitter is. -/
theorem Scene.buildHierarchy_withEmitter (scene : Scene) (emitter : Emitter) (root : ViewId)
    (description : Description) :
    (scene.withEmitter emitter).buildHierarchy root description =
      (scene.buildHierarchy root description).withEmitter emitter :=
  Building.buildAll_withEmitter emitter description.subviews
    (({ scene : Building }).settle description root)
end ViewLayout
