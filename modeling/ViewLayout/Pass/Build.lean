import ViewLayout.Document.Basic
import ViewLayout.Emitter

/-!
# Building the hierarchy

Before any constraint is resolved a pass makes the views that a description describes. New views are
created and named in the index, others are looked up there and moved to where they are described; a
view that cannot be had is reported, and its subtree is skipped.
-/

namespace ViewLayout

/-- A hierarchy while it is built. -/
structure Building where
  scene : Scene
  /-- The descriptions that were built, in order, with their views. -/
  built : List (Description × ViewId) := []
  diagnostics : List Diagnostic := []
  failure : Option HierarchyError := none

namespace Building

/-- Reports one more diagnostic. -/
def report (building : Building) (diagnostic : Diagnostic) : Building :=
  { building with diagnostics := building.diagnostics ++ [diagnostic] }

/-- Puts another forest in the place of the one that there is. -/
def withForest (building : Building) (forest : Forest) : Building :=
  { building with scene := { building.scene with forest } }

/-- Lets a name mean a view from now on. -/
def register (building : Building) (name : String) (id : ViewId) : Building :=
  { building with
    scene := { building.scene with index := building.scene.index.put name id } }

/-- Gives a view what its description says. -/
def settle (building : Building) (description : Description) (id : ViewId) : Building :=
  let forest := building.scene.forest.modify id fun view =>
    { view with
      zIndex := description.zIndex
      properties := view.properties.putAll description.properties }
  { building.withForest forest with built := building.built ++ [(description, id)] }

/-- Creates the view of a description under its parent. -/
def create (building : Building) (parent : ViewId) (description : Description) :
    Building × Option ViewId :=
  let warned :=
    if building.scene.index.has description.name then
      building.report (.viewRedeclared description.name)
    else building
  match warned.scene.forest.createUnder parent description.name description.superclass with
  | .error fault => ({ warned with failure := some fault }, none)
  | .ok (id, forest) => ((warned.withForest forest).register description.name id, some id)

/-- Looks the view of a description up and moves it under its parent. -/
def find (building : Building) (parent : ViewId) (description : Description) :
    Building × Option ViewId :=
  let forest := building.scene.forest
  match building.scene.index.get? description.name with
  | none => (building.report (.viewMissing description.name), none)
  | some id =>
    if forest.parent? id = some parent then (building, some id)
    else if forest.isAncestorOf id parent then
      (building.report (.viewContainsParent description.name (forest.nameOf parent)), none)
    else
      match forest.addSubview parent id with
      | .error fault => ({ building with failure := some fault }, none)
      | .ok moved => (building.withForest moved, some id)

/-- The view of a description under its parent, if it can be had. -/
def materialize (building : Building) (parent : ViewId) (description : Description) :
    Building × Option ViewId :=
  if description.isNew then building.create parent description
  else building.find parent description

mutual

/-- Builds a description and its subviews under a view. -/
def build (parent : ViewId) : Description → Building → Building
  | ⟨name, isNew, superclass, constraints, properties, zIndex, templates, subviews⟩, building =>
    let description : Description :=
      ⟨name, isNew, superclass, constraints, properties, zIndex, templates, subviews⟩
    match building.failure with
    | some _ => building
    | none =>
      match building.materialize parent description with
      | (placed, none) => placed
      | (placed, some id) => buildAll id subviews (placed.settle description id)

/-- Builds descriptions under a view, one after the other. -/
def buildAll (parent : ViewId) : List Description → Building → Building
  | [], building => building
  | description :: rest, building => buildAll parent rest (build parent description building)

end

end Building

/-- **Builds the hierarchy that a description describes**, from a root view. -/
def Scene.buildHierarchy (scene : Scene) (root : ViewId) (description : Description) : Building :=
  Building.buildAll root description.subviews
    (({ scene : Building }).settle description root)

end ViewLayout
