import ViewLayout.Directive.Basic
import ViewLayout.Table

/-!
# Layout documents

A document describes a tree of views with their constraints, and named templates that views can take
constraints from. `Description.walk` lists a tree of descriptions with their parents, every parent
before its subviews.
-/

namespace ViewLayout

/-- The description of a view. -/
structure Description where
  name : String
  /-- Whether the view is to be created, and not looked up. -/
  isNew : Bool := false
  superclass : Option String := none
  constraints : List Directive := []
  properties : Table String := []
  zIndex : Int := 0
  templates : List String := []
  subviews : List Description := []

/-- A layout document: the description of the root view, and templates by name. -/
structure Document where
  root : Description
  templates : Table Description := []
  name : Option String := none

namespace Description

mutual

/-- How many views a description describes. -/
def count : Description → Nat
  | ⟨_, _, _, _, _, _, _, subviews⟩ => countAll subviews + 1

/-- How many views descriptions describe together. -/
def countAll : List Description → Nat
  | [] => 0
  | description :: rest => description.count + countAll rest

end

/-- A description with the one that it is a subview of. -/
abbrev Placed : Type := Option Description × Description

/-- The number of descriptions in trees that are placed. -/
def pendingCount : List Placed → Nat
  | [] => 0
  | placed :: rest => placed.2.count + pendingCount rest

/-- A description counts itself and what its subviews count. -/
theorem count_eq (description : Description) :
    description.count = countAll description.subviews + 1 := by
  cases description
  simp [count]

/-- What two stacks hold together is counted apart. -/
theorem pendingCount_append (first second : List Placed) :
    pendingCount (first ++ second) = pendingCount first + pendingCount second := by
  induction first with
  | nil => simp [pendingCount]
  | cons placed rest inner =>
    rw [List.cons_append, pendingCount, pendingCount, inner, Nat.add_assoc]

/-- The subviews of a description, each with it. -/
def placedSubviews (description : Description) : List Placed :=
  description.subviews.map fun subview => (some description, subview)

/-- The subviews that are put on the stack count as much as they describe. -/
theorem pendingCount_placedSubviews (description : Description) :
    pendingCount description.placedSubviews = countAll description.subviews := by
  unfold placedSubviews
  induction description.subviews with
  | nil => simp [pendingCount, countAll]
  | cons subview rest inner =>
    rw [List.map_cons, pendingCount, inner, countAll]

/-- Lists pending trees: the first one's root, then its subviews before all others. -/
def walkFrom : List Placed → List Placed
  | [] => []
  | (parent, description) :: rest =>
    (parent, description) :: walkFrom (description.placedSubviews ++ rest)
termination_by pending => pendingCount pending
decreasing_by
  rw [pendingCount_append, pendingCount_placedSubviews]
  simp only [pendingCount, count_eq]
  omega

/-- **All descriptions of a tree with their parents**, every parent before its subviews. -/
def walk (description : Description) : List Placed :=
  walkFrom [(none, description)]

end Description

end ViewLayout
