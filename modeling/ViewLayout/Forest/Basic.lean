import ViewLayout.Table
import ViewLayout.Text.Quoted

/-!
# View forests

A forest keeps all views there are by number. Every view knows its parent and its subviews in order.
`Forest.addSubview` moves a view with all below it to the end of another view's subviews, unless
that would put the view under itself; `Forest.detach` takes it out of its parent. Walks towards the
root are bounded by the number of views, which is no bound at all where no view is above itself.
-/

namespace ViewLayout

/-- The number of a view in its forest. -/
abbrev ViewId : Type := Nat

/-- A view: its place in the forest and what a layout says about it. -/
structure View where
  name : String
  superclass : Option String := none
  parent : Option ViewId := none
  subviews : List ViewId := []
  zIndex : Int := 0
  properties : Table String := []
  /-- The positions in the ledger of the constraints that were applied to the view. -/
  applied : List Nat := []

/-- All views, by number. -/
structure Forest where
  views : List View := []

/-- Why a view cannot be moved. -/
inductive HierarchyError
  | wouldContainItself (view parent : String)
deriving DecidableEq

/-- What is said of a view that would become its own ancestor. -/
def HierarchyError.message : HierarchyError → String
  | wouldContainItself view parent =>
    s!"Cannot add {Text.quote view} under {Text.quote parent}: it would become its own ancestor"

namespace Forest

/-- How many views there are. -/
def size (forest : Forest) : Nat :=
  forest.views.length

/-- The view of a number. -/
def view? (forest : Forest) (id : ViewId) : Option View :=
  forest.views[id]?

/-- The name of a view; a number without one has the empty name. -/
def nameOf (forest : Forest) (id : ViewId) : String :=
  ((forest.view? id).map View.name).getD ""

/-- The view that a view is in. -/
def parent? (forest : Forest) (id : ViewId) : Option ViewId :=
  forest.view? id >>= View.parent

/-- The views in a view, the last one in front. -/
def subviewsOf (forest : Forest) (id : ViewId) : List ViewId :=
  ((forest.view? id).map View.subviews).getD []

/-- Changes one view. -/
def modify (forest : Forest) (id : ViewId) (change : View → View) : Forest where
  views := forest.views.modify id change

/-- At most so many views above a view, from its parent on. -/
def ancestorsWithin (forest : Forest) : Nat → ViewId → List ViewId
  | 0, _ => []
  | fuel + 1, id =>
    match forest.parent? id with
    | none => []
    | some parent => parent :: ancestorsWithin forest fuel parent

/-- The views above a view, from its parent to the root. -/
def ancestors (forest : Forest) (id : ViewId) : List ViewId :=
  forest.ancestorsWithin forest.size id

/-- Whether the first view is the second one or above it. -/
def isAncestorOf (forest : Forest) (upper lower : ViewId) : Bool :=
  upper == lower || (forest.ancestors lower).contains upper

/-- The topmost view above a view, which is the view itself if it has no parent. -/
def root (forest : Forest) (id : ViewId) : ViewId :=
  (forest.ancestors id).getLast?.getD id

/-- Whether two views are in one tree. -/
def sharesAncestry (forest : Forest) (first second : ViewId) : Bool :=
  forest.root first == forest.root second

/-- The forest in which a view has no parent any more. -/
def detach (forest : Forest) (id : ViewId) : Forest :=
  match forest.parent? id with
  | none => forest
  | some parent =>
    (forest.modify parent fun above => { above with subviews := above.subviews.erase id }).modify id
      fun moved => { moved with parent := none }

/-- The forest in which a view without a parent is the last subview of another one. -/
def attach (forest : Forest) (parent id : ViewId) : Forest :=
  (forest.modify id fun moved => { moved with parent := some parent }).modify parent
    fun above => { above with subviews := above.subviews ++ [id] }

/-- **Moves a view to the end of another view's subviews**, unless it is that view or above it. -/
def addSubview (forest : Forest) (parent id : ViewId) : Except HierarchyError Forest :=
  if forest.isAncestorOf id parent then
    .error (.wouldContainItself (forest.nameOf id) (forest.nameOf parent))
  else .ok ((forest.detach id).attach parent id)

/-- A new view without a parent, with its number. -/
def create (forest : Forest) (name : String) (superclass : Option String) : ViewId × Forest :=
  let fresh : View := { name, superclass }
  (forest.size, ⟨forest.views ++ [fresh]⟩)

/-- A new view as the last subview of another one, with its number. -/
def createUnder (forest : Forest) (parent : ViewId) (name : String)
    (superclass : Option String) : Except HierarchyError (ViewId × Forest) := do
  let (id, grown) := forest.create name superclass
  .ok (id, ← grown.addSubview parent id)

@[simp] theorem size_modify (forest : Forest) (id : ViewId) (change : View → View) :
    (forest.modify id change).size = forest.size := by
  simp [size, modify]

/-- A changed view is the change of the view, and all others are as before. -/
theorem view?_modify (forest : Forest) (id other : ViewId) (change : View → View) :
    (forest.modify id change).view? other =
      if id = other then (forest.view? other).map change else forest.view? other := by
  simp only [view?, modify, List.getElem?_modify]
  split <;> simp

end Forest

/-- Which views can be referred to by name. -/
abbrev ViewIndex : Type := Table ViewId

end ViewLayout
