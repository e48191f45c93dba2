import Mathlib.Logic.Function.Basic
import ViewLayout.Proofs.Constraint.Bare
import ViewLayout.Proofs.Forest.Moves

/-!
# Subviews in another order

`Forest.Reorders` relates two forests that differ in the numbers of views and in the order of
subviews. Views have the same names and the same places in both. In well-formed forests the parents
follow from the subviews, so that `Reorders.of_subviews` asks for nothing about them.
-/

namespace ViewLayout

/-- A view that knows other views by other numbers. -/
def View.renumber (number : ViewId → ViewId) (view : View) : View :=
  { view with parent := view.parent.map number, subviews := view.subviews.map number }

/-- A view agrees with another one in all that is its own, and lists its subviews by other numbers
and in another order. -/
structure View.Reorders (number : ViewId → ViewId) (view other : View) : Prop where
  name : other.name = view.name
  superclass : other.superclass = view.superclass
  zIndex : other.zIndex = view.zIndex
  properties : other.properties = view.properties
  subviews : other.subviews.Perm (view.subviews.map number)

namespace Forest

/-- Two forests differ in the numbers of views and in the order of subviews, and in what was
applied to views. -/
structure Reorders (number : ViewId → ViewId) (forest next : Forest) : Prop where
  bijective : Function.Bijective number
  size : next.size = forest.size
  views : ∀ id view, forest.view? id = some view → ∃ subviews applied,
    subviews.Perm (view.subviews.map number) ∧
      next.view? (number id) = some { view.renumber number with subviews, applied }
  /-- Where there are no views, numbers stay as they are. -/
  beyond : ∀ id, forest.size ≤ id → number id = id

variable {number : ViewId → ViewId} {forest next : Forest}

/-- There is no view of a number exactly if it is beyond the size. -/
theorem view?_eq_none_iff {id : ViewId} : forest.view? id = none ↔ forest.size ≤ id :=
  List.getElem?_eq_none_iff

namespace Reorders

/-- A number without a view has none under the other number. -/
theorem view?_of_none (reorders : Reorders number forest next) {id : ViewId}
    (missing : forest.view? id = none) : next.view? (number id) = none := by
  have outside := view?_eq_none_iff.1 missing
  rw [reorders.beyond id outside, view?_eq_none_iff, reorders.size]
  exact outside

theorem lt_size (reorders : Reorders number forest next) {id : ViewId} (inside : id < forest.size) :
    number id < next.size := by
  obtain ⟨view, found⟩ := exists_view?_of_lt_size inside
  obtain ⟨_, _, _, there⟩ := reorders.views id view found
  exact (List.getElem?_eq_some_iff.1 there).1

/-- Parents have the other numbers. -/
theorem parent?_eq (reorders : Reorders number forest next) (id : ViewId) :
    next.parent? (number id) = (forest.parent? id).map number := by
  cases found : forest.view? id with
  | none => simp [parent?, found, reorders.view?_of_none found]
  | some view =>
    obtain ⟨subviews, applied, _, there⟩ := reorders.views id view found
    rw [parent?_of_view? found, parent?_of_view? there]
    rfl

theorem nameOf_eq (reorders : Reorders number forest next) (id : ViewId) :
    next.nameOf (number id) = forest.nameOf id := by
  cases found : forest.view? id with
  | none => simp [nameOf, found, reorders.view?_of_none found]
  | some view =>
    obtain ⟨subviews, applied, _, there⟩ := reorders.views id view found
    simp [nameOf, found, there, View.renumber]

/-- Roots have the other numbers. -/
theorem root_eq (reorders : Reorders number forest next) (formed : forest.WellFormed)
    (formedNext : next.WellFormed) (id : ViewId) :
    next.root (number id) = number (forest.root id) := by
  induction id using formed.induction with
  | step id inner =>
    rw [formed.root_eq, formedNext.root_eq, reorders.parent?_eq]
    cases linked : forest.parent? id with
    | none => rfl
    | some parent => exact inner parent linked

theorem sharesAncestry_eq (reorders : Reorders number forest next) (formed : forest.WellFormed)
    (formedNext : next.WellFormed) (first second : ViewId) :
    next.sharesAncestry (number first) (number second) = forest.sharesAncestry first second := by
  rw [sharesAncestry, sharesAncestry, reorders.root_eq formed formedNext,
    reorders.root_eq formed formedNext, Bool.eq_iff_iff, beq_iff_eq, beq_iff_eq]
  exact reorders.bijective.injective.eq_iff

/-- What was applied to views makes no difference. -/
theorem of_bare_eq {left right : Forest} (reorders : Reorders number forest next)
    (same : left.bare = forest.bare) (sameNext : right.bare = next.bare) :
    Reorders number left right where
  bijective := reorders.bijective
  size := by
    rw [← size_bare right, sameNext, size_bare, reorders.size, ← size_bare forest, ← same,
      size_bare]
  views := by
    intro id view found
    have bare := congrArg (Forest.view? · id) same
    simp only [view?_bare, found, Option.map_some] at bare
    obtain ⟨before, was, sameView⟩ := Option.map_eq_some_iff.1 bare.symm
    obtain ⟨subviews, applied, permuted, there⟩ := reorders.views id before was
    have bareNext := congrArg (Forest.view? · (number id)) sameNext
    simp only [view?_bare, there, Option.map_some] at bareNext
    obtain ⟨now, here, sameNow⟩ := Option.map_eq_some_iff.1 bareNext
    cases before
    cases view
    cases now
    simp only [View.bare, View.mk.injEq, and_true] at sameView
    obtain ⟨rfl, rfl, rfl, rfl, rfl, rfl⟩ := sameView
    simp only [View.bare, View.renumber, View.mk.injEq, and_true] at sameNow
    obtain ⟨rfl, rfl, rfl, rfl, rfl, rfl⟩ := sameNow
    exact ⟨_, _, permuted, here⟩
  beyond := by
    intro id outside
    refine reorders.beyond id ?_
    rwa [← size_bare, ← same, size_bare]

/-- **In well-formed forests the parents follow from the subviews.** -/
theorem of_subviews (formed : forest.WellFormed) (formedNext : next.WellFormed)
    (bijective : Function.Bijective number) (size : next.size = forest.size)
    (beyond : ∀ id, forest.size ≤ id → number id = id)
    (views : ∀ id view, forest.view? id = some view →
      ∃ other, next.view? (number id) = some other ∧ view.Reorders number other) :
    Reorders number forest next where
  bijective := bijective
  size := size
  beyond := beyond
  views := by
    have lists (id : ViewId) :
        (next.subviewsOf (number id)).Perm ((forest.subviewsOf id).map number) := by
      cases found : forest.view? id with
      | none =>
        have outside := view?_eq_none_iff.1 found
        have missing : next.view? (number id) = none := by
          rw [beyond id outside, view?_eq_none_iff, size]
          exact outside
        simp [subviewsOf, found, missing]
      | some view =>
        obtain ⟨other, there, same⟩ := views id view found
        rw [subviewsOf_of_view? found, subviewsOf_of_view? there]
        exact same.subviews
    -- A view is listed exactly by its parent, so the lists decide where views are.
    have listed (id parent : ViewId) :
        next.parent? (number id) = some (number parent) ↔ forest.parent? id = some parent := by
      rw [← formed.mem_subviewsOf_iff, ← formedNext.mem_subviewsOf_iff, (lists parent).mem_iff,
        List.mem_map_of_injective bijective.injective]
    have parents (id : ViewId) : next.parent? (number id) = (forest.parent? id).map number := by
      cases linked : forest.parent? id with
      | some parent => exact (listed id parent).2 linked
      | none =>
        refine Option.eq_none_iff_forall_ne_some.2 fun upper above => ?_
        obtain ⟨parent, rfl⟩ := bijective.surjective upper
        rw [(listed id parent).1 above] at linked
        cases linked
    intro id view found
    obtain ⟨other, there, name, superclass, zIndex, properties, subviews⟩ := views id view found
    have parent := parents id
    rw [parent?_of_view? found, parent?_of_view? there] at parent
    refine ⟨other.subviews, other.applied, subviews, there.trans (congrArg some ?_)⟩
    cases other
    dsimp only at name superclass zIndex properties parent ⊢
    rw [name, superclass, zIndex, properties, parent]
    rfl

end Reorders

end Forest

end ViewLayout
