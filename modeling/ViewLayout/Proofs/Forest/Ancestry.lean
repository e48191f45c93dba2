import Mathlib.Data.List.Perm.Subperm
import Mathlib.Logic.Relation
import ViewLayout.Forest.Basic

/-!
# Ancestry in a forest

`Above` is the way up from a view by its parents, and a forest is well formed if no view is above
itself and every view is listed once, among the subviews of its parent. In such a forest the bound
on the walk towards the root never cuts the walk off: `ancestors_eq` unfolds it at the parent, and
`mem_ancestors_iff` and `isAncestorOf_iff` say that it finds all views above.
-/

namespace ViewLayout.Forest

/-- The second view is the parent of the first one. -/
def HasParent (forest : Forest) (lower upper : ViewId) : Prop :=
  forest.parent? lower = some upper

/-- The first view is above the second one. -/
def Above (forest : Forest) (upper lower : ViewId) : Prop :=
  Relation.TransGen forest.HasParent lower upper

/-- The first view is the second one or above it. -/
def AtOrAbove (forest : Forest) (upper lower : ViewId) : Prop :=
  Relation.ReflTransGen forest.HasParent lower upper

/-- Parents and subviews agree, and no view is above itself. -/
structure WellFormed (forest : Forest) : Prop where
  /-- A view is listed once among the subviews of its parent, and nowhere else. -/
  count_subviews : ∀ parent id,
    (forest.subviewsOf parent).count id = if forest.parent? id = some parent then 1 else 0
  acyclic : ∀ id, ¬ forest.Above id id

variable {forest : Forest}

/-- A view with a parent is there. -/
theorem lt_size_of_parent? {id parent : ViewId} (linked : forest.parent? id = some parent) :
    id < forest.size := by
  by_contra outside
  have missing : forest.view? id = none := List.getElem?_eq_none (by simpa [size] using outside)
  simp [parent?, missing] at linked

/-- A view with subviews is there. -/
theorem lt_size_of_mem_subviewsOf {parent id : ViewId} (listed : id ∈ forest.subviewsOf parent) :
    parent < forest.size := by
  by_contra outside
  have missing : forest.view? parent = none :=
    List.getElem?_eq_none (by simpa [size] using outside)
  simp [subviewsOf, missing] at listed

/-- At or above is the same or above. -/
theorem atOrAbove_iff_eq_or_above {upper lower : ViewId} :
    forest.AtOrAbove upper lower ↔ upper = lower ∨ forest.Above upper lower :=
  Relation.reflTransGen_iff_eq_or_transGen

/-- What is above a view is at or above its parent. -/
theorem above_iff_of_parent? {upper lower parent : ViewId}
    (linked : forest.parent? lower = some parent) :
    forest.Above upper lower ↔ forest.AtOrAbove upper parent := by
  constructor
  · intro above
    obtain ⟨next, step, rest⟩ := Relation.TransGen.head'_iff.1 above
    have same : parent = next := Option.some.inj (linked.symm.trans step)
    exact same ▸ rest
  · exact fun rest => Relation.TransGen.head' linked rest

/-- Nothing is above a view without a parent. -/
theorem not_above_of_parent?_eq_none {upper lower : ViewId}
    (top : forest.parent? lower = none) : ¬ forest.Above upper lower := by
  intro above
  obtain ⟨next, step, _⟩ := Relation.TransGen.head'_iff.1 above
  rw [HasParent, top] at step
  contradiction

/-- All that a walk to the root meets is above. -/
theorem above_of_mem_ancestorsWithin {fuel : Nat} {upper lower : ViewId}
    (member : upper ∈ forest.ancestorsWithin fuel lower) : forest.Above upper lower := by
  induction fuel generalizing lower with
  | zero => simp [ancestorsWithin] at member
  | succ fuel inner =>
    cases linked : forest.parent? lower with
    | none => simp [ancestorsWithin, linked] at member
    | some parent =>
      simp only [ancestorsWithin, linked, List.mem_cons] at member
      rw [above_iff_of_parent? linked, atOrAbove_iff_eq_or_above]
      exact member.imp_right inner

/-- A walk that ends before its bound is not changed by a greater one. -/
theorem ancestorsWithin_succ_of_length_lt {fuel : Nat} {id : ViewId}
    (ended : (forest.ancestorsWithin fuel id).length < fuel) :
    forest.ancestorsWithin (fuel + 1) id = forest.ancestorsWithin fuel id := by
  induction fuel generalizing id with
  | zero => simp at ended
  | succ fuel inner =>
    cases linked : forest.parent? id with
    | none => simp [ancestorsWithin, linked]
    | some parent =>
      have later : (forest.ancestorsWithin fuel parent).length < fuel := by
        simpa [ancestorsWithin, linked] using ended
      have step : ∀ bound, forest.ancestorsWithin (bound + 1) id =
          parent :: forest.ancestorsWithin bound parent := fun bound => by
        simp [ancestorsWithin, linked]
      rw [step, step, inner later]

namespace WellFormed

/-- The subviews of a view are those that have it as parent. -/
theorem mem_subviewsOf_iff (formed : forest.WellFormed) {parent id : ViewId} :
    id ∈ forest.subviewsOf parent ↔ forest.parent? id = some parent := by
  rw [← List.count_pos_iff, formed.count_subviews]
  split <;> simp_all

/-- A parent is there. -/
theorem parent_lt_size (formed : forest.WellFormed) {id parent : ViewId}
    (linked : forest.parent? id = some parent) : parent < forest.size :=
  lt_size_of_mem_subviewsOf (formed.mem_subviewsOf_iff.2 linked)

/-- A bounded walk meets no view twice, and not its start. -/
theorem nodup_ancestorsWithin (formed : forest.WellFormed) (fuel : Nat) (id : ViewId) :
    (id :: forest.ancestorsWithin fuel id).Nodup := by
  induction fuel generalizing id with
  | zero => simp [ancestorsWithin]
  | succ fuel inner =>
    refine List.nodup_cons.2 ⟨fun member =>
      formed.acyclic id (above_of_mem_ancestorsWithin member), ?_⟩
    cases linked : forest.parent? id with
    | none => simp [ancestorsWithin, linked]
    | some parent => simpa only [ancestorsWithin, linked] using inner parent

/-- All that a walk to the root meets is there. -/
theorem lt_size_of_mem_ancestorsWithin (formed : forest.WellFormed) {fuel : Nat}
    {upper lower : ViewId} (member : upper ∈ forest.ancestorsWithin fuel lower) :
    upper < forest.size := by
  induction fuel generalizing lower with
  | zero => simp [ancestorsWithin] at member
  | succ fuel inner =>
    cases linked : forest.parent? lower with
    | none => simp [ancestorsWithin, linked] at member
    | some parent =>
      simp only [ancestorsWithin, linked, List.mem_cons] at member
      rcases member with rfl | later
      · exact formed.parent_lt_size linked
      · exact inner later

/-- A walk to the root meets fewer views than there are, since it meets none twice. -/
theorem length_ancestorsWithin_lt (formed : forest.WellFormed) (fuel : Nat) {id : ViewId}
    (inside : id < forest.size) : (forest.ancestorsWithin fuel id).length < forest.size := by
  have numbers : id :: forest.ancestorsWithin fuel id ⊆ List.range forest.size := by
    intro other member
    rw [List.mem_range]
    rcases List.mem_cons.1 member with rfl | later
    · exact inside
    · exact formed.lt_size_of_mem_ancestorsWithin later
  have bounded := ((formed.nodup_ancestorsWithin fuel id).subperm numbers).length_le
  rw [List.length_cons, List.length_range] at bounded
  omega

/-- **The walk from a view goes on at its parent.** -/
theorem ancestors_eq (formed : forest.WellFormed) (id : ViewId) :
    forest.ancestors id =
      match forest.parent? id with
      | none => []
      | some parent => parent :: forest.ancestors parent := by
  cases linked : forest.parent? id with
  | none => cases bound : forest.size <;> simp [ancestors, bound, ancestorsWithin, linked]
  | some parent =>
    obtain ⟨fuel, bound⟩ := Nat.exists_eq_add_one_of_ne_zero
      (Nat.ne_of_gt (Nat.zero_lt_of_lt (lt_size_of_parent? linked)))
    have step : forest.ancestorsWithin (fuel + 1) id =
        parent :: forest.ancestorsWithin fuel parent := by
      simp only [ancestorsWithin, linked]
    have shorter := formed.length_ancestorsWithin_lt (fuel + 1) (lt_size_of_parent? linked)
    rw [step, bound, List.length_cons] at shorter
    simp only [ancestors, bound]
    rw [step, ancestorsWithin_succ_of_length_lt (by omega)]

/-- A walk finds all views above. -/
theorem mem_ancestors_iff (formed : forest.WellFormed) {upper lower : ViewId} :
    upper ∈ forest.ancestors lower ↔ forest.Above upper lower := by
  refine ⟨above_of_mem_ancestorsWithin, fun above => ?_⟩
  induction above using Relation.TransGen.head_induction_on with
  | single step =>
    rw [formed.ancestors_eq, step]
    exact List.mem_cons_self
  | head step _ later =>
    rw [formed.ancestors_eq, step]
    exact List.mem_cons_of_mem _ later

/-- Whether a view is another one or above it is found out. -/
theorem isAncestorOf_iff (formed : forest.WellFormed) {upper lower : ViewId} :
    forest.isAncestorOf upper lower = true ↔ forest.AtOrAbove upper lower := by
  rw [isAncestorOf, Bool.or_eq_true, beq_iff_eq, List.contains_iff_mem, formed.mem_ancestors_iff,
    atOrAbove_iff_eq_or_above]

/-- What holds of every view whose parent it holds of, holds of all views. -/
theorem induction (formed : forest.WellFormed) {motive : ViewId → Prop}
    (step : ∀ id, (∀ parent, forest.parent? id = some parent → motive parent) → motive id)
    (id : ViewId) : motive id := by
  induction length : (forest.ancestors id).length generalizing id with
  | zero =>
    refine step id fun parent linked => ?_
    rw [formed.ancestors_eq, linked] at length
    simp at length
  | succ count inner =>
    refine step id fun parent linked => inner parent ?_
    rw [formed.ancestors_eq, linked] at length
    simpa using length

/-- The root of a view is that of its parent. -/
theorem root_eq (formed : forest.WellFormed) (id : ViewId) :
    forest.root id =
      match forest.parent? id with
      | none => id
      | some parent => forest.root parent := by
  rw [root, formed.ancestors_eq]
  cases linked : forest.parent? id with
  | none => rfl
  | some parent =>
    simp only [root]
    cases forest.ancestors parent with
    | nil => rfl
    | cons next rest => simp [List.getLast?_cons]

/-- The walk to the root ends at a view without a parent, which is at the top of all. -/
theorem parent?_root (formed : forest.WellFormed) (id : ViewId) :
    forest.parent? (forest.root id) = none ∧ forest.AtOrAbove (forest.root id) id := by
  induction id using formed.induction with
  | step id inner =>
    rw [formed.root_eq]
    cases linked : forest.parent? id with
    | none => exact ⟨linked, .refl⟩
    | some parent =>
      obtain ⟨top, above⟩ := inner parent linked
      exact ⟨top, .head linked above⟩

/-- Views in one line have one root. -/
theorem root_eq_of_atOrAbove (formed : forest.WellFormed) {upper lower : ViewId}
    (above : forest.AtOrAbove upper lower) : forest.root lower = forest.root upper := by
  induction above using Relation.ReflTransGen.head_induction_on with
  | refl => rfl
  | head step _ inner =>
    rw [formed.root_eq, step]
    exact inner

end WellFormed

end ViewLayout.Forest
