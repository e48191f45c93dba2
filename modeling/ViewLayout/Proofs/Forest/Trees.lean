import Mathlib.Order.Defs.Unbundled
import ViewLayout.Proofs.Forest.History

/-!
# The trees of a forest

Being above is a partial order in which what is above a view is one line, and views are in one tree
exactly if some view is at or above both. A view that gets a new place, or none, takes all at or
below it along: `Relinks` says that one parent changes, `Relinks.atOrAbove_iff` who is above whom
afterwards, and `Regroups` what that means for any two views. `after_regroups` is that every
history leads to such a forest, and that moving a view or taking it out changes it so.
-/

namespace ViewLayout.Forest

/-- Views are ordered as in trees. -/
structure TreeOrdered (forest : Forest) : Prop where
  partialOrder : IsPartialOrder ViewId fun upper lower => forest.isAncestorOf upper lower = true
  /-- Of two views at or above one, the one is at or above the other. -/
  chain : ∀ first second lower, forest.isAncestorOf first lower = true →
    forest.isAncestorOf second lower = true →
      forest.isAncestorOf first second = true ∨ forest.isAncestorOf second first = true
  equivalence : Equivalence fun first second => forest.sharesAncestry first second = true
  /-- Views share their ancestry if one view is at or above both. -/
  shares_iff : ∀ first second, forest.sharesAncestry first second = true ↔
    ∃ top, forest.isAncestorOf top first = true ∧ forest.isAncestorOf top second = true

/-- What a new place of a view changes, or none, for all that is at or below the view and for
all else. -/
structure Regroups (forest : Forest) (id : ViewId) (place : Option ViewId) (next : Forest) :
    Prop where
  /-- The same views are at or below the view. -/
  subtree : ∀ other, next.isAncestorOf id other = forest.isAncestorOf id other
  /-- For two views at or below it, and for two others, nothing changes. -/
  within : ∀ first second, forest.isAncestorOf id first = forest.isAncestorOf id second →
    next.isAncestorOf first second = forest.isAncestorOf first second ∧
      next.sharesAncestry first second = forest.sharesAncestry first second
  /-- A view at or below it gets those above it that are at or above the place, and the tree of the
  place; it is above no other view. -/
  across : ∀ inner outer, forest.isAncestorOf id inner = true →
    forest.isAncestorOf id outer = false →
      next.sharesAncestry inner outer = place.any (forest.sharesAncestry outer) ∧
        next.isAncestorOf outer inner = place.any (forest.isAncestorOf outer) ∧
          next.isAncestorOf inner outer = false

/-- One view gets another parent, or none, and all others keep theirs. -/
structure Relinks (forest : Forest) (id : ViewId) (place : Option ViewId) (next : Forest) :
    Prop where
  parent?_eq : ∀ other, next.parent? other = if id = other then place else forest.parent? other
  /-- The view is not at or above its place. -/
  outside : ∀ parent ∈ place, ¬ forest.AtOrAbove id parent

variable {forest : Forest}

/-- A view has one parent at most. -/
theorem rightUnique_hasParent : Relator.RightUnique forest.HasParent :=
  fun _ _ _ first second => Option.some.inj (first.symm.trans second)

/-- What is at or above a view is that view, or at or above its parent. -/
theorem atOrAbove_iff_of_parent? {upper lower parent : ViewId}
    (linked : forest.parent? lower = some parent) :
    forest.AtOrAbove upper lower ↔ upper = lower ∨ forest.AtOrAbove upper parent := by
  rw [atOrAbove_iff_eq_or_above, above_iff_of_parent? linked]

/-- Only a view itself is at or above it if it has no parent. -/
theorem atOrAbove_iff_of_parent?_eq_none {upper lower : ViewId}
    (top : forest.parent? lower = none) : forest.AtOrAbove upper lower ↔ upper = lower := by
  rw [atOrAbove_iff_eq_or_above, or_iff_left (not_above_of_parent?_eq_none top)]

namespace WellFormed

variable (formed : forest.WellFormed)
include formed

/-- Two views that are at or above each other are one. -/
theorem atOrAbove_antisymm {first second : ViewId} (above : forest.AtOrAbove first second)
    (below : forest.AtOrAbove second first) : first = second := by
  rcases atOrAbove_iff_eq_or_above.1 above with same | strictly
  · exact same
  · exact absurd (strictly.trans_left below) (formed.acyclic second)

/-- Views share a root exactly if one view is at or above both. -/
theorem sharesAncestry_iff {first second : ViewId} :
    forest.sharesAncestry first second = true ↔
      ∃ top, forest.AtOrAbove top first ∧ forest.AtOrAbove top second := by
  rw [sharesAncestry, beq_iff_eq]
  constructor
  · intro same
    exact ⟨forest.root first, (formed.parent?_root first).2,
      same ▸ (formed.parent?_root second).2⟩
  · rintro ⟨top, first, second⟩
    rw [formed.root_eq_of_atOrAbove first, formed.root_eq_of_atOrAbove second]

/-- The views of a well-formed forest are ordered as in trees. -/
theorem treeOrdered : forest.TreeOrdered where
  partialOrder :=
    { refl := fun _ => formed.isAncestorOf_iff.2 .refl
      trans := fun _ _ _ first second => formed.isAncestorOf_iff.2
        ((formed.isAncestorOf_iff.1 second).trans (formed.isAncestorOf_iff.1 first))
      antisymm := fun _ _ above below => formed.atOrAbove_antisymm
        (formed.isAncestorOf_iff.1 above) (formed.isAncestorOf_iff.1 below) }
  chain := by
    intro first second lower
    simp only [formed.isAncestorOf_iff]
    exact fun left right => (left.total_of_right_unique rightUnique_hasParent right).symm
  equivalence :=
    { refl := fun _ => beq_self_eq_true _
      symm := fun shared => beq_iff_eq.2 (beq_iff_eq.1 shared).symm
      trans := fun first second => beq_iff_eq.2
        ((beq_iff_eq.1 first).trans (beq_iff_eq.1 second)) }
  shares_iff := by
    intro first second
    simp only [formed.sharesAncestry_iff, formed.isAncestorOf_iff]

end WellFormed

namespace Relinks

variable {next : Forest} {id : ViewId} {place : Option ViewId}

/-- The way up from a view that is not at or below the relinked one is as before. -/
theorem atOrAbove_iff_of_outside (relinks : forest.Relinks id place next)
    (formed : forest.WellFormed) {upper lower : ViewId} (outer : ¬ forest.AtOrAbove id lower) :
    next.AtOrAbove upper lower ↔ forest.AtOrAbove upper lower := by
  induction lower using formed.induction with
  | step lower inner =>
    have other : id ≠ lower := by
      rintro rfl
      exact outer .refl
    have kept : next.parent? lower = forest.parent? lower := by
      rw [relinks.parent?_eq, if_neg other]
    cases linked : forest.parent? lower with
    | none =>
      rw [atOrAbove_iff_of_parent?_eq_none linked,
        atOrAbove_iff_of_parent?_eq_none (kept.trans linked)]
    | some parent =>
      rw [atOrAbove_iff_of_parent? linked, atOrAbove_iff_of_parent? (kept.trans linked),
        inner parent linked fun above => outer (.head linked above)]

/-- What is at or above the relinked view: itself, and what is at or above its place. -/
theorem atOrAbove_self_iff (relinks : forest.Relinks id place next) (formed : forest.WellFormed)
    {upper : ViewId} :
    next.AtOrAbove upper id ↔ upper = id ∨ ∃ parent ∈ place, forest.AtOrAbove upper parent := by
  have moved : next.parent? id = place := by rw [relinks.parent?_eq, if_pos rfl]
  cases place with
  | none => simp [atOrAbove_iff_of_parent?_eq_none moved]
  | some parent =>
    rw [atOrAbove_iff_of_parent? moved,
      relinks.atOrAbove_iff_of_outside formed (relinks.outside parent rfl)]
    simp

/-- What is at or above a view that is taken along: what was so and is taken along too, and
what is at or above the place. -/
theorem atOrAbove_iff_of_inside (relinks : forest.Relinks id place next)
    (formed : forest.WellFormed) {upper lower : ViewId} (inside : forest.AtOrAbove id lower) :
    next.AtOrAbove upper lower ↔
      forest.AtOrAbove id upper ∧ forest.AtOrAbove upper lower ∨
        ∃ parent ∈ place, forest.AtOrAbove upper parent := by
  induction inside using Relation.ReflTransGen.head_induction_on with
  | refl =>
    rw [relinks.atOrAbove_self_iff formed]
    refine or_congr_left ⟨?_, fun ⟨below, above⟩ => formed.atOrAbove_antisymm above below⟩
    rintro rfl
    exact ⟨.refl, .refl⟩
  | @head lower parent linked rest inner =>
    have other : id ≠ lower := by
      rintro rfl
      exact formed.acyclic id (Relation.TransGen.head' linked rest)
    have kept : next.parent? lower = some parent := by
      rw [relinks.parent?_eq, if_neg other]
      exact linked
    have here : upper = lower → forest.AtOrAbove id upper := by
      rintro rfl
      exact .head linked rest
    rw [atOrAbove_iff_of_parent? kept, inner, atOrAbove_iff_of_parent? linked]
    tauto

/-- The relinked view is at or above the same views. -/
theorem atOrAbove_id_iff (relinks : forest.Relinks id place next) (formed : forest.WellFormed)
    {lower : ViewId} : next.AtOrAbove id lower ↔ forest.AtOrAbove id lower := by
  by_cases inside : forest.AtOrAbove id lower
  · rw [relinks.atOrAbove_iff_of_inside formed inside]
    exact iff_of_true (.inl ⟨.refl, inside⟩) inside
  · exact relinks.atOrAbove_iff_of_outside formed inside

/-- Who is above whom is as before for views that are both taken along or both not. -/
theorem atOrAbove_iff_of_within (relinks : forest.Relinks id place next)
    (formed : forest.WellFormed) {upper lower : ViewId}
    (together : forest.AtOrAbove id upper ↔ forest.AtOrAbove id lower) :
    next.AtOrAbove upper lower ↔ forest.AtOrAbove upper lower := by
  by_cases inside : forest.AtOrAbove id lower
  · rw [relinks.atOrAbove_iff_of_inside formed inside]
    constructor
    · rintro (⟨_, above⟩ | ⟨parent, placed, above⟩)
      · exact above
      · exact absurd (above.trans (together.2 inside)) (relinks.outside parent placed)
    · exact fun above => .inl ⟨together.2 inside, above⟩
  · exact relinks.atOrAbove_iff_of_outside formed inside

/-- A view that gets another place regroups the forest, which stays well formed. -/
theorem regroups (relinks : forest.Relinks id place next) (formed : forest.WellFormed)
    (after : next.WellFormed) : forest.Regroups id place next where
  subtree := by
    intro other
    rw [Bool.eq_iff_iff, after.isAncestorOf_iff, formed.isAncestorOf_iff]
    exact relinks.atOrAbove_id_iff formed
  within := by
    intro first second same
    have together : forest.AtOrAbove id first ↔ forest.AtOrAbove id second := by
      rw [← formed.isAncestorOf_iff, ← formed.isAncestorOf_iff, same]
    constructor
    · rw [Bool.eq_iff_iff, after.isAncestorOf_iff, formed.isAncestorOf_iff]
      exact relinks.atOrAbove_iff_of_within formed together
    · rw [Bool.eq_iff_iff, after.sharesAncestry_iff, formed.sharesAncestry_iff]
      by_cases inside : forest.AtOrAbove id second
      · -- The relinked view is at or above both, before and after.
        exact iff_of_true
          ⟨id, (relinks.atOrAbove_id_iff formed).2 (together.2 inside),
            (relinks.atOrAbove_id_iff formed).2 inside⟩
          ⟨id, together.2 inside, inside⟩
      · simp only [relinks.atOrAbove_iff_of_outside formed inside,
          relinks.atOrAbove_iff_of_outside formed (mt together.1 inside)]
  across := by
    intro inner outer within without
    have inside : forest.AtOrAbove id inner := formed.isAncestorOf_iff.1 within
    have outside : ¬ forest.AtOrAbove id outer := by
      rw [← formed.isAncestorOf_iff, without]
      exact Bool.false_ne_true
    refine ⟨?_, ?_, ?_⟩
    · rw [Bool.eq_iff_iff, after.sharesAncestry_iff, Option.any_eq_true]
      simp only [relinks.atOrAbove_iff_of_inside formed inside,
        relinks.atOrAbove_iff_of_outside formed outside, formed.sharesAncestry_iff]
      constructor
      · rintro ⟨top, ⟨taken, _⟩ | ⟨parent, placed, above⟩, shared⟩
        · exact absurd (Relation.ReflTransGen.trans shared taken) outside
        · exact ⟨parent, placed, top, shared, above⟩
      · rintro ⟨parent, placed, top, shared, above⟩
        exact ⟨top, .inr ⟨parent, placed, above⟩, shared⟩
    · rw [Bool.eq_iff_iff, after.isAncestorOf_iff, Option.any_eq_true]
      simp only [relinks.atOrAbove_iff_of_inside formed inside, formed.isAncestorOf_iff]
      exact or_iff_right fun taken => outside taken.1
    · rw [Bool.eq_false_iff, ne_eq, after.isAncestorOf_iff,
        relinks.atOrAbove_iff_of_outside formed outside]
      exact fun above => outside (Relation.ReflTransGen.trans above inside)

end Relinks

/-- Detaching links a view to none. -/
theorem WellFormed.relinks_detach (formed : forest.WellFormed) (id : ViewId) :
    forest.Relinks id none (forest.detach id) where
  parent?_eq := parent?_detach id formed
  outside := by simp

/-- A placement links a view to its new parent. -/
theorem Places.relinks {parent id : ViewId} {next : Forest}
    (places : forest.Places parent id next) : forest.Relinks id (some parent) next where
  parent?_eq := places.parent?_eq
  outside := by
    rintro _ ⟨⟩
    exact places.outside

/-- **In every forest that operations lead to from no views, views are ordered as in trees**; a
view that is moved takes all at or below it to its new place and leaves all other views as they
are, and so does a view that is taken out, which never fails. -/
theorem after_regroups (operations : List Operation) :
    (after operations).TreeOrdered ∧
      (∀ parent id, parent < (after operations).size → id < (after operations).size →
        ((Operation.add parent id).perform.run (after operations)).1 = .ok () →
          (after operations).Regroups id (some parent)
            ((Operation.add parent id).perform.run (after operations)).2) ∧
      ∀ id, ((Operation.remove id).perform.run (after operations)).1 = .ok () ∧
        (after operations).Regroups id none
          ((Operation.remove id).perform.run (after operations)).2 := by
  have formed := wellFormed_after operations
  refine ⟨formed.treeOrdered, fun parent id parentInside inside done => ?_, fun id => ⟨rfl, ?_⟩⟩
  · have known : (Operation.add parent id).perform.run (after operations) =
        (moveUnder parent id).run (after operations) := by
      rw [Operation.perform, run_get_bind, if_pos ⟨parentInside, inside⟩]
    rw [known, run_moveUnder] at done ⊢
    cases moved : (after operations).addSubview parent id with
    | error fault => simp [moved] at done
    | ok next =>
      have places := formed.places_addSubview inside parentInside moved
      exact places.relinks.regroups formed places.formed
  · exact (formed.relinks_detach id).regroups formed (formed.detach id)

/-- Moved below the header, the label is in one tree with it still, and no more above or below the
body; the body that is taken out takes the label along. -/
theorem after_nursery_regroups :
    ((Operation.add 1 3).perform.run (after nursery)).2.sharesAncestry 3 2 = true ∧
      ((Operation.add 1 3).perform.run (after nursery)).2.isAncestorOf 2 3 = false ∧
        ((Operation.remove 2).perform.run (after nursery)).2.sharesAncestry 3 1 = false := by
  obtain ⟨_, moved, removed⟩ := after_regroups nursery
  have across := (moved 1 3 (by decide) (by decide) rfl).across 3 2 (by decide) (by decide)
  refine ⟨across.1.trans (by decide), across.2.1.trans (by decide), ?_⟩
  exact ((removed 2).2.across 3 1 (by decide) (by decide)).1

end ViewLayout.Forest
