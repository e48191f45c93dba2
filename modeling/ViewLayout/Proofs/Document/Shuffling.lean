import Mathlib.Data.List.Perm.Basic
import ViewLayout.Proofs.Document.Preorder

/-!
# Subviews in another order

`Description.Shuffles` relates two descriptions that differ in the order of subviews, at any level.
They list the same descriptions, each with its subviews in another order.
-/

namespace ViewLayout.Description

mutual

/-- Two descriptions differ in the order of subviews, of their own or of those below. -/
inductive Shuffles : Description → Description → Prop
  | intro (description : Description) {order subviews : List Description}
    (permuted : description.subviews.Perm order) (below : ShufflesAll order subviews) :
    Shuffles description { description with subviews }

/-- Descriptions differ one by one in the order of subviews. -/
inductive ShufflesAll : List Description → List Description → Prop
  | nil : ShufflesAll [] []
  | cons {description other : Description} {rest others : List Description}
    (first : Shuffles description other) (later : ShufflesAll rest others) :
    ShufflesAll (description :: rest) (other :: others)

end

variable {description other : Description} {descriptions others : List Description} {α : Type}

/-- What is read of a description apart from its subviews does not depend on their order. -/
theorem Shuffles.eq_of_same (read : Description → α)
    (same : ∀ (description : Description) subviews,
      read { description with subviews } = read description)
    (shuffles : description.Shuffles other) : read other = read description := by
  cases shuffles with
  | intro _ _ _ => exact same description _

/-- What does not depend on subviews is the same in the order of both. -/
theorem ShufflesAll.map_eq (read : Description → α)
    (same : ∀ (description : Description) subviews,
      read { description with subviews } = read description) :
    ∀ {descriptions others : List Description}, ShufflesAll descriptions others →
      others.map read = descriptions.map read
  | _, _, .nil => rfl
  | _, _, .cons first later => by
    rw [List.map_cons, List.map_cons, first.eq_of_same read same, later.map_eq read same]

/-- The same is read of their own subviews, in another order. -/
theorem Shuffles.perm_subviews (read : Description → α)
    (same : ∀ (description : Description) subviews,
      read { description with subviews } = read description)
    (shuffles : description.Shuffles other) :
    (other.subviews.map read).Perm (description.subviews.map read) := by
  cases shuffles with
  | intro _ permuted below =>
    rw [below.map_eq read same]
    exact (permuted.map read).symm

/-- The listing of subviews in another order is a permutation. -/
theorem perm_listingAll {order : List Description} (above : Option Description)
    (permuted : descriptions.Perm order) :
    (listingAll above order).Perm (listingAll above descriptions) := by
  rw [listingAll_eq_flatMap, listingAll_eq_flatMap]
  exact permuted.symm.flatMap_right _

mutual

/-- The same is read of all that both list, in another order. -/
theorem Shuffles.perm_listing (read : Description → α)
    (same : ∀ (description : Description) subviews,
      read { description with subviews } = read description) :
    ∀ {description other : Description}, description.Shuffles other → ∀ above otherAbove,
      ((other.listing otherAbove).map fun placed => read placed.2).Perm
        ((description.listing above).map fun placed => read placed.2)
  | description, _, @Shuffles.intro _ _ subviews permuted below, above, otherAbove => by
    have inner := ShufflesAll.perm_listing read same below (some description)
      (some { description with subviews })
    rw [listing_eq, listing_eq, List.map_cons, List.map_cons, same]
    exact (inner.trans ((perm_listingAll _ permuted).map _)).cons _

/-- Shuffled descriptions are listed in another order. -/
theorem ShufflesAll.perm_listing (read : Description → α)
    (same : ∀ (description : Description) subviews,
      read { description with subviews } = read description) :
    ∀ {descriptions others : List Description}, ShufflesAll descriptions others →
      ∀ above otherAbove,
        ((listingAll otherAbove others).map fun placed => read placed.2).Perm
          ((listingAll above descriptions).map fun placed => read placed.2)
  | _, _, .nil, _, _ => .nil
  | _, _, .cons first later, above, otherAbove => by
    rw [listingAll, listingAll, List.map_append, List.map_append]
    exact (first.perm_listing read same above otherAbove).append
      (later.perm_listing read same above otherAbove)

end

mutual

/-- What one of them lists the other one lists with its subviews in another order. -/
theorem Shuffles.exists_of_mem :
    ∀ {description other : Description}, description.Shuffles other → ∀ above otherAbove,
      ∀ placed ∈ description.listing above, ∃ again ∈ other.listing otherAbove,
        placed.2.Shuffles again.2
  | description, _, @Shuffles.intro _ _ subviews permuted below, above, otherAbove => by
    intro placed member
    rw [listing_eq] at member ⊢
    rcases List.mem_cons.1 member with rfl | inner
    · exact ⟨_, List.mem_cons_self, .intro _ permuted below⟩
    · obtain ⟨again, listed, shuffles⟩ := ShufflesAll.exists_of_mem below (some description)
        (some { description with subviews }) placed ((perm_listingAll _ permuted).mem_iff.2 inner)
      exact ⟨again, List.mem_cons_of_mem _ listed, shuffles⟩

/-- What is listed of one is listed of the other, shuffled. -/
theorem ShufflesAll.exists_of_mem :
    ∀ {descriptions others : List Description}, ShufflesAll descriptions others →
      ∀ above otherAbove, ∀ placed ∈ listingAll above descriptions,
        ∃ again ∈ listingAll otherAbove others, placed.2.Shuffles again.2
  | _, _, .nil, _, _ => fun _ member => absurd member List.not_mem_nil
  | _, _, .cons first later, above, otherAbove => by
    intro placed member
    rw [listingAll] at member ⊢
    rcases List.mem_append.1 member with here | there
    · obtain ⟨again, listed, shuffles⟩ := first.exists_of_mem above otherAbove placed here
      exact ⟨again, List.mem_append_left _ listed, shuffles⟩
    · obtain ⟨again, listed, shuffles⟩ := later.exists_of_mem above otherAbove placed there
      exact ⟨again, List.mem_append_right _ listed, shuffles⟩

end

/-- **Below both roots the same is walked**, in another order. -/
theorem Shuffles.perm_walk (read : Description → α)
    (same : ∀ (description : Description) subviews,
      read { description with subviews } = read description)
    (shuffles : description.Shuffles other) :
    (other.walk.tail.map fun placed => read placed.2).Perm
      (description.walk.tail.map fun placed => read placed.2) := by
  have whole := shuffles.perm_listing read same none none
  rw [listing_eq, listing_eq, List.map_cons, List.map_cons, shuffles.eq_of_same read same] at whole
  rw [walk_eq, walk_eq, listing_eq, listing_eq]
  exact whole.cons_inv

/-- What is walked of one is walked of the other, shuffled. -/
theorem Shuffles.exists_of_mem_walk (shuffles : description.Shuffles other) {placed : Placed}
    (listed : placed ∈ description.walk.tail) :
    ∃ again ∈ other.walk.tail, placed.2.Shuffles again.2 := by
  rw [walk_eq, listing_eq] at listed ⊢
  cases shuffles with
  | intro _ permuted below =>
    exact below.exists_of_mem _ _ placed ((perm_listingAll _ permuted).mem_iff.2 listed)

end ViewLayout.Description
