import ViewLayout.Document.Basic

/-!
# Descriptions in preorder

`Description.listing` lists a tree of descriptions along its structure, and `walkFrom_eq` says that
the walk, which keeps a list of the trees that are still to come, lists the same: what is pending is
listed tree by tree.
-/

namespace ViewLayout.Description

mutual

/-- A tree of descriptions with their parents: the root below the given parent, then its
subviews. -/
def listing (parent : Option Description) : Description → List Placed
  | ⟨name, isNew, superclass, constraints, properties, zIndex, templates, subviews⟩ =>
    (parent, ⟨name, isNew, superclass, constraints, properties, zIndex, templates, subviews⟩) ::
      listingAll
        (some ⟨name, isNew, superclass, constraints, properties, zIndex, templates, subviews⟩)
        subviews

/-- Trees of descriptions below one parent, one after the other. -/
def listingAll (parent : Option Description) : List Description → List Placed
  | [] => []
  | description :: rest => description.listing parent ++ listingAll parent rest

end

/-- The listing of a description starts with it and goes on with its subviews. -/
theorem listing_eq (parent : Option Description) (description : Description) :
    description.listing parent =
      (parent, description) :: listingAll (some description) description.subviews := by
  cases description
  rw [listing]

/-- Listings of several descriptions stand one after the other. -/
theorem listingAll_eq_flatMap (parent : Option Description) (descriptions : List Description) :
    listingAll parent descriptions = descriptions.flatMap (listing parent) := by
  induction descriptions with
  | nil => rfl
  | cons description rest inner => rw [listingAll, inner, List.flatMap_cons]

/-- **A walk lists what is pending tree by tree.** -/
theorem walkFrom_eq (pending : List Placed) :
    walkFrom pending = pending.flatMap fun placed => placed.2.listing placed.1 := by
  fun_induction walkFrom pending with
  | case1 => rfl
  | case2 parent description rest inner =>
    have subviews : (description.placedSubviews.flatMap fun placed => placed.2.listing placed.1) =
        listingAll (some description) description.subviews := by
      rw [placedSubviews, List.flatMap_map, listingAll_eq_flatMap]
    rw [inner, List.flatMap_append, subviews, List.flatMap_cons, listing_eq, List.cons_append]

/-- The walk is the listing from no parent on. -/
theorem walk_eq (description : Description) : description.walk = description.listing none := by
  rw [walk, walkFrom_eq, List.flatMap_singleton]

mutual

/-- As many are listed as there are. -/
theorem length_listing (parent : Option Description) : ∀ description : Description,
    (description.listing parent).length = description.count
  | ⟨name, isNew, superclass, constraints, properties, zIndex, templates, subviews⟩ => by
    rw [listing, List.length_cons, length_listingAll _ subviews, count]

/-- As many are listed as there are, of several descriptions. -/
theorem length_listingAll (parent : Option Description) : ∀ descriptions : List Description,
    (listingAll parent descriptions).length = countAll descriptions
  | [] => rfl
  | description :: rest => by
    rw [listingAll, List.length_append, length_listing parent description,
      length_listingAll parent rest, countAll]

end

end ViewLayout.Description
