import Mathlib.Data.List.Basic
import ViewLayout.Proofs.Document.Preorder

/-!
# Addresses of descriptions

Two descriptions of a tree may be equal, so a place in the tree is told by an address: the positions
of the subviews on the way down to it. `addresses` lists the addresses of a tree in lexicographic
order, and `map_some_listing` says that what stands there, in this order, is what a tree lists.
-/

namespace ViewLayout.Description

/-- The description at an address, if the tree goes down that far. -/
def at? (description : Description) : List Nat → Option Description
  | [] => some description
  | position :: rest => description.subviews[position]? >>= fun subview => subview.at? rest

/-- The description at an address with the one above it. The root is below the given parent. -/
def placedAt? (parent : Option Description) (description : Description) (address : List Nat) :
    Option Placed :=
  (description.at? address).map fun found =>
    (if address = [] then parent else description.at? address.dropLast, found)

mutual

/-- The addresses in a tree of descriptions: that of the root, then those in its subviews. -/
def addresses : Description → List (List Nat)
  | ⟨_, _, _, _, _, _, _, subviews⟩ => [] :: addressesFrom 0 subviews

/-- The addresses in the subviews of a description from a position on. -/
def addressesFrom (position : Nat) : List Description → List (List Nat)
  | [] => []
  | subview :: rest =>
    subview.addresses.map (position :: ·) ++ addressesFrom (position + 1) rest

end

section Places

variable {description subview found : Description} {subviews : List Description}
  {parent above : Option Description} {address earlier later rest : List Nat} {position index : Nat}

/-- An address leads through its first subview. -/
theorem at?_cons (here : description.subviews[position]? = some subview) :
    description.at? (position :: rest) = subview.at? rest := by
  rw [at?, here]
  rfl

/-- An address after another leads on from there. -/
theorem at?_append (first second : List Nat) :
    description.at? (first ++ second) =
      description.at? first >>= fun found => found.at? second := by
  induction first generalizing description with
  | nil => rfl
  | cons position rest inner =>
    rw [List.cons_append, at?, at?]
    cases description.subviews[position]? with
    | none => rfl
    | some subview => exact inner

/-- What stands below a subview is placed there as in the tree. -/
theorem placedAt?_cons (here : description.subviews[position]? = some subview) :
    description.placedAt? parent (position :: rest) =
      subview.placedAt? (some description) rest := by
  unfold placedAt?
  rw [at?_cons here]
  cases rest with
  | nil => rfl
  | cons next others =>
    simp only [List.cons_ne_nil, ↓reduceIte, List.dropLast_cons_cons, at?_cons here]

/-- What stands below a description of a tree is placed there as in the subtree. -/
theorem placedAt?_append (stands : description.placedAt? parent address = some (above, found)) :
    description.placedAt? parent (address ++ rest) = found.placedAt? above rest := by
  induction address generalizing description parent with
  | nil =>
    obtain ⟨rfl, rfl⟩ := Prod.mk.inj (Option.some.inj stands)
    rfl
  | cons position others inner =>
    cases here : description.subviews[position]? with
    | none =>
      rw [placedAt?, at?, here] at stands
      contradiction
    | some subview =>
      rw [placedAt?_cons here] at stands
      rw [List.cons_append, placedAt?_cons here]
      exact inner stands

/-- The addresses below a description start with that of its own. -/
theorem addresses_eq (description : Description) :
    description.addresses = [] :: addressesFrom 0 description.subviews := by
  cases description
  rw [addresses]

/-- An address below subviews starts with the position of one of them. -/
theorem mem_addressesFrom_iff :
    address ∈ addressesFrom position subviews ↔
      ∃ index subview rest, subviews[index]? = some subview ∧ rest ∈ subview.addresses ∧
        address = (position + index) :: rest := by
  induction subviews generalizing position with
  | nil => simp [addressesFrom]
  | cons first others inner =>
    rw [addressesFrom, List.mem_append, List.mem_map, inner]
    constructor
    · rintro (⟨rest, member, rfl⟩ | ⟨index, subview, rest, here, member, rfl⟩)
      · exact ⟨0, first, rest, rfl, member, rfl⟩
      · exact ⟨index + 1, subview, rest, here, member, by rw [Nat.add_right_comm, Nat.add_assoc]⟩
    · rintro ⟨index, subview, rest, here, member, rfl⟩
      cases index with
      | zero =>
        obtain rfl := Option.some.inj here
        exact .inl ⟨rest, member, rfl⟩
      | succ index =>
        exact .inr ⟨index, subview, rest, here, member, by rw [Nat.add_right_comm, Nat.add_assoc]⟩

/-- The addresses of a tree are those at which a description stands. -/
theorem mem_addresses_iff : address ∈ description.addresses ↔ (description.at? address).isSome := by
  induction address generalizing description with
  | nil => simp [addresses_eq, at?]
  | cons position rest inner =>
    rw [addresses_eq, List.mem_cons, mem_addressesFrom_iff]
    constructor
    · rintro (absent | ⟨index, subview, others, here, member, same⟩)
      · contradiction
      · obtain ⟨rfl, rfl⟩ := List.cons_eq_cons.1 same
        rw [Nat.zero_add, at?_cons here]
        exact inner.1 member
    · intro stands
      cases here : description.subviews[position]? with
      | none =>
        rw [at?, here] at stands
        contradiction
      | some subview =>
        rw [at?_cons here] at stands
        exact .inr ⟨position, subview, rest, here, inner.2 stands, by rw [Nat.zero_add]⟩

mutual

/-- The addresses of a tree are in lexicographic order. -/
theorem pairwise_addresses : ∀ description : Description, description.addresses.Pairwise (· < ·)
  | ⟨_, _, _, _, _, _, _, subviews⟩ => by
    rw [addresses, List.pairwise_cons]
    refine ⟨fun address member => ?_, pairwise_addressesFrom 0 subviews⟩
    obtain ⟨_, _, _, _, _, rfl⟩ := mem_addressesFrom_iff.1 member
    exact List.nil_lt_cons _ _

/-- The addresses below subviews are in their order. -/
theorem pairwise_addressesFrom (position : Nat) :
    ∀ subviews : List Description, (addressesFrom position subviews).Pairwise (· < ·)
  | [] => .nil
  | subview :: rest => by
    rw [addressesFrom, List.pairwise_append, List.pairwise_map]
    refine ⟨(pairwise_addresses subview).imp List.cons_lt_cons_self.2,
      pairwise_addressesFrom (position + 1) rest, ?_⟩
    intro earlier first later second
    obtain ⟨_, _, rfl⟩ := List.mem_map.1 first
    obtain ⟨index, _, _, _, _, rfl⟩ := mem_addressesFrom_iff.1 second
    exact List.cons_lt_cons_iff.2 (.inl (by omega))

end

/-- No two views have the same address. -/
theorem nodup_addresses (description : Description) : description.addresses.Nodup := by
  refine (pairwise_addresses description).imp ?_
  rintro address _ less rfl
  exact List.lt_irrefl address less

/-- An address comes before those that are greater. -/
theorem sublist_addresses (first : (description.at? earlier).isSome)
    (second : (description.at? later).isSome) (less : earlier < later) :
    [earlier, later].Sublist description.addresses := by
  obtain ⟨before, after, split⟩ := List.append_of_mem (mem_addresses_iff.2 first)
  have sorted := pairwise_addresses description
  have member := mem_addresses_iff.2 second
  rw [split] at sorted member ⊢
  rw [List.pairwise_append] at sorted
  rcases List.mem_append.1 member with passed | ahead
  · exact absurd less (List.lt_asymm (sorted.2.2 later passed earlier List.mem_cons_self))
  · rcases List.mem_cons.1 ahead with rfl | ahead
    · exact absurd less (List.lt_irrefl later)
    · exact (List.singleton_sublist.2 ahead).cons_cons earlier |>.trans
        (List.sublist_append_right before _)

/-- A common start does not matter for the order. -/
theorem append_lt_append_iff (address : List Nat) :
    address ++ earlier < address ++ later ↔ earlier < later := by
  induction address with
  | nil => rfl
  | cons position rest inner =>
    rw [List.cons_append, List.cons_append, List.cons_lt_cons_self, inner]

/-- The addresses in a subview stand together. -/
theorem exists_addressesFrom_eq (position : Nat) (here : subviews[index]? = some subview) :
    ∃ before after, addressesFrom position subviews =
      before ++ subview.addresses.map ((position + index) :: ·) ++ after := by
  induction subviews generalizing position index with
  | nil => contradiction
  | cons first others inner =>
    cases index with
    | zero =>
      obtain rfl := Option.some.inj here
      exact ⟨[], addressesFrom (position + 1) others, by rw [addressesFrom]; rfl⟩
    | succ index =>
      obtain ⟨before, after, split⟩ := inner (position + 1) here
      refine ⟨first.addresses.map (position :: ·) ++ before, after, ?_⟩
      rw [addressesFrom, split, Nat.add_right_comm, Nat.add_assoc]
      simp only [List.append_assoc]

/-- The addresses in a subtree stand together, in the order that they have in it. -/
theorem exists_addresses_eq (stands : description.at? address = some found) :
    ∃ before after,
      description.addresses = before ++ found.addresses.map (address ++ ·) ++ after := by
  induction address generalizing description with
  | nil =>
    obtain rfl := Option.some.inj stands
    exact ⟨[], [], by simp⟩
  | cons position rest inner =>
    obtain ⟨subview, here, below⟩ := Option.bind_eq_some_iff.1 stands
    obtain ⟨before, after, split⟩ := inner below
    obtain ⟨front, back, whole⟩ := exists_addressesFrom_eq 0 here
    refine ⟨[] :: front ++ before.map (position :: ·), after.map (position :: ·) ++ back, ?_⟩
    rw [addresses_eq, whole, split, Nat.zero_add]
    simp only [List.map_append, List.map_map, Function.comp_def, List.cons_append,
      List.append_assoc]

end Places

mutual

/-- **A tree lists what stands at its addresses**, in their order. -/
theorem map_some_listing (parent : Option Description) : ∀ description : Description,
    (description.listing parent).map some = description.addresses.map (description.placedAt? parent)
  | ⟨name, isNew, superclass, constraints, properties, zIndex, templates, subviews⟩ => by
    rw [listing, addresses, List.map_cons, List.map_cons]
    refine congrArg (_ :: ·) (map_some_listingAll parent _ 0 subviews fun index => ?_)
    rw [Nat.zero_add]

/-- The listing of subviews is what stands at their addresses. -/
theorem map_some_listingAll (parent : Option Description) (whole : Description) (position : Nat) :
    ∀ subviews : List Description,
      (∀ index, whole.subviews[position + index]? = subviews[index]?) →
      (listingAll (some whole) subviews).map some =
        (addressesFrom position subviews).map (whole.placedAt? parent)
  | [], _ => rfl
  | subview :: rest, here => by
    have first : whole.subviews[position]? = some subview := here 0
    have others (index : Nat) : whole.subviews[position + 1 + index]? = rest[index]? := by
      rw [Nat.add_right_comm]
      exact here (index + 1)
    rw [listingAll, addressesFrom, List.map_append, List.map_append, List.map_map,
      map_some_listing (some whole) subview,
      map_some_listingAll parent whole (position + 1) rest others]
    simp only [Function.comp_def, placedAt?_cons first]

end

/-- A subtree is listed without a gap: where its addresses stand, what it lists stands. -/
theorem exists_listing_eq {parent above : Option Description} {description found : Description}
    {address : List Nat} (stands : description.placedAt? parent address = some (above, found)) :
    ∃ before after,
      description.addresses = before ++ found.addresses.map (address ++ ·) ++ after ∧
        ((description.listing parent).drop before.length).take found.count =
          found.listing above := by
  obtain ⟨node, here, same⟩ := Option.map_eq_some_iff.1 stands
  obtain ⟨_, own⟩ := Prod.mk.inj same
  rw [own] at here
  obtain ⟨before, after, split⟩ := exists_addresses_eq here
  have same_of_map {first second : List Placed} (same : first.map some = second.map some) :
      first = second := List.map_injective_iff.2 (fun _ _ => Option.some.inj) same
  refine ⟨before, after, split, same_of_map ?_⟩
  have below : (found.addresses.map (address ++ ·)).map (description.placedAt? parent) =
      (found.listing above).map some := by
    rw [map_some_listing, List.map_map]
    exact List.map_congr_left fun rest _ => placedAt?_append stands
  rw [List.map_take, List.map_drop, map_some_listing, split, List.map_append, List.map_append,
    below, List.append_assoc, List.drop_left' (List.length_map _),
    List.take_left' ((List.length_map _).trans (length_listing above found))]

end ViewLayout.Description
