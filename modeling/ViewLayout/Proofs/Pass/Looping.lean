import ViewLayout.Proofs.Document.Addresses
import ViewLayout.Proofs.Pass.Deletion

/-!
# Building by a loop

The hierarchy can be built in one loop over the walk of a description, which puts down the view of
each description that was built. A description is told from others by its address, since two may be
equal; one whose parent has no view is passed over. `Scene.loopHierarchy` is that loop, and
`Scene.loopHierarchy_eq` says that it builds what the recursion over the tree builds.
-/

namespace ViewLayout

open Description

/-- A hierarchy while it is built by a loop, with the views of the descriptions at addresses. -/
structure Looping where
  building : Building
  views : List (List Nat × ViewId) := []

namespace Looping

/-- Gives a view what its description says, and puts it down as the view of that description. -/
def keep (looping : Looping) (address : List Nat) (description : Description) (id : ViewId) :
    Looping where
  building := looping.building.settle description id
  views := (address, id) :: looping.views

/-- One round of the loop. The description without a parent is that of the root view. -/
def round (root : ViewId) (looping : Looping) : List Nat × Placed → Looping
  | (address, parent, description) =>
    match looping.building.failure, parent with
    | some _, _ => looping
    | none, none => looping.keep address description root
    | none, some _ =>
      match looping.views.lookup address.dropLast with
      | none => looping
      | some above =>
        match looping.building.materialize above description with
        | (placed, none) => { looping with building := placed }
        | (placed, some id) => keep { looping with building := placed } address description id

end Looping

/-- Builds the hierarchy that a description describes, from a root view, by a loop over the
walk. -/
def Scene.loopHierarchy (scene : Scene) (root : ViewId) (description : Description) : Looping :=
  (description.addresses.zip description.walk).foldl (Looping.round root) { building := { scene } }

namespace Looping

/-- What a description in a tree is for the loop: its own address is put before those in it. -/
def entries (address : List Nat) (parent : Option Description) (description : Description) :
    List (List Nat × Placed) :=
  (description.addresses.map (address ++ ·)).zip (description.listing parent)

/-- What subviews from a position on are for the loop. -/
def entriesFrom (address : List Nat) (parent : Option Description) (position : Nat)
    (subviews : List Description) : List (List Nat × Placed) :=
  ((addressesFrom position subviews).map (address ++ ·)).zip (listingAll parent subviews)

/-- The entries of a description start with its own. -/
theorem entries_eq (address : List Nat) (parent : Option Description) (description : Description) :
    entries address parent description =
      (address, parent, description) ::
        entriesFrom address (some description) 0 description.subviews := by
  rw [entries, addresses_eq, listing_eq, List.map_cons, List.append_nil, List.zip_cons_cons]
  rfl

/-- The entries of subviews stand one after the other. -/
theorem entriesFrom_cons (address : List Nat) (parent : Option Description) (position : Nat)
    (subview : Description) (rest : List Description) :
    entriesFrom address parent position (subview :: rest) =
      entries (address ++ [position]) parent subview ++
        entriesFrom address parent (position + 1) rest := by
  have lengths : (subview.addresses.map ((address ++ [position]) ++ ·)).length =
      (subview.listing parent).length := by
    have same := congrArg List.length (map_some_listing parent subview)
    rw [List.length_map, List.length_map] at same
    rw [List.length_map, same]
  have moved : (subview.addresses.map (position :: ·)).map (address ++ ·) =
      subview.addresses.map ((address ++ [position]) ++ ·) := by
    simp only [List.map_map, Function.comp_def, List.append_assoc, List.singleton_append]
  rw [entriesFrom, addressesFrom, listingAll, List.map_append, moved, List.zip_append lengths]
  rfl

/-- What is built below a parent. Without a view for it nothing is built. -/
def under (above : Option ViewId) (build : ViewId → Building → Building) (building : Building) :
    Building :=
  match above with
  | none => building
  | some id => build id building

variable {root : ViewId} {looping : Looping} {address : List Nat}

/-- Nothing is built below a parent once building has failed. -/
theorem under_of_failed {fault : HierarchyError} {building : Building}
    (failed : building.failure = some fault) (above : Option ViewId) (description : Description) :
    under above (Building.build · description) building = building := by
  cases above with
  | none => rfl
  | some id => simp only [under, Building.build_eq, failed]

/-- A round for a description does what building it does first: its subviews are built below the
view that it was given, and no other view is put down. -/
theorem round_some (root : ViewId) (parent description : Description)
    (fresh : looping.views.lookup address = none) :
    let after := looping.round root (address, some parent, description)
    under (after.views.lookup address) (Building.buildAll · description.subviews) after.building =
        under (looping.views.lookup address.dropLast) (Building.build · description)
          looping.building ∧
      ∀ other, other ≠ address → after.views.lookup other = looping.views.lookup other := by
  intro after
  -- a round that puts down no view has to have built the whole subtree
  have unkept (views : after.views = looping.views) (built : after.building =
      under (looping.views.lookup address.dropLast) (Building.build · description)
        looping.building) :
      under (after.views.lookup address) (Building.buildAll · description.subviews)
          after.building =
        under (looping.views.lookup address.dropLast) (Building.build · description)
          looping.building ∧
        ∀ other, other ≠ address → after.views.lookup other = looping.views.lookup other := by
    rw [views, fresh, under, built]
    exact ⟨rfl, fun _ _ => rfl⟩
  cases failed : looping.building.failure with
  | some fault =>
    have same : after = looping := by simp only [after, round, failed]
    rw [same] at unkept ⊢
    exact unkept rfl (under_of_failed failed _ description).symm
  | none =>
    cases found : looping.views.lookup address.dropLast with
    | none =>
      have same : after = looping := by simp only [after, round, failed, found]
      rw [same, found] at unkept
      rw [same]
      exact unkept rfl rfl
    | some above =>
      have here : after =
          match looping.building.materialize above description with
          | (placed, none) => { looping with building := placed }
          | (placed, some id) =>
            keep { looping with building := placed } address description id := by
        simp only [after, round, failed, found]
      have built : Building.build above description looping.building =
          match looping.building.materialize above description with
          | (placed, none) => placed
          | (placed, some id) => Building.buildUnder id description placed := by
        have step := Building.build_eq above description looping.building
        rw [failed] at step
        exact step
      rw [found] at unkept
      cases made : looping.building.materialize above description with
      | mk placed id? =>
        rw [made] at here built
        cases id? with
        | none =>
          rw [here] at unkept ⊢
          exact unkept rfl built.symm
        | some id =>
          rw [here]
          refine ⟨?_, fun other apart => ?_⟩
          · simp only [keep, List.lookup_cons_self, under, built, Building.buildUnder]
          · simp only [keep, List.lookup_cons, beq_eq_false_iff_ne.2 apart]

/-- What rounds come to: what is built, and that views are put down only for descriptions within
some addresses. -/
structure Comes (looping after : Looping) (building : Building) (within : List Nat → Prop) :
    Prop where
  built : after.building = building
  views : ∀ other, ¬ within other → after.views.lookup other = looping.views.lookup other

mutual

/-- The rounds for a tree build it below the view of its parent, if that has one. -/
theorem foldl_entries (root : ViewId) (parent : Description) : ∀ (description : Description)
    (address : List Nat) (looping : Looping),
    (∀ rest, looping.views.lookup (address ++ rest) = none) →
      Comes looping ((entries address (some parent) description).foldl (round root) looping)
        (under (looping.views.lookup address.dropLast) (Building.build · description)
          looping.building)
        (address <+: ·)
  | ⟨name, isNew, superclass, constraints, properties, zIndex, templates, subviews⟩ => by
    intro address looping fresh
    generalize whole : Description.mk name isNew superclass constraints properties zIndex templates
      subviews = description
    have below : description.subviews = subviews := by rw [← whole]
    have own := List.append_nil address ▸ fresh []
    obtain ⟨first, others⟩ := round_some root parent description own
    rw [entries_eq, List.foldl_cons, below]
    have rest := foldl_entriesFrom root description subviews address 0
      (looping.round root (address, some parent, description)) fun position later _ => by
        rw [others _ (by simp)]
        exact fresh _
    refine ⟨rest.built.trans (below ▸ first), fun other outside => ?_⟩
    rw [rest.views other, others other]
    · rintro rfl
      exact outside (List.prefix_refl _)
    · rintro ⟨position, later, -, rfl⟩
      exact outside (List.prefix_append _ _)

/-- The rounds over the entries of subviews, under the parent of which they are. -/
theorem foldl_entriesFrom (root : ViewId) (parent : Description) : ∀ (subviews : List Description)
    (address : List Nat) (position : Nat) (looping : Looping),
    (∀ index rest, position ≤ index → looping.views.lookup (address ++ index :: rest) = none) →
      Comes looping
        ((entriesFrom address (some parent) position subviews).foldl (round root) looping)
        (under (looping.views.lookup address) (Building.buildAll · subviews) looping.building)
        (fun other => ∃ index rest, position ≤ index ∧ other = address ++ index :: rest)
  | [], address, position, looping, _ => by
    refine ⟨?_, fun _ _ => rfl⟩
    cases looping.views.lookup address with
    | none => rfl
    | some id => simp only [under, Building.buildAll]; rfl
  | subview :: rest, address, position, looping, fresh => by
    have first := foldl_entries root parent subview (address ++ [position]) looping fun later => by
      rw [List.append_assoc]
      exact fresh position later (Nat.le_refl _)
    rw [List.dropLast_concat] at first
    rw [entriesFrom_cons, List.foldl_append]
    -- what the first subview put down is not what the later ones ask for
    have apart {index : Nat} {later : List Nat} (above : position < index) :
        ¬ address ++ [position] <+: address ++ index :: later := by
      rw [List.prefix_append_right_inj, List.cons_prefix_cons]
      exact fun same => Nat.ne_of_lt above same.1
    have others := foldl_entriesFrom root parent rest address (position + 1)
      ((entries (address ++ [position]) (some parent) subview).foldl (round root) looping)
      fun index later above => by
        rw [first.views _ (apart above)]
        exact fresh index later (Nat.le_of_lt above)
    have same := first.views address fun within => by
      have lengths := within.length_le
      rw [List.length_append, List.length_singleton] at lengths
      omega
    refine ⟨?_, fun other outside => ?_⟩
    · rw [others.built, same, first.built]
      cases looping.views.lookup address with
      | none => rfl
      | some id => simp only [under, Building.buildAll]
    · rw [others.views other, first.views other]
      · rintro ⟨later, rfl⟩
        exact outside ⟨position, later, Nat.le_refl _, by rw [List.append_assoc]; rfl⟩
      · rintro ⟨index, later, above, rfl⟩
        exact outside ⟨index, later, Nat.le_of_lt above, rfl⟩

end

end Looping

/-- **The loop builds the hierarchy that the recursion over the tree builds.** -/
theorem Scene.loopHierarchy_eq (scene : Scene) (root : ViewId) (description : Description) :
    (scene.loopHierarchy root description).building = scene.buildHierarchy root description := by
  have listed : description.addresses.zip description.walk =
      Looping.entries [] none description := by
    rw [Looping.entries, Description.walk_eq]
    simp
  rw [loopHierarchy, listed, Looping.entries_eq, List.foldl_cons]
  have rest := Looping.foldl_entriesFrom root description description.subviews [] 0
    (Looping.round root { building := { scene } } ([], none, description)) fun _ _ _ => rfl
  exact rest.built

end ViewLayout
