import ViewLayout.Proofs.Document.Shuffling
import ViewLayout.Proofs.Forest.Reordering
import ViewLayout.Proofs.Pass.Fresh

/-!
# The same views by other numbers

The order in which subviews are described decides the numbers of new views and the order in which
they are listed, and nothing else. `renumbering` takes each new view to the one of its name in the
other hierarchy, and `Matched.reorders` says that the two hierarchies are the same but for that.
-/

namespace ViewLayout

namespace Forest

variable {forest next : Forest} {index : ViewIndex} {since : Nat}

/-- Views that mirror descriptions are those that are meant by their names. -/
theorem MirrorsAll.map_meant
    (known : ∀ id view, since ≤ id → forest.view? id = some view →
      index.get? view.name = some id) {ids : List ViewId} {descriptions : List Description}
    (mirrors : forest.MirrorsAll since ids descriptions) :
    ids.map some = descriptions.map fun description => index.get? description.name := by
  induction ids generalizing descriptions with
  | nil =>
    cases mirrors
    rfl
  | cons id rest inner =>
    cases mirrors with
    | cons first others =>
      cases first with
      | intro fresh found name _ _ _ _ =>
        rw [List.map_cons, List.map_cons, inner others, ← name, known _ _ fresh found]

end Forest

namespace Pass

/-- The number that a view of a pass has in another pass: that of the new view of its name. -/
def renumbering (document other : Document) (root : ViewId) (scene : Scene) (id : ViewId) :
    ViewId :=
  if id < scene.forest.size then id
  else
    (((hierarchy document root scene).scene.forest.names[id]?).bind
      (Table.get? (hierarchy other root scene).scene.index)).getD id

variable {document other : Document} {root : ViewId} {scene : Scene}

/-- Views that were there keep their numbers. -/
theorem renumbering_old {id : ViewId} (old : id < scene.forest.size) :
    renumbering document other root scene id = id :=
  if_pos old

theorem renumbering_beyond {id : ViewId}
    (outside : (hierarchy document root scene).scene.forest.size ≤ id) :
    renumbering document other root scene id = id := by
  have unnamed : (hierarchy document root scene).scene.forest.names[id]? = none := by
    rw [List.getElem?_eq_none_iff, Forest.length_names]
    exact outside
  unfold renumbering
  split
  · rfl
  · rw [unnamed]
    rfl

/-- Two passes over documents of new views with the same names, in another order. -/
structure Matched (document other : Document) (root : ViewId) (scene : Scene) : Prop where
  fresh : Fresh document root scene
  again : Fresh other root scene
  names : (other.root.walk.tail.map fun placed => placed.2.name).Perm
    (document.root.walk.tail.map fun placed => placed.2.name)

namespace Matched

/-- Documents match each other. -/
theorem symm (matched : Matched document other root scene) : Matched other document root scene :=
  ⟨matched.again, matched.fresh, matched.names.symm⟩

/-- Both hierarchies have as many views. -/
theorem size_eq (matched : Matched document other root scene) :
    (hierarchy other root scene).scene.forest.size =
      (hierarchy document root scene).scene.forest.size := by
  have lengths := matched.names.length_eq
  rw [List.length_map, List.length_map] at lengths
  rw [matched.again.size_hierarchy, matched.fresh.size_hierarchy, lengths]

/-- A new view has the number of the new view of its name. -/
theorem renumbering_eq (matched : Matched document other root scene) {id there : ViewId}
    {name : String} (new : scene.forest.size ≤ id)
    (named : (hierarchy document root scene).scene.forest.names[id]? = some name)
    (newThere : scene.forest.size ≤ there)
    (namedThere : (hierarchy other root scene).scene.forest.names[there]? = some name) :
    renumbering document other root scene id = there := by
  rw [renumbering, if_neg (Nat.not_lt.2 new), named, Option.bind_some,
    matched.again.known newThere namedThere, Option.getD_some]

/-- There is a new view of the same name. -/
theorem renumbering_new (matched : Matched document other root scene) {id : ViewId} {name : String}
    (new : scene.forest.size ≤ id)
    (named : (hierarchy document root scene).scene.forest.names[id]? = some name) :
    scene.forest.size ≤ renumbering document other root scene id ∧
      (hierarchy other root scene).scene.forest.names[renumbering document other root scene id]? =
        some name := by
  obtain ⟨placed, seat, rfl⟩ := matched.fresh.exists_seat new named
  have described := List.mem_map_of_mem (f := fun placed : Description.Placed => placed.2.name)
    (List.fst_mem_of_mem_zipIdx seat)
  obtain ⟨copy, listed, same⟩ := List.mem_map.1 (matched.names.mem_iff.2 described)
  obtain ⟨there, _, newThere, namedThere⟩ := matched.again.exists_named listed
  rw [same] at namedThere
  rw [matched.renumbering_eq new named newThere namedThere]
  exact ⟨newThere, namedThere⟩

/-- Going over and back gives the number again. -/
theorem renumbering_renumbering (matched : Matched document other root scene) (id : ViewId) :
    renumbering other document root scene (renumbering document other root scene id) = id := by
  by_cases old : id < scene.forest.size
  · rw [renumbering_old old, renumbering_old old]
  · by_cases outside : (hierarchy document root scene).scene.forest.size ≤ id
    · rw [renumbering_beyond outside, renumbering_beyond (by rwa [matched.size_eq])]
    · have new := Nat.le_of_not_lt old
      obtain ⟨name, named⟩ : ∃ name,
          (hierarchy document root scene).scene.forest.names[id]? = some name :=
        ⟨_, List.getElem?_eq_getElem (by rw [Forest.length_names]; exact Nat.lt_of_not_le outside)⟩
      obtain ⟨newThere, namedThere⟩ := matched.renumbering_new new named
      exact matched.symm.renumbering_eq newThere namedThere new named

/-- The numbers of both go one to one. -/
theorem bijective (matched : Matched document other root scene) :
    Function.Bijective (renumbering document other root scene) :=
  Function.bijective_iff_has_inverse.2 ⟨renumbering other document root scene,
    matched.renumbering_renumbering, matched.symm.renumbering_renumbering⟩

/-- Names mean the same views. -/
theorem get?_index (matched : Matched document other root scene) (name : String) :
    (hierarchy other root scene).scene.index.get? name =
      ((hierarchy document root scene).scene.index.get? name).map
        (renumbering document other root scene) := by
  have forward : ∀ {document other : Document}, Matched document other root scene → ∀ id,
      (hierarchy document root scene).scene.index.get? name = some id →
        (hierarchy other root scene).scene.index.get? name =
          some (renumbering document other root scene id) := by
    intro document other matched id found
    rw [matched.again.get?_index_iff]
    rcases matched.fresh.get?_index_iff.1 found with ⟨same, rfl⟩ | ⟨new, named⟩
    · exact .inl ⟨same, renumbering_old matched.fresh.inside⟩
    · exact .inr (matched.renumbering_new new named)
  cases found : (hierarchy document root scene).scene.index.get? name with
  | some id => exact forward matched id found
  | none =>
    refine Option.eq_none_iff_forall_ne_some.2 fun id meant => ?_
    rw [forward matched.symm id meant] at found
    cases found

/-- Views that mirror descriptions of the same names, in another order, are the same views. -/
theorem perm_ids (matched : Matched document other root scene) {ids others : List ViewId}
    {descriptions shuffled : List Description}
    (first : (hierarchy document root scene).scene.forest.MirrorsAll scene.forest.size ids
      descriptions)
    (second : (hierarchy other root scene).scene.forest.MirrorsAll scene.forest.size others
      shuffled)
    (names : (shuffled.map Description.name).Perm (descriptions.map Description.name)) :
    others.Perm (ids.map (renumbering document other root scene)) := by
  have meant := first.map_meant fun _ _ => matched.fresh.known_view
  have meantThere := second.map_meant fun _ _ => matched.again.known_view
  have here : (descriptions.map Description.name).map
      (hierarchy other root scene).scene.index.get? =
        (ids.map (renumbering document other root scene)).map some := by
    have each : ∀ description ∈ descriptions,
        (hierarchy other root scene).scene.index.get? description.name =
          ((hierarchy document root scene).scene.index.get? description.name).map
            (renumbering document other root scene) :=
      fun description _ => matched.get?_index description.name
    calc (descriptions.map Description.name).map (hierarchy other root scene).scene.index.get?
        = (descriptions.map fun description =>
            (hierarchy document root scene).scene.index.get? description.name).map
              (Option.map (renumbering document other root scene)) := by
          rw [List.map_map, List.map_map]
          exact List.map_congr_left each
      _ = (ids.map (renumbering document other root scene)).map some := by
          rw [← meant, List.map_map, List.map_map]
          rfl
  have there : others.map some =
      (shuffled.map Description.name).map (hierarchy other root scene).scene.index.get? := by
    rw [meantThere, List.map_map]
    rfl
  have permuted := names.map (hierarchy other root scene).scene.index.get?
  rw [here, ← there] at permuted
  exact (List.map_perm_map_iff fun _ _ => Option.some.inj).1 permuted

/-- What a view listed keeps its number. -/
theorem map_renumbering_old (matched : Matched document other root scene) {id : ViewId}
    {view : View} (found : scene.forest.view? id = some view) :
    view.subviews.map (renumbering document other root scene) = view.subviews := by
  refine (List.map_congr_left fun below listed => ?_).trans (List.map_id _)
  rw [← Forest.subviewsOf_of_view? found, matched.fresh.formed.mem_subviewsOf_iff] at listed
  exact renumbering_old (Forest.lt_size_of_parent? listed)

/-- Views that there were, but for the root view, are the same in both hierarchies. -/
theorem reorders_old (matched : Matched document other root scene) {id : ViewId} {view : View}
    (old : id < scene.forest.size) (different : id ≠ root)
    (found : (hierarchy document root scene).scene.forest.view? id = some view) :
    ∃ there,
      (hierarchy other root scene).scene.forest.view?
          (renumbering document other root scene id) = some there ∧
        view.Reorders (renumbering document other root scene) there := by
  rw [matched.fresh.view?_old old different] at found
  rw [renumbering_old old, matched.again.view?_old old different]
  exact ⟨view, found, rfl, rfl, rfl, rfl, .of_eq (matched.map_renumbering_old found).symm⟩

/-- The root view lists the same views in both hierarchies, those that were there first. -/
theorem reorders_root (matched : Matched document other root scene)
    (shuffles : document.root.Shuffles other.root) {view : View}
    (found : (hierarchy document root scene).scene.forest.view? root = some view) :
    ∃ there,
      (hierarchy other root scene).scene.forest.view?
          (renumbering document other root scene root) = some there ∧
        view.Reorders (renumbering document other root scene) there := by
  obtain ⟨before, ids, was, now, mirrors⟩ := matched.fresh.view?_root
  obtain ⟨beforeToo, others, wasToo, nowThere, mirrorsThere⟩ := matched.again.view?_root
  obtain rfl : before = beforeToo := Option.some.inj (was.symm.trans wasToo)
  obtain rfl := Option.some.inj (now.symm.trans found)
  have names := shuffles.perm_subviews Description.name fun _ _ => rfl
  have zIndex := shuffles.eq_of_same Description.zIndex fun _ _ => rfl
  have properties := shuffles.eq_of_same Description.properties fun _ _ => rfl
  rw [renumbering_old matched.fresh.inside]
  refine ⟨_, nowThere, rfl, rfl, zIndex, by rw [properties], ?_⟩
  rw [List.map_append, matched.map_renumbering_old was]
  exact (matched.perm_ids mirrors mirrorsThere names).append_left _

/-- A new view is as the one of its name in the other hierarchy. -/
theorem reorders_new (matched : Matched document other root scene)
    (shuffles : document.root.Shuffles other.root) {id : ViewId} {view : View}
    (new : scene.forest.size ≤ id)
    (found : (hierarchy document root scene).scene.forest.view? id = some view) :
    ∃ there,
      (hierarchy other root scene).scene.forest.view?
          (renumbering document other root scene id) = some there ∧
        view.Reorders (renumbering document other root scene) there := by
  have named := (hierarchy document root scene).scene.forest.getElem?_names id
  rw [found, Option.map_some] at named
  -- The view was made for a description, which the other document has with its subviews in another
  -- order; the view of that one has the same name, so that it is the one that is looked for.
  obtain ⟨placed, seat, same⟩ := matched.fresh.exists_seat new named
  obtain ⟨again, listed, shuffled⟩ :=
    shuffles.exists_of_mem_walk (List.fst_mem_of_mem_zipIdx seat)
  obtain ⟨there, seatThere, newThere, namedThere⟩ := matched.again.exists_named listed
  have names := shuffled.perm_subviews Description.name fun _ _ => rfl
  have superclasses := shuffled.eq_of_same Description.superclass fun _ _ => rfl
  have zIndices := shuffled.eq_of_same Description.zIndex fun _ _ => rfl
  have properties := shuffled.eq_of_same Description.properties fun _ _ => rfl
  rw [shuffled.eq_of_same Description.name fun _ _ => rfl, same] at namedThere
  rw [matched.renumbering_eq new named newThere namedThere]
  obtain ⟨_, held, _, superclass, zIndex, property, below⟩ := matched.fresh.mirrors seat
  obtain ⟨_, heldThere, name, superclassThere, zIndexThere, propertyThere, belowThere⟩ :=
    matched.again.mirrors seatThere
  obtain rfl := Option.some.inj (held.symm.trans found)
  refine ⟨_, heldThere, ?_, ?_, ?_, ?_, matched.perm_ids below belowThere names⟩
  · rw [name, shuffled.eq_of_same Description.name fun _ _ => rfl, same]
  · rw [superclass, superclassThere, superclasses]
  · rw [zIndex, zIndexThere, zIndices]
  · rw [property, propertyThere, properties]

/-- The hierarchies differ in the numbers of new views and in the order of subviews. -/
theorem reorders (matched : Matched document other root scene)
    (shuffles : document.root.Shuffles other.root) :
    Forest.Reorders (renumbering document other root scene)
      (hierarchy document root scene).scene.forest (hierarchy other root scene).scene.forest := by
  refine .of_subviews matched.fresh.formed_hierarchy matched.again.formed_hierarchy
    matched.bijective matched.size_eq (fun _ => renumbering_beyond) fun id view found => ?_
  by_cases old : id < scene.forest.size
  · by_cases different : id = root
    · subst different
      exact matched.reorders_root shuffles found
    · exact matched.reorders_old old different found
  · exact matched.reorders_new shuffles (Nat.le_of_not_lt old) found

end Matched

/-- **With its subviews in another order, a document describes the same new views.** -/
theorem Fresh.matched (fresh : Fresh document root scene)
    (shuffles : document.root.Shuffles other.root) : Matched document other root scene := by
  have names := shuffles.perm_walk Description.name fun _ _ => rfl
  have kinds := shuffles.perm_walk Description.isNew fun _ _ => rfl
  refine ⟨fresh, ⟨fresh.formed, fresh.inside, fresh.unnamed, fun placed listed => ?_, ?_⟩, names⟩
  · have kind := kinds.mem_iff.1 (List.mem_map_of_mem listed)
    obtain ⟨copy, there, same⟩ := List.mem_map.1 kind
    rw [← same]
    exact fresh.allNew copy there
  · exact (names.cons _).nodup_iff.2 fresh.distinct

end Pass

end ViewLayout
