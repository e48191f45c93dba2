import ViewLayout.Proofs.Pass.Mirroring
import ViewLayout.Proofs.Pass.Naming

/-!
# New views with different names

Where a document describes nothing but new views and all names are different, each name comes to
mean the one view that was made for it, and nothing is told while they are made.
-/

namespace ViewLayout

/-- Names that are all different repeat none. -/
theorem repeatedNames_eq_nil {known names : List String} (distinct : (known ++ names).Nodup) :
    repeatedNames known names = [] := by
  induction names generalizing known with
  | nil => rfl
  | cons name rest inner =>
    have fresh : name ∉ known := fun member =>
      (List.nodup_append.1 distinct).2.2 name member name List.mem_cons_self rfl
    rw [repeatedNames, if_neg fresh, List.nil_append]
    exact inner (by rwa [List.append_assoc])

namespace Building

variable {building next : Building} {entries : List (Description × ViewId)}

/-- New views with different names are known by them. -/
theorem Declares.known (declares : Declares building next entries)
    (distinct : (declarations entries).names.Nodup) {id : ViewId} {name : String}
    (fresh : building.scene.forest.size ≤ id) (named : next.scene.forest.names[id]? = some name) :
    next.scene.index.get? name = some id := by
  obtain ⟨place, rfl⟩ := Nat.exists_eq_add_of_le fresh
  rw [declares.names, ← Forest.length_names,
    List.getElem?_append_right (Nat.le_add_right _ _), Nat.add_sub_cancel_left] at named
  rw [Table.names, List.getElem?_map] at named
  obtain ⟨entry, listed, rfl⟩ := Option.map_eq_some_iff.1 named
  have number : entry.2 = building.scene.forest.size + place := by
    have within := (List.getElem?_eq_some_iff.1 listed).1
    have numbers : ((declarations entries).map Prod.snd)[place]? = _ :=
      congrArg (·[place]?) declares.numbers
    rw [List.getElem?_map, listed, List.getElem?_range' within, Nat.one_mul] at numbers
    exact Option.some.inj numbers
  have last : (declarations entries).last? entry.1 = some entry.2 :=
    Table.last?_of_mem distinct (List.mem_of_getElem? listed)
  rw [declares.index, Table.get?_putAll, last, number, Option.some_or]

end Building

namespace Pass

/-- A document of new views with different names, for a scene in which no name means a view. -/
structure Fresh (document : Document) (root : ViewId) (scene : Scene) : Prop where
  formed : scene.forest.WellFormed
  inside : root < scene.forest.size
  unnamed : scene.index = []
  allNew : ∀ placed ∈ document.root.walk.tail, placed.2.isNew = true
  distinct : (scene.forest.nameOf root ::
    document.root.walk.tail.map fun placed => placed.2.name).Nodup

variable {document : Document} {root : ViewId} {scene : Scene}

/-- What is walked behind the root are its subviews. -/
theorem tail_walk (document : Document) : document.root.walk.tail =
    Description.listingAll (some document.root) document.root.subviews := by
  rw [Description.walk_eq, Description.listing_eq, List.tail_cons]

namespace Fresh

/-- A fresh document only adds to the forest. -/
theorem grows (fresh : Fresh document root scene) :
    ∃ ids, Building.Grows (some document.root) root document.root.subviews ids
      (opened document root scene) (hierarchy document root scene) :=
  grows_hierarchy fresh.formed fresh.inside (tail_walk document ▸ fresh.allNew)

/-- A fresh document declares all that it describes. -/
theorem declares (fresh : Fresh document root scene) :
    Building.Declares (opened document root scene) (hierarchy document root scene)
      (hierarchy document root scene).built.tail := by
  obtain ⟨_, _, _, declares⟩ := declares_hierarchy fresh.formed fresh.inside fresh.unnamed
  exact declares

/-- Every description below the root is built with the next view in preorder. -/
theorem built_eq_zipIdx (fresh : Fresh document root scene) :
    (hierarchy document root scene).built = (document.root, root) ::
      (document.root.walk.tail.zipIdx scene.forest.size).map fun seat => (seat.1.2, seat.2) := by
  obtain ⟨ids, grows⟩ := fresh.grows
  rw [grows.built, size_opened, tail_walk, List.zipIdx_map]
  rfl

/-- What is declared are the names of the walk with the next numbers. -/
theorem declared_eq (fresh : Fresh document root scene) :
    declared document root scene =
      (document.root.walk.tail.zipIdx scene.forest.size).map fun seat =>
        (seat.1.2.name, seat.2) := by
  have allNew : ∀ entry ∈ (hierarchy document root scene).built.tail, entry.1.isNew = true := by
    rw [fresh.built_eq_zipIdx, List.tail_cons]
    intro entry member
    obtain ⟨seat, listed, rfl⟩ := List.mem_map.1 member
    exact fresh.allNew _ (List.fst_mem_of_mem_zipIdx listed)
  rw [declared, Building.declarations, List.filter_eq_self.2 allNew, fresh.built_eq_zipIdx,
    List.tail_cons, List.map_map]
  rfl

theorem names_declared (fresh : Fresh document root scene) :
    (declared document root scene).names =
      document.root.walk.tail.map fun placed => placed.2.name := by
  have firsts : (document.root.walk.tail.zipIdx scene.forest.size).map Prod.fst =
      document.root.walk.tail := List.zipIdx_map_fst ..
  rw [fresh.declared_eq, Table.names, List.map_map]
  conv_rhs => rw [← firsts, List.map_map]
  rfl

theorem nodup_declared (fresh : Fresh document root scene) :
    (declared document root scene).names.Nodup := by
  rw [fresh.names_declared]
  exact (List.nodup_cons.1 fresh.distinct).2

/-- Every new view is known by its name. -/
theorem known (fresh : Fresh document root scene) {id : ViewId} {name : String}
    (new : scene.forest.size ≤ id)
    (named : (hierarchy document root scene).scene.forest.names[id]? = some name) :
    (hierarchy document root scene).scene.index.get? name = some id :=
  fresh.declares.known fresh.nodup_declared (by rwa [size_opened]) named

/-- The name of every description comes to mean the view that it is built with. -/
theorem meant (fresh : Fresh document root scene) {seat : Description.Placed × ViewId}
    (listed : seat ∈ document.root.walk.tail.zipIdx scene.forest.size) :
    (hierarchy document root scene).scene.index.get? seat.1.2.name = some seat.2 := by
  have last : (declared document root scene).last? seat.1.2.name = some seat.2 := by
    refine Table.last?_of_mem fresh.nodup_declared ?_
    rw [fresh.declared_eq]
    exact List.mem_map_of_mem listed
  rw [fresh.declares.index, Table.get?_putAll]
  exact congrArg (Option.or · _) last

/-- What is built is the walk, each with the view that its name means. -/
theorem built_eq (fresh : Fresh document root scene) :
    (hierarchy document root scene).built = (document.root, root) ::
      document.root.walk.tail.map fun placed =>
        (placed.2, ((hierarchy document root scene).scene.index.get? placed.2.name).getD 0) := by
  have firsts : (document.root.walk.tail.zipIdx scene.forest.size).map Prod.fst =
      document.root.walk.tail := List.zipIdx_map_fst ..
  rw [fresh.built_eq_zipIdx]
  conv_rhs => rw [← firsts, List.map_map]
  refine congrArg _ (List.map_congr_left fun seat listed => ?_)
  simp only [Function.comp_apply, fresh.meant listed, Option.getD_some]

/-- The view that a description is built with mirrors it. -/
theorem mirrors (fresh : Fresh document root scene) {seat : Description.Placed × ViewId}
    (listed : seat ∈ document.root.walk.tail.zipIdx scene.forest.size) :
    (hierarchy document root scene).scene.forest.Mirrors scene.forest.size seat.2 seat.1.2 := by
  obtain ⟨ids, grows⟩ := fresh.grows
  have entries := grows.entries
  rw [size_opened, ← tail_walk, List.zipIdx_map] at entries
  exact entries _ (List.mem_map_of_mem listed)

/-- The names of the forest are those before and those of the walk. -/
theorem names_hierarchy (fresh : Fresh document root scene) :
    (hierarchy document root scene).scene.forest.names =
      scene.forest.names ++ document.root.walk.tail.map fun placed => placed.2.name := by
  rw [fresh.declares.names, names_opened, ← fresh.names_declared]
  rfl

/-- The forest has as many views more as are walked. -/
theorem size_hierarchy (fresh : Fresh document root scene) :
    (hierarchy document root scene).scene.forest.size =
      scene.forest.size + document.root.walk.tail.length := by
  rw [← Forest.length_names, fresh.names_hierarchy, List.length_append, List.length_map,
    Forest.length_names]

/-- Every new view was made for a description of its name. -/
theorem exists_seat (fresh : Fresh document root scene) {id : ViewId} {name : String}
    (new : scene.forest.size ≤ id)
    (named : (hierarchy document root scene).scene.forest.names[id]? = some name) :
    ∃ placed, (placed, id) ∈ document.root.walk.tail.zipIdx scene.forest.size ∧
      placed.2.name = name := by
  obtain ⟨place, rfl⟩ := Nat.exists_eq_add_of_le new
  rw [fresh.names_hierarchy, ← Forest.length_names,
    List.getElem?_append_right (Nat.le_add_right _ _), Nat.add_sub_cancel_left,
    List.getElem?_map] at named
  obtain ⟨placed, there, rfl⟩ := Option.map_eq_some_iff.1 named
  exact ⟨placed, List.mk_add_mem_zipIdx_iff_getElem?.2 there, rfl⟩

/-- A view was made for every description. -/
theorem exists_named (fresh : Fresh document root scene) {placed : Description.Placed}
    (listed : placed ∈ document.root.walk.tail) :
    ∃ id, (placed, id) ∈ document.root.walk.tail.zipIdx scene.forest.size ∧
      scene.forest.size ≤ id ∧
        (hierarchy document root scene).scene.forest.names[id]? = some placed.2.name := by
  obtain ⟨place, there⟩ := List.mem_iff_getElem?.1 listed
  refine ⟨scene.forest.size + place, List.mk_add_mem_zipIdx_iff_getElem?.2 there,
    Nat.le_add_right _ _, ?_⟩
  rw [fresh.names_hierarchy, ← Forest.length_names,
    List.getElem?_append_right (Nat.le_add_right _ _), Nat.add_sub_cancel_left, List.getElem?_map,
    there]
  rfl

/-- The root view keeps its name. -/
theorem nameOf_root (fresh : Fresh document root scene) :
    (hierarchy document root scene).scene.forest.nameOf root = scene.forest.nameOf root := by
  rw [Forest.nameOf_eq_getD, Forest.nameOf_eq_getD, fresh.names_hierarchy,
    List.getElem?_append_left]
  rw [Forest.length_names]
  exact fresh.inside

/-- The root view is known by its name. -/
theorem known_root (fresh : Fresh document root scene) :
    (hierarchy document root scene).scene.index.get? (scene.forest.nameOf root) = some root := by
  have other : (declared document root scene).last? (scene.forest.nameOf root) = none := by
    refine Option.not_isSome_iff_eq_none.1 ((not_congr Table.isSome_last?_iff).2 ?_)
    rw [fresh.names_declared]
    exact (List.nodup_cons.1 fresh.distinct).1
  rw [fresh.declares.index, Table.get?_putAll, index_opened fresh.unnamed]
  change ((declared document root scene).last? _).or _ = _
  rw [other]
  simp [Table.get?]

/-- **A name means a view exactly if it is the root view's, or that of a new view.** -/
theorem get?_index_iff (fresh : Fresh document root scene) {name : String} {id : ViewId} :
    (hierarchy document root scene).scene.index.get? name = some id ↔
      name = scene.forest.nameOf root ∧ id = root ∨ scene.forest.size ≤ id ∧
        (hierarchy document root scene).scene.forest.names[id]? = some name := by
  constructor
  · intro found
    by_cases described : name ∈ document.root.walk.tail.map fun placed => placed.2.name
    · obtain ⟨placed, listed, rfl⟩ := List.mem_map.1 described
      obtain ⟨other, _, new, named⟩ := fresh.exists_named listed
      obtain rfl : other = id := Option.some.inj ((fresh.known new named).symm.trans found)
      exact .inr ⟨new, named⟩
    · have other : (declared document root scene).last? name = none := by
        refine Option.not_isSome_iff_eq_none.1 ((not_congr Table.isSome_last?_iff).2 ?_)
        rwa [fresh.names_declared]
      rw [fresh.declares.index, Table.get?_putAll, index_opened fresh.unnamed] at found
      change ((declared document root scene).last? name).or _ = _ at found
      rw [other, Option.none_or, Table.get?] at found
      split at found
      · next same => exact .inl ⟨same.symm, (Option.some.inj found).symm⟩
      · cases found
  · rintro (⟨rfl, rfl⟩ | ⟨new, named⟩)
    · exact fresh.known_root
    · exact fresh.known new named

/-- Nothing is told while the views are made. -/
theorem untold (fresh : Fresh document root scene) :
    (hierarchy document root scene).diagnostics = [] := by
  obtain ⟨ids, grows⟩ := fresh.grows
  obtain ⟨told, diagnostics, warnings⟩ := grows.warned
  have none : (hierarchy document root scene).diagnostics.filterMap Diagnostic.redeclared? =
      [] := by
    have distinct := fresh.distinct
    rw [← fresh.names_declared] at distinct
    rw [fresh.declares.warned, index_opened fresh.unnamed]
    exact repeatedNames_eq_nil distinct
  have all : (hierarchy document root scene).diagnostics = told := diagnostics
  rw [all] at none ⊢
  refine List.eq_nil_iff_forall_not_mem.2 fun diagnostic member => ?_
  obtain ⟨name, rfl⟩ := warnings diagnostic member
  exact Option.some_ne_none name (List.filterMap_eq_nil_iff.1 none _ member)

/-- Other views that there were are as they were. -/
theorem view?_old (fresh : Fresh document root scene) {other : ViewId}
    (old : other < scene.forest.size) (different : other ≠ root) :
    (hierarchy document root scene).scene.forest.view? other = scene.forest.view? other := by
  obtain ⟨ids, grows⟩ := fresh.grows
  rw [grows.earlier other (by rwa [size_opened]), view?_opened]
  simp only [if_neg (Ne.symm different), List.append_nil, Option.map_id']

/-- The root view is as it is described, with new subviews after those that it had. -/
theorem view?_root (fresh : Fresh document root scene) :
    ∃ before ids, scene.forest.view? root = some before ∧
      (hierarchy document root scene).scene.forest.view? root =
        some
          { before with
            zIndex := document.root.zIndex
            properties := before.properties.putAll document.root.properties
            subviews := before.subviews ++ ids } ∧
      (hierarchy document root scene).scene.forest.MirrorsAll scene.forest.size ids
        document.root.subviews := by
  obtain ⟨before, found⟩ := Forest.exists_view?_of_lt_size fresh.inside
  obtain ⟨ids, grows⟩ := fresh.grows
  have now := grows.earlier root (by rw [size_opened]; exact fresh.inside)
  rw [view?_opened, found] at now
  simp only [↓reduceIte, Option.map_some] at now
  have mirrors := grows.mirrors
  rw [size_opened] at mirrors
  exact ⟨before, ids, found, now, mirrors⟩

/-- The forest stays well formed. -/
theorem formed_hierarchy (fresh : Fresh document root scene) :
    (hierarchy document root scene).scene.forest.WellFormed := by
  obtain ⟨ids, grows⟩ := fresh.grows
  exact grows.formed

/-- A new view is known by its name. -/
theorem known_view (fresh : Fresh document root scene) {id : ViewId} {view : View}
    (new : scene.forest.size ≤ id)
    (found : (hierarchy document root scene).scene.forest.view? id = some view) :
    (hierarchy document root scene).scene.index.get? view.name = some id := by
  refine fresh.known new ?_
  rw [Forest.getElem?_names, found, Option.map_some]

end Fresh

/-- A document of new views for a lone window, whose names can be compared. -/
theorem fresh_oneView {document : Document}
    (allNew : ∀ placed ∈ Description.listingAll (some document.root) document.root.subviews,
      placed.2.isNew = true)
    (distinct : ("window" :: (Description.listingAll (some document.root)
      document.root.subviews).map fun placed => placed.2.name).Nodup) :
    Fresh document 0 oneView where
  formed := Forest.wellFormed_after [.create "window" none none]
  inside := by decide
  unnamed := rfl
  allNew := by rwa [tail_walk]
  distinct := by rwa [tail_walk]

end Pass

end ViewLayout
