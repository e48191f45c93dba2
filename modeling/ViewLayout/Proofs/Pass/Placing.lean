import ViewLayout.Proofs.Pass.Fates

/-!
# Where views are placed

A view that is looked up can be placed several times, below views that are moved later, and by names
that mean another view in between. `Standing` is what building says of a view, and `Follows` that
building does to every view what its own placements do, one after the other: moving one view leaves
the parents of all others as they are. So every view is left as it was placed last, and one that was
not placed as it was before.
-/

namespace ViewLayout

/-- What a hierarchy says of a view but for its name and its subviews. -/
structure Standing where
  parent : Option ViewId := none
  zIndex : Int := 0
  properties : Table String := []
deriving DecidableEq

/-- Where and how a view stands. -/
def View.standing (view : View) : Standing where
  parent := view.parent
  zIndex := view.zIndex
  properties := view.properties

namespace Forest

variable {forest next : Forest} {parent id : ViewId}

/-- How a view stands. One that is not there yet stands like a new view without a parent. -/
def standing (forest : Forest) (id : ViewId) : Standing :=
  ((forest.view? id).map View.standing).getD {}

/-- How a view stands tells its parent. -/
theorem parent_standing (forest : Forest) (id : ViewId) :
    (forest.standing id).parent = forest.parent? id := by
  rw [standing, parent?]
  cases forest.view? id <;> rfl

/-- What is not there stands nowhere. -/
theorem standing_of_size_le (beyond : forest.size ≤ id) : forest.standing id = {} := by
  have missing : forest.view? id = none := List.getElem?_eq_none beyond
  rw [standing, missing]
  rfl

/-- A move changes how the moved view stands, and no other one. -/
theorem standing_addSubview (formed : forest.WellFormed) (inside : id < forest.size)
    (moved : forest.addSubview parent id = .ok next) (other : ViewId) :
    next.standing other =
      if id = other then { forest.standing other with parent := some parent }
      else forest.standing other := by
  rw [standing, standing, view?_addSubview formed moved]
  by_cases same : id = other
  · obtain ⟨view, found⟩ := exists_view?_of_lt_size (same ▸ inside)
    simp [same, found, View.standing]
  · cases forest.view? other <;> simp [same, View.standing]

/-- A view that is created stands below its parent, and all others as before. -/
theorem standing_createUnder (formed : forest.WellFormed) {name : String}
    {superclass : Option String}
    (made : forest.createUnder parent name superclass = .ok (id, next)) (other : ViewId) :
    next.standing other =
      if id = other then { forest.standing other with parent := some parent }
      else forest.standing other := by
  obtain ⟨rfl, _⟩ := (createUnder_eq_ok_iff name superclass).1 made
  rw [standing, formed.view?_createUnder made]
  by_cases same : forest.size = other
  · rw [if_pos same, if_pos same, standing_of_size_le (Nat.le_of_eq same)]
    rfl
  · rw [if_neg same, if_neg same, standing]
    cases forest.view? other <;> rfl

end Forest

/-- A description that was built, with its view and with the description and the view above. -/
structure Placement where
  above : Description × ViewId
  description : Description
  id : ViewId

namespace Placement

/-- What a building keeps of a placement. -/
def entry (placement : Placement) : Description × ViewId :=
  (placement.description, placement.id)

/-- The description of a placement with its parent. -/
def placed (placement : Placement) : Description.Placed :=
  (some placement.above.1, placement.description)

/-- How a view stands after a placement. -/
def settle (standing : Standing) (placement : Placement) : Standing where
  parent := some placement.above.2
  zIndex := placement.description.zIndex
  properties := standing.properties.putAll placement.description.properties

/-- The placements of a view. -/
def ofView (placements : List Placement) (id : ViewId) : List Placement :=
  placements.filter (·.id == id)

/-- The placements of a view in two lists. -/
theorem ofView_append (first second : List Placement) (id : ViewId) :
    ofView (first ++ second) id = ofView first id ++ ofView second id :=
  List.filter_append ..

/-- A view has no placements exactly if none is its own. -/
theorem ofView_eq_nil_iff {placements : List Placement} {id : ViewId} :
    ofView placements id = [] ↔ ∀ placement ∈ placements, placement.id ≠ id := by
  simp [ofView, List.filter_eq_nil_iff]

/-- A view that was placed has a last placement. -/
theorem isSome_getLast?_ofView {placements : List Placement} {placement : Placement}
    (member : placement ∈ placements) : (ofView placements placement.id).getLast?.isSome := by
  have own : placement ∈ ofView placements placement.id := List.mem_filter.2 ⟨member, by simp⟩
  simpa using List.ne_nil_of_mem own

/-- The placements of a view are those that were built for it. -/
theorem filter_map_entry (placements : List Placement) (id : ViewId) :
    (placements.map entry).filter (·.2 == id) = (ofView placements id).map entry :=
  List.filter_map ..

/-- A single placement settles its own view. -/
theorem foldl_settle_singleton (placement : Placement) (id : ViewId) (standing : Standing) :
    (ofView [placement] id).foldl settle standing =
      if placement.id = id then settle standing placement else standing := by
  by_cases same : placement.id = id <;> simp [ofView, same]

/-- Properties add up over placements. -/
theorem properties_foldl_settle (placements : List Placement) (standing : Standing) :
    (placements.foldl settle standing).properties =
      placements.foldl (fun table placement => table.putAll placement.description.properties)
        standing.properties := by
  induction placements generalizing standing with
  | nil => rfl
  | cons placement rest inner => rw [List.foldl_cons, List.foldl_cons, inner, settle]

/-- The last one of some placements counts, but for properties. -/
theorem foldl_settle_of_last {placements : List Placement} {last : Placement}
    (final : placements.getLast? = some last) (standing : Standing) :
    (placements.foldl settle standing).parent = some last.above.2 ∧
      (placements.foldl settle standing).zIndex = last.description.zIndex := by
  obtain ⟨earlier, rfl⟩ := List.getLast?_eq_some_iff.1 final
  rw [List.foldl_append]
  exact ⟨rfl, rfl⟩

end Placement

namespace Fate

mutual

/-- The placements that a fate is made of, in preorder. -/
def placements (above : Description × ViewId) : Fate → List Placement
  | built description id subviews =>
    ⟨above, description, id⟩ :: placementsAll (description, id) subviews
  | skipped _ _ => []

/-- The placements of several fates. -/
def placementsAll (above : Description × ViewId) : List Fate → List Placement
  | [] => []
  | fate :: rest => fate.placements above ++ placementsAll above rest

end

mutual

/-- What was built is listed as it was placed. -/
theorem listing_eq_placements (above : Description × ViewId) : ∀ fate : Fate,
    fate.listing (some above.1) =
      (fate.placements above).map fun placement => (placement.placed, placement.id)
  | built description id subviews => by
    rw [listing, placements, List.map_cons]
    exact congrArg _ (listingAll_eq_placements (description, id) subviews)
  | skipped _ _ => rfl

/-- What was built of subviews is listed as it was placed. -/
theorem listingAll_eq_placements (above : Description × ViewId) : ∀ fates : List Fate,
    listingAll (some above.1) fates =
      (placementsAll above fates).map fun placement => (placement.placed, placement.id)
  | [] => rfl
  | fate :: rest => by
    rw [listingAll, placementsAll, List.map_append, listing_eq_placements above fate,
      listingAll_eq_placements above rest]

end

/-- The description above a placement is the given one, or was placed itself with the view above. -/
def Seated (above : Description × ViewId) (descriptions : List Description)
    (placements : List Placement) (placement : Placement) : Prop :=
  placement.above = above ∧ placement.description ∈ descriptions ∨
    ∃ upper ∈ placements, placement.above = upper.entry ∧
      placement.description ∈ upper.description.subviews

/-- What is seated stays so among more descriptions. -/
theorem Seated.mono {above : Description × ViewId} {descriptions more : List Description}
    {placements others : List Placement} {placement : Placement}
    (seated : Seated above descriptions placements placement) (wider : descriptions ⊆ more)
    (longer : placements ⊆ others) : Seated above more others placement :=
  seated.imp (fun ⟨here, given⟩ => ⟨here, wider given⟩)
    fun ⟨upper, member, below⟩ => ⟨upper, longer member, below⟩

mutual

/-- Views are placed below the views of their parents. -/
theorem Comes.seated : ∀ (above : Description × ViewId) {description : Description}
    {building next : Building} {fate : Fate}, Comes above.2 description building fate next →
      ∀ placement ∈ fate.placements above,
        Seated above [description] (fate.placements above) placement
  | above, description, _, _, _, @Comes.built _ id _ _ _ _ subviews _ below => by
    intro placement member
    have inner := ComesAll.seated (description, id) below
    rw [placements] at member ⊢
    rcases List.mem_cons.1 member with rfl | member
    · exact .inl ⟨rfl, List.mem_singleton_self _⟩
    · rcases inner placement member with ⟨here, given⟩ | ⟨upper, placed, lower⟩
      · exact .inr ⟨_, List.mem_cons_self, here, given⟩
      · exact .inr ⟨upper, List.mem_cons_of_mem _ placed, lower⟩
  | _, _, _, _, _, .missing _ _ => fun _ member => absurd member List.not_mem_nil
  | _, _, _, _, _, .containing _ _ _ => fun _ member => absurd member List.not_mem_nil

/-- What was built of subviews is seated under their parent. -/
theorem ComesAll.seated : ∀ (above : Description × ViewId) {descriptions : List Description}
    {building next : Building} {fates : List Fate},
      ComesAll above.2 descriptions building fates next →
        ∀ placement ∈ placementsAll above fates,
          Seated above descriptions (placementsAll above fates) placement
  | _, _, _, _, _, .nil => fun _ member => absurd member List.not_mem_nil
  | above, _, _, _, _, .cons first later => by
    intro placement member
    rw [placementsAll] at member ⊢
    rcases List.mem_append.1 member with here | there
    · exact (Comes.seated above first placement here).mono (by simp) (List.subset_append_left _ _)
    · exact (ComesAll.seated above later placement there).mono (List.subset_cons_self _ _)
        (List.subset_append_right _ _)

end

end Fate

namespace Building

open Fate

variable {root parent id : ViewId} {building middle next placed : Building}
  {first second : List Placement} {description : Description}

/-- Building follows placements: they come one after the other to every view, and the root view
has none. -/
structure Follows (root : ViewId) (building next : Building) (placements : List Placement) :
    Prop where
  leads : Leads root building next
  standing : ∀ id, next.scene.forest.standing id =
    (Placement.ofView placements id).foldl Placement.settle (building.scene.forest.standing id)
  apart : ∀ placement ∈ placements, placement.id ≠ root

/-- What follows goes on to follow. -/
theorem Follows.trans (before : Follows root building middle first)
    (after : Follows root middle next second) : Follows root building next (first ++ second) where
  leads := before.leads.trans after.leads
  standing := by
    intro id
    rw [after.standing, before.standing, Placement.ofView_append, List.foldl_append]
  apart := by
    intro placement member
    rcases List.mem_append.1 member with member | member
    · exact before.apart placement member
    · exact after.apart placement member

/-- A report moves no view. -/
theorem Sound.follows_report (sound : building.Sound root) (diagnostic : Diagnostic) :
    Follows root building (building.report diagnostic) [] where
  leads := sound.leads_report diagnostic
  standing := fun _ => rfl
  apart := fun _ member => absurd member List.not_mem_nil

/-- A view that is had is moved below its place, and no other one. -/
theorem Sound.standing_materialize (sound : building.Sound root)
    (had : building.materialize parent description = (placed, some id)) (other : ViewId) :
    placed.scene.forest.standing other =
      if id = other then
        { building.scene.forest.standing other with parent := some parent }
      else building.scene.forest.standing other := by
  have formed := sound.formed
  unfold materialize at had
  split at had
  · obtain ⟨forest, made, rfl⟩ := create_eq_of_had had
    exact Forest.standing_createUnder formed made other
  · obtain ⟨known, ⟨there, rfl⟩ | ⟨forest, moved, rfl⟩⟩ := find_eq_of_had had
    · split
      · next same =>
        rw [← same, ← there, ← Forest.parent_standing]
      · rfl
    · exact Forest.standing_addSubview formed (sound.indexed _ _ known) moved other

/-- A view that is settled stands with what its description says. -/
theorem standing_settle (inside : id < building.scene.forest.size) (description : Description)
    (other : ViewId) :
    (building.settle description id).scene.forest.standing other =
      if id = other then
        { building.scene.forest.standing other with
          zIndex := description.zIndex
          properties :=
            (building.scene.forest.standing other).properties.putAll description.properties }
      else building.scene.forest.standing other := by
  rw [forest_settle, Forest.standing, Forest.standing, Forest.view?_modify]
  by_cases same : id = other
  · obtain ⟨view, found⟩ := Forest.exists_view?_of_lt_size (same ▸ inside)
    simp [same, found, View.standing]
  · simp [same]

/-- A description whose view is had is placed, and this is all that becomes of any view. -/
theorem Sound.follows_had (sound : building.Sound root) {above : Description × ViewId}
    (under : building.scene.forest.AtOrAbove root above.2)
    (had : building.materialize above.2 description = (placed, some id)) :
    Follows root building (placed.settle description id) [⟨above, description, id⟩] := by
  have kept := sound.hadUnder_materialize under description
  rw [had] at kept
  have inside := lt_size_of_atOrAbove kept.1.sound.inside (kept.2 id rfl)
  have moved := sound.standing_materialize had
  have elsewhere : id ≠ root := by
    rintro rfl
    -- The root view would be below its place, which is below the root view.
    have below : placed.scene.forest.parent? id = some above.2 := by
      rw [← Forest.parent_standing, moved, if_pos rfl]
    rw [kept.1.parent?_root] at below
    exact sound.formed.acyclic id ((Forest.above_iff_of_parent? below).2 under)
  exact {
    leads := kept.1.trans (kept.1.sound.leads_settle description (kept.2 id rfl))
    standing := by
      intro other
      rw [standing_settle inside, moved, Placement.foldl_settle_singleton]
      split <;> rfl
    apart := by
      intro placement member
      rw [List.mem_singleton.1 member]
      exact elsewhere }

mutual

/-- What becomes of a description follows its placements. -/
theorem Sound.follows_of_comes : ∀ {above : Description × ViewId} {description : Description}
    {building next : Building} {fate : Fate}, building.Sound root →
      building.scene.forest.AtOrAbove root above.2 →
        Comes above.2 description building fate next →
          Follows root building next (fate.placements above)
  | above, description, building, next, _, sound, under,
      @Comes.built _ id _ _ placed _ subviews had below => by
    have here := sound.follows_had under had
    have kept := sound.hadUnder_materialize under description
    rw [had] at kept
    have settled := (kept.1.sound.leads_settle description (kept.2 id rfl)).kept id (kept.2 id rfl)
    have rest : Follows root (placed.settle description id) next
        (placementsAll (description, id) subviews) :=
      Sound.follows_of_comesAll here.leads.sound settled below
    rw [placements]
    exact here.trans rest
  | _, _, _, _, _, sound, _, .missing _ _ => sound.follows_report _
  | _, _, _, _, _, sound, _, .containing _ _ _ => sound.follows_report _

/-- Subviews follow their placements. -/
theorem Sound.follows_of_comesAll : ∀ {above : Description × ViewId}
    {descriptions : List Description} {building next : Building} {fates : List Fate},
      building.Sound root → building.scene.forest.AtOrAbove root above.2 →
        ComesAll above.2 descriptions building fates next →
          Follows root building next (placementsAll above fates)
  | _, _, _, _, _, sound, _, .nil =>
    ⟨sound.leads_self, fun _ => rfl, fun _ member => absurd member List.not_mem_nil⟩
  | above, _, _, _, _, sound, under, .cons first later => by
    have here := Sound.follows_of_comes sound under first
    rw [placementsAll]
    exact here.trans
      (Sound.follows_of_comesAll here.leads.sound (here.leads.kept above.2 under) later)

end

end Building

namespace Scene

variable (scene : Scene) (root : ViewId) (description : Description)

/-- Every view is left as it was placed last. -/
structure LeavesPlaced (placements : List Placement) : Prop where
  /-- The root view is built by the description of the root, and all else is placed. -/
  built : (scene.buildHierarchy root description).built =
    (description, root) :: placements.map Placement.entry
  /-- The placements are a part of the walk, in its order. -/
  preorder : ((none, description) :: placements.map Placement.placed).Sublist description.walk
  /-- What is above a placement was built, and is the parent of what is placed. -/
  seated : ∀ placement ∈ placements,
    placement.above ∈ (scene.buildHierarchy root description).built ∧
      placement.description ∈ placement.above.1.subviews
  /-- The root view is placed nowhere. -/
  apart : ∀ placement ∈ placements, placement.id ≠ root
  rootView : (scene.buildHierarchy root description).scene.forest.standing root =
    { parent := scene.forest.parent? root
      zIndex := description.zIndex
      properties := (scene.forest.standing root).properties.putAll description.properties }
  /-- Any other view that was built has the parent and the z-index of its last placement. -/
  last : ∀ entry ∈ (scene.buildHierarchy root description).built, entry.2 ≠ root →
    ∃ last, (Placement.ofView placements entry.2).getLast? = some last ∧
      (scene.buildHierarchy root description).scene.forest.parent? entry.2 = some last.above.2 ∧
        ((scene.buildHierarchy root description).scene.forest.standing entry.2).zIndex =
          last.description.zIndex
  /-- A view that was there or is new has the properties of all its descriptions, in the order in
  which they were built. -/
  properties : ∀ id,
    ((scene.buildHierarchy root description).scene.forest.standing id).properties =
      ((scene.buildHierarchy root description).built.filter (·.2 == id)).foldl
        (fun table entry => table.putAll entry.1.properties) (scene.forest.standing id).properties
  /-- A view that was not built stands as it did. -/
  others : ∀ id, id ∉ (scene.buildHierarchy root description).built.map Prod.snd →
    (scene.buildHierarchy root description).scene.forest.standing id = scene.forest.standing id

variable {scene root description}

/-- **However often views are placed, each is left as it was placed last.** -/
theorem buildHierarchy_leavesPlaced (formed : scene.forest.WellFormed)
    (inside : root < scene.forest.size)
    (indexed : ∀ name id, scene.index.get? name = some id → id < scene.forest.size) :
    ∃ fates,
      Fate.ComesAll root description.subviews (({ scene : Building }).settle description root)
          fates (scene.buildHierarchy root description) ∧
        scene.LeavesPlaced root description (Fate.placementsAll (description, root) fates) := by
  have start : Building.Sound root { scene } := ⟨formed, inside, indexed, by simp, rfl⟩
  obtain ⟨settled, fates, comes⟩ := start.comes_buildHierarchy description
  have follows : Building.Follows root _ (scene.buildHierarchy root description)
      (Fate.placementsAll (description, root) fates) :=
    Building.Sound.follows_of_comesAll settled .refl comes
  have opening := @Building.standing_settle root { scene } inside description
  have listed := Fate.listingAll_eq_placements (description, root) fates
  have built : (scene.buildHierarchy root description).built =
      (description, root) ::
        (Fate.placementsAll (description, root) fates).map Placement.entry := by
    have prunes := Building.prunes_of_comesAll (some description) settled.unfailed comes
    refine prunes.built.trans ?_
    rw [listed, List.map_map]
    rfl
  refine ⟨fates, comes, ?_⟩
  exact {
    built
    preorder := by
      have sublist := Fate.ComesAll.sublist (some description) comes
      rw [listed, List.map_map] at sublist
      rw [Description.walk_eq, Description.listing_eq]
      exact sublist.cons_cons _
    seated := by
      intro placement member
      rw [built]
      rcases Fate.ComesAll.seated (description, root) comes placement member with
        ⟨here, given⟩ | ⟨upper, placed, here, given⟩
      · rw [here]
        exact ⟨List.mem_cons_self, given⟩
      · rw [here]
        exact ⟨List.mem_cons_of_mem _ (List.mem_map_of_mem placed), given⟩
    apart := follows.apart
    rootView := by
      rw [follows.standing, Placement.ofView_eq_nil_iff.2 follows.apart, List.foldl_nil, opening,
        if_pos rfl, ← Forest.parent_standing]
    last := by
      intro entry member other
      rw [built] at member
      rcases List.mem_cons.1 member with rfl | member
      · exact absurd rfl other
      obtain ⟨placement, placed, rfl⟩ := List.mem_map.1 member
      obtain ⟨last, final⟩ := Option.isSome_iff_exists.1
        (Placement.isSome_getLast?_ofView placed)
      have left := Placement.foldl_settle_of_last final
      rw [← Forest.parent_standing, follows.standing]
      exact ⟨last, final, left _⟩
    properties := by
      intro id
      rw [follows.standing, Placement.properties_foldl_settle, opening, built, List.filter_cons,
        Placement.filter_map_entry]
      by_cases same : root = id
      · simp [same, List.foldl_map, Placement.entry]
      · simp [same, List.foldl_map, Placement.entry]
    others := by
      intro id unbuilt
      rw [built, List.map_cons, List.mem_cons, not_or, List.map_map] at unbuilt
      have none : Placement.ofView (Fate.placementsAll (description, root) fates) id = [] := by
        refine Placement.ofView_eq_nil_iff.2 fun placement member same => unbuilt.2 ?_
        exact List.mem_map.2 ⟨placement, member, same⟩
      rw [follows.standing, none, List.foldl_nil, opening, if_neg (Ne.symm unbuilt.1)] }

/-- A scene in which two names mean the badge in the window. -/
def badged : Scene where
  forest := Forest.after
    [.create "window" none none, .create "badge" none (some 0), .create "shelf" none none]
  index := [("badge", 1), ("mark", 1)]

end Scene

/-- The description of a window with the badge in a page, and then, when its name means a new view,
in a card by its other name. -/
def Description.badged : Description where
  name := "window"
  subviews :=
    [{ name := "page", isNew := true
       subviews :=
        [{ name := "badge", zIndex := 1, properties := [("tint", "red"), ("size", "small")] }] },
      { name := "badge", isNew := true },
      { name := "card", isNew := true
        subviews := [{ name := "mark", zIndex := 3, properties := [("tint", "blue")] }] }]

/-- The badge is left in the card with the properties of both places. -/
theorem buildHierarchy_badged_leavesPlaced :
    (∃ fates,
        Fate.ComesAll 0 Description.badged.subviews
            (({ scene := Scene.badged } : Building).settle .badged 0) fates
            (Scene.badged.buildHierarchy 0 .badged) ∧
          Scene.badged.LeavesPlaced 0 .badged
            (Fate.placementsAll (Description.badged, 0) fates)) ∧
      (Scene.badged.buildHierarchy 0 .badged).built.map Prod.snd = [0, 3, 1, 4, 5, 1] ∧
      (Scene.badged.buildHierarchy 0 .badged).scene.forest.standing 1 =
        { parent := some 5
          zIndex := 3
          properties := [("tint", "blue"), ("size", "small")] } := by
  have indexed : ∀ name id, Scene.badged.index.get? name = some id →
      id < Scene.badged.forest.size := by
    intro name id meant
    have all : ∀ entry ∈ Scene.badged.index, entry.2 < Scene.badged.forest.size := by decide
    exact all _ (Table.mem_of_get? meant)
  exact ⟨@Scene.buildHierarchy_leavesPlaced Scene.badged 0 .badged
    (Forest.wellFormed_after _) (by decide) indexed, by decide, by decide⟩

end ViewLayout
