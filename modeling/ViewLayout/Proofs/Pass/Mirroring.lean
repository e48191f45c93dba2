import ViewLayout.Proofs.Document.Preorder
import ViewLayout.Proofs.Pass.Agenda
import ViewLayout.Proofs.Pass.Building

/-!
# New views mirror their descriptions

Where all descriptions below the root are new, each of them gets a view of its own, by the next
number in preorder. `Forest.Mirrors` relates a view to a description through the whole subtree, and
`Grows` says what building descriptions under a view does to a forest: the parent lists new views
that mirror them, and no other view that was there is touched. So a view that mirrors its
description goes on to do so while its siblings are built, whatever names are used again.
-/

namespace ViewLayout

namespace Forest

mutual

/-- The subtree of a view mirrors a description: the view is what the description says, and its
subviews mirror those of the description in order. All of them were made since there were so many
views. -/
inductive Mirrors (forest : Forest) (since : Nat) : ViewId → Description → Prop
  | intro {id : ViewId} {view : View} {description : Description} (fresh : since ≤ id)
    (found : forest.view? id = some view) (name : view.name = description.name)
    (superclass : view.superclass = description.superclass)
    (zIndex : view.zIndex = description.zIndex)
    (properties : view.properties = Table.putAll [] description.properties)
    (subviews : MirrorsAll forest since view.subviews description.subviews) :
    Mirrors forest since id description

/-- Views mirror descriptions, one by one. -/
inductive MirrorsAll (forest : Forest) (since : Nat) : List ViewId → List Description → Prop
  | nil : MirrorsAll forest since [] []
  | cons {id : ViewId} {ids : List ViewId} {description : Description} {rest : List Description}
    (first : Mirrors forest since id description) (others : MirrorsAll forest since ids rest) :
    MirrorsAll forest since (id :: ids) (description :: rest)

end

/-- All views from a number on are as they were, but for what was applied to them. -/
def KeepsFrom (forest : Forest) (since : Nat) (next : Forest) : Prop :=
  ∀ other view, since ≤ other → forest.view? other = some view →
    ∃ applied, next.view? other = some { view with applied }

variable {forest next : Forest} {since earlier : Nat}

mutual

/-- A view goes on to mirror a description if the views made since then stay as they were. -/
theorem Mirrors.mono (kept : forest.KeepsFrom since next) (before : earlier ≤ since) :
    ∀ {id : ViewId} {description : Description}, forest.Mirrors since id description →
      next.Mirrors earlier id description
  | id, _, .intro fresh found name superclass zIndex properties subviews => by
    obtain ⟨applied, still⟩ := kept id _ fresh found
    exact .intro (Nat.le_trans before fresh) still name superclass zIndex properties
      (MirrorsAll.mono kept before subviews)

/-- What mirrors a description goes on to do so. -/
theorem MirrorsAll.mono (kept : forest.KeepsFrom since next) (before : earlier ≤ since) :
    ∀ {ids : List ViewId} {descriptions : List Description},
      forest.MirrorsAll since ids descriptions → next.MirrorsAll earlier ids descriptions
  | _, _, .nil => .nil
  | _, _, .cons first others => .cons (Mirrors.mono kept before first)
      (MirrorsAll.mono kept before others)

end

/-- A forest is well formed whatever is applied to its views. -/
theorem formed_of_bare_eq (same : next.bare = forest.bare) (formed : forest.WellFormed) :
    next.WellFormed := by
  have lists : ∀ forest : Forest, forest.bare.subviewsOf = forest.subviewsOf := by
    intro forest
    funext id
    rw [subviewsOf, subviewsOf, view?_bare]
    cases forest.view? id <;> rfl
  refine formed.of_agree (fun other => ?_) fun other => ?_
  · rw [← parent?_bare, same, parent?_bare]
  · rw [← lists, same, lists]

/-- Applying constraints keeps all that is mirrored. -/
theorem keepsFrom_of_bare_eq (same : next.bare = forest.bare) (since : Nat) :
    forest.KeepsFrom since next := by
  intro other view _ found
  have bare := congrArg (Forest.view? · other) same
  simp only [view?_bare, found, Option.map_some] at bare
  obtain ⟨now, here, eq⟩ := Option.map_eq_some_iff.1 bare
  refine ⟨now.applied, here.trans ?_⟩
  cases now
  cases view
  simp only [View.bare, View.mk.injEq, Option.some.injEq] at eq ⊢
  simp only [eq, and_self]

end Forest

namespace Building

open Description

/-- What comes of building new descriptions under a view. The parent, which was there before,
lists new views that mirror them after all others, and the other views that were there are as they
were. -/
structure Grows (above : Option Description) (parent : ViewId) (descriptions : List Description)
    (ids : List ViewId) (building next : Building) : Prop where
  formed : next.scene.forest.WellFormed
  unfailed : next.failure = none
  size : next.scene.forest.size = building.scene.forest.size + countAll descriptions
  earlier : ∀ other < building.scene.forest.size,
    next.scene.forest.view? other =
      (building.scene.forest.view? other).map fun view =>
        { view with subviews := view.subviews ++ if parent = other then ids else [] }
  mirrors : next.scene.forest.MirrorsAll building.scene.forest.size ids descriptions
  /-- Every description is built once, in preorder, by the next number. -/
  built : next.built = building.built ++
    ((listingAll above descriptions).map Prod.snd).zipIdx building.scene.forest.size
  /-- The view that a description is built with mirrors it. -/
  entries : ∀ entry ∈
      ((listingAll above descriptions).map Prod.snd).zipIdx building.scene.forest.size,
    next.scene.forest.Mirrors building.scene.forest.size entry.2 entry.1
  warned : ∃ told, next.diagnostics = building.diagnostics ++ told ∧
    ∀ diagnostic ∈ told, ∃ name, diagnostic = .viewRedeclared name

variable {above : Option Description} {parent : ViewId} {building middle next : Building}

/-- No description grows nothing. -/
theorem Grows.nil (formed : building.scene.forest.WellFormed) (unfailed : building.failure = none) :
    Grows above parent [] [] building building where
  formed := formed
  unfailed := unfailed
  size := rfl
  earlier := by
    intro other _
    cases building.scene.forest.view? other <;> simp
  mirrors := .nil
  built := by simp [listingAll]
  entries := by simp [listingAll]
  warned := ⟨[], by simp⟩

/-- Later descriptions leave the views of earlier ones as they are. -/
theorem Grows.keepsFrom {descriptions : List Description} {ids : List ViewId} {since : Nat}
    (grows : Grows above parent descriptions ids building next) (outside : parent < since) :
    building.scene.forest.KeepsFrom since next.scene.forest := by
  intro other view fresh found
  have inside : other < building.scene.forest.size := by
    by_contra beyond
    have missing : building.scene.forest.view? other = none :=
      List.getElem?_eq_none (Nat.le_of_not_lt beyond)
    rw [missing] at found
    contradiction
  have different : parent ≠ other := Nat.ne_of_lt (Nat.lt_of_lt_of_le outside fresh)
  refine ⟨view.applied, ?_⟩
  rw [grows.earlier other inside, found, Option.map_some, if_neg different, List.append_nil]

/-- Descriptions are built one after the other. -/
theorem Grows.cons {description : Description} {rest : List Description} {id : ViewId}
    {ids : List ViewId} (inside : parent < building.scene.forest.size)
    (first : Grows above parent [description] [id] building middle)
    (others : Grows above parent rest ids middle next) :
    Grows above parent (description :: rest) (id :: ids) building next := by
  have count : countAll [description] = description.count := rfl
  have grown := first.size
  rw [count] at grown
  have listed : listingAll above [description] = description.listing above := by
    rw [listingAll, listingAll, List.append_nil]
  have lengths : ((description.listing above).map Prod.snd).length = description.count := by
    rw [List.length_map, length_listing]
  have kept := others.keepsFrom inside
  have since : building.scene.forest.size ≤ middle.scene.forest.size := by omega
  have numbered : ((listingAll above (description :: rest)).map Prod.snd).zipIdx
        building.scene.forest.size =
      ((description.listing above).map Prod.snd).zipIdx building.scene.forest.size ++
        ((listingAll above rest).map Prod.snd).zipIdx middle.scene.forest.size := by
    rw [listingAll, List.map_append, List.zipIdx_append, lengths, grown]
  have firstMirrors : next.scene.forest.Mirrors building.scene.forest.size id description := by
    cases first.mirrors with
    | cons mirrors _ => exact mirrors.mono kept (Nat.le_refl _)
  have still : next.scene.forest.KeepsFrom middle.scene.forest.size next.scene.forest :=
    fun _ view _ found => ⟨view.applied, found⟩
  exact {
    formed := others.formed
    unfailed := others.unfailed
    size := by
      rw [others.size, grown, countAll, Nat.add_assoc]
    earlier := by
      intro other below
      rw [others.earlier other (Nat.lt_of_lt_of_le below since), first.earlier other below,
        Option.map_map]
      refine congrArg (Option.map · _) (funext fun view => ?_)
      by_cases same : parent = other <;> simp [same]
    mirrors := .cons firstMirrors (others.mirrors.mono still since)
    built := by
      rw [others.built, first.built, listed, numbered, List.append_assoc]
    entries := by
      intro entry member
      rw [numbered] at member
      rcases List.mem_append.1 member with member | member
      · exact (first.entries entry (listed ▸ member)).mono kept (Nat.le_refl _)
      · exact (others.entries entry member).mono still since
    warned := by
      obtain ⟨told, toldFirst, warnings⟩ := first.warned
      obtain ⟨later, toldLater, further⟩ := others.warned
      refine ⟨told ++ later, by rw [toldLater, toldFirst, List.append_assoc], ?_⟩
      intro diagnostic member
      rcases List.mem_append.1 member with member | member
      · exact warnings diagnostic member
      · exact further diagnostic member }

/-- A new description grows its view and then its subviews. -/
theorem Makes.grows {placed : Building} {description : Description} {ids : List ViewId}
    (makes : Makes parent description building placed)
    (subviews : Grows (some description) building.scene.forest.size description.subviews ids
      (placed.settle description building.scene.forest.size) next) :
    Grows above parent [description] [building.scene.forest.size] building next := by
  have size : (placed.settle description building.scene.forest.size).scene.forest.size =
      building.scene.forest.size + 1 := (Forest.size_modify ..).trans makes.size
  have settled (other : ViewId) :
      (placed.settle description building.scene.forest.size).scene.forest.view? other =
        if building.scene.forest.size = other then
          some
            { name := description.name
              superclass := description.superclass
              parent := some parent
              zIndex := description.zIndex
              properties := Table.putAll [] description.properties }
        else placed.scene.forest.view? other := by
    rw [forest_settle, Forest.view?_modify]
    split
    · next same => rw [← same, makes.created]; rfl
    · rfl
  have still : next.scene.forest.KeepsFrom (building.scene.forest.size + 1) next.scene.forest :=
    fun _ view _ found => ⟨view.applied, found⟩
  have found : next.scene.forest.view? building.scene.forest.size =
      some
        { name := description.name
          superclass := description.superclass
          parent := some parent
          subviews := ids
          zIndex := description.zIndex
          properties := Table.putAll [] description.properties } := by
    have fresh : building.scene.forest.size <
        (placed.settle description building.scene.forest.size).scene.forest.size :=
      size ▸ Nat.lt_succ_self _
    rw [subviews.earlier _ fresh, settled]
    simp only [↓reduceIte, Option.map_some, List.nil_append]
  have mirrors : next.scene.forest.Mirrors building.scene.forest.size building.scene.forest.size
      description := by
    refine .intro (Nat.le_refl _) found rfl rfl rfl rfl ?_
    have below := subviews.mirrors
    rw [size] at below
    exact below.mono still (Nat.le_succ _)
  have listed : ((listingAll above [description]).map Prod.snd).zipIdx building.scene.forest.size =
      (description, building.scene.forest.size) ::
        ((listingAll (some description) description.subviews).map Prod.snd).zipIdx
          (building.scene.forest.size + 1) := by
    rw [listingAll, listingAll, List.append_nil, listing_eq, List.map_cons, List.zipIdx_cons]
  exact {
    formed := subviews.formed
    unfailed := subviews.unfailed
    size := by
      rw [subviews.size, size, countAll, countAll, count_eq]
      omega
    earlier := by
      intro other below
      rw [subviews.earlier other (by omega), settled, if_neg (Nat.ne_of_gt below),
        makes.earlier other below]
      simp only [if_neg (Nat.ne_of_gt below), List.append_nil]
      exact Option.map_id'
    mirrors := .cons mirrors .nil
    built := by
      rw [subviews.built, listed, size]
      change placed.built ++ _ ++ _ = _
      rw [makes.built, List.append_assoc]
      rfl
    entries := by
      intro entry member
      rw [listed] at member
      rcases List.mem_cons.1 member with rfl | member
      · exact mirrors
      · have below := subviews.entries
        rw [size] at below
        exact (below entry member).mono still (Nat.le_succ _)
    warned := by
      obtain ⟨told, toldFirst, warnings⟩ := makes.warned
      obtain ⟨later, toldLater, further⟩ := subviews.warned
      refine ⟨told ++ later, ?_, ?_⟩
      · rw [toldLater, ← List.append_assoc, ← toldFirst]
        rfl
      · intro diagnostic member
        rcases List.mem_append.1 member with member | member
        · exact warnings diagnostic member
        · exact further diagnostic member }

mutual

/-- Building a new description grows one view. -/
theorem grows_build {above : Option Description} {parent : ViewId} :
    ∀ (description : Description) {building : Building}, building.scene.forest.WellFormed →
      building.failure = none → parent < building.scene.forest.size →
        (∀ placed ∈ description.listing above, placed.2.isNew = true) →
          Grows above parent [description] [building.scene.forest.size] building
            (build parent description building)
  | ⟨name, isNew, superclass, constraints, properties, zIndex, templates, subviews⟩, building,
      formed, unfailed, inside, allNew => by
    obtain ⟨placed, created, makes⟩ := makes_create formed inside
      ⟨name, isNew, superclass, constraints, properties, zIndex, templates, subviews⟩
    have new : isNew = true := allNew _ (by rw [listing]; exact List.mem_cons_self)
    have size : (placed.settle
        ⟨name, isNew, superclass, constraints, properties, zIndex, templates, subviews⟩
          building.scene.forest.size).scene.forest.size = building.scene.forest.size + 1 :=
      (Forest.size_modify ..).trans makes.size
    have within := Nat.lt_of_lt_of_eq (Nat.lt_succ_self building.scene.forest.size) size.symm
    obtain ⟨ids, below⟩ := grows_buildAll subviews
      (formed_settle makes.formed _ building.scene.forest.size) (makes.failure.trans unfailed)
        within fun placed member =>
          allNew placed (by rw [listing]; exact List.mem_cons_of_mem _ member)
    have made : building.materialize parent
        ⟨name, isNew, superclass, constraints, properties, zIndex, templates, subviews⟩ =
          (placed, some building.scene.forest.size) := by
      rw [materialize, if_pos new, created]
    rw [build]
    simp only [unfailed, made]
    exact makes.grows below

/-- Building subviews that are new grows one view for each. -/
theorem grows_buildAll {above : Option Description} {parent : ViewId} :
    ∀ (descriptions : List Description) {building : Building},
      building.scene.forest.WellFormed → building.failure = none →
        parent < building.scene.forest.size →
          (∀ placed ∈ listingAll above descriptions, placed.2.isNew = true) →
            ∃ ids, Grows above parent descriptions ids building
              (buildAll parent descriptions building)
  | [], building, formed, unfailed, _, _ => by
    rw [buildAll]
    exact ⟨[], .nil formed unfailed⟩
  | description :: rest, building, formed, unfailed, inside, allNew => by
    have first := grows_build description formed unfailed inside fun placed member =>
      allNew placed (by rw [listingAll]; exact List.mem_append_left _ member)
    obtain ⟨ids, others⟩ := grows_buildAll rest first.formed first.unfailed
      (Nat.lt_of_lt_of_le inside (first.size ▸ Nat.le_add_right _ _)) fun placed member =>
        allNew placed (by rw [listingAll]; exact List.mem_append_right _ member)
    rw [buildAll]
    exact ⟨_, first.cons inside others⟩

end

end Building

namespace Pass

/-- A layout of new views was built as it is described: what the hierarchy of a pass is, and
which views the pass leaves. -/
structure Mirrored (document : Document) (root : ViewId) (scene : Scene) (building : Building)
    (after : Forest) : Prop where
  /-- The root view is updated, and new views that mirror the root's subviews come after all that it
  had. -/
  rootView : ∃ before ids applied, scene.forest.view? root = some before ∧
    after.view? root =
      some
        { before with
          zIndex := document.root.zIndex
          properties := before.properties.putAll document.root.properties
          subviews := before.subviews ++ ids
          applied } ∧
    after.MirrorsAll scene.forest.size ids document.root.subviews
  /-- Every description is built once, in preorder, the root with the root view and all others by
  the next number. -/
  built : building.built =
    (document.root, root) :: (document.root.walk.tail.map Prod.snd).zipIdx scene.forest.size
  mirrors : ∀ entry ∈ building.built.tail, after.Mirrors scene.forest.size entry.2 entry.1
  /-- Properties that are given once by name are those of the view. -/
  properties : ∀ entry ∈ building.built.tail, entry.1.properties.names.Nodup →
    ∃ view, after.view? entry.2 = some view ∧ view.properties = entry.1.properties
  size : after.size = scene.forest.size + document.root.walk.tail.length
  /-- Nothing but constraints was applied to the other views that there were. -/
  others : ∀ other < scene.forest.size, other ≠ root →
    (after.view? other).map View.bare = (scene.forest.view? other).map View.bare
  formed : after.WellFormed
  unfailed : building.failure = none
  warned : ∀ diagnostic ∈ building.diagnostics, ∃ name, diagnostic = .viewRedeclared name

/-- The views of an opened document are those of the scene, but for its root. -/
theorem view?_opened (document : Document) (root : ViewId) (scene : Scene) (other : ViewId) :
    (opened document root scene).scene.forest.view? other =
      if root = other then
        (scene.forest.view? other).map fun view =>
          { view with
            zIndex := document.root.zIndex
            properties := view.properties.putAll document.root.properties }
      else scene.forest.view? other := by
  rw [opened, Building.forest_settle, Forest.view?_modify]

/-- Opening a document makes no view. -/
theorem size_opened (document : Document) (root : ViewId) (scene : Scene) :
    (opened document root scene).scene.forest.size = scene.forest.size :=
  Forest.size_modify ..

/-- The hierarchy of a document of new views grows from its root view. -/
theorem grows_hierarchy {document : Document} {root : ViewId} {scene : Scene}
    (formed : scene.forest.WellFormed) (inside : root < scene.forest.size)
    (allNew : ∀ placed ∈ Description.listingAll (some document.root) document.root.subviews,
      placed.2.isNew = true) :
    ∃ ids, Building.Grows (some document.root) root document.root.subviews ids
      (opened document root scene) (hierarchy document root scene) := by
  have within : root < (opened document root scene).scene.forest.size := by rwa [size_opened]
  refine Building.grows_buildAll document.root.subviews (Building.formed_settle ?_ ..) rfl within
    allNew
  exact formed

/-- **Below a root view, a pass makes the new views that a document describes.** -/
theorem compile_mirrors (settings : Settings) (document : Document) (root : ViewId) (scene : Scene)
    (formed : scene.forest.WellFormed) (inside : root < scene.forest.size)
    (allNew : ∀ placed ∈ document.root.walk.tail, placed.2.isNew = true) :
    Mirrored document root scene (hierarchy document root scene)
      (compile settings document root scene).scene.forest := by
  have tail : document.root.walk.tail =
      Description.listingAll (some document.root) document.root.subviews := by
    rw [Description.walk_eq, Description.listing_eq, List.tail_cons]
  rw [tail] at allNew
  obtain ⟨before, found⟩ := Forest.exists_view?_of_lt_size inside
  obtain ⟨ids, grows⟩ := grows_hierarchy formed inside allNew
  have sizes := size_opened document root scene
  have bare := (alike_compile settings document root scene).forest
  have kept := Forest.keepsFrom_of_bare_eq bare
  have mirrors : ∀ entry ∈ (hierarchy document root scene).built.tail,
      (compile settings document root scene).scene.forest.Mirrors scene.forest.size entry.2
        entry.1 := by
    intro entry member
    rw [grows.built] at member
    have mirrors := grows.entries entry member
    rw [sizes] at mirrors
    exact mirrors.mono (kept _) (Nat.le_refl _)
  exact {
    rootView := by
      have now := grows.earlier root (by rwa [sizes])
      rw [view?_opened, found] at now
      simp only [↓reduceIte, Option.map_some] at now
      obtain ⟨applied, left⟩ := kept 0 root _ (Nat.zero_le _) now
      have below := grows.mirrors
      rw [sizes] at below
      exact ⟨before, ids, applied, found, left, below.mono (kept _) (Nat.le_refl _)⟩
    built := by
      rw [grows.built, tail, sizes]
      rfl
    mirrors := mirrors
    properties := by
      intro entry member distinct
      cases mirrors entry member with
      | intro _ found _ _ _ properties _ =>
        exact ⟨_, found, properties.trans (Table.putAll_eq_append distinct)⟩
    size := by
      rw [← Forest.size_bare, bare, Forest.size_bare, grows.size, sizes, tail,
        Description.length_listingAll]
    others := by
      intro other below different
      rw [← Forest.view?_bare, bare, Forest.view?_bare, grows.earlier other (by rwa [sizes]),
        view?_opened]
      simp only [if_neg (Ne.symm different), List.append_nil, Option.map_id']
    formed := Forest.formed_of_bare_eq bare grows.formed
    unfailed := grows.unfailed
    warned := by
      obtain ⟨told, eq, warnings⟩ := grows.warned
      rw [eq]
      exact warnings }

/-- A window with a page. -/
def furnished : Scene where
  forest := Forest.after [.create "window" none none, .create "page" none (some 0)]

/-- A window with two new pages, of which the first one has a label. -/
def twoPages : Document where
  root :=
    { name := "window"
      properties := [("title", "pages")]
      subviews :=
        [{ name := "page", isNew := true, zIndex := 1,
            subviews := [{ name := "label", isNew := true, superclass := some "text" }] },
          { name := "page", isNew := true }] }

/-- The second page of that name is told of, and both come after the page that was there. -/
theorem compile_mirrors_twoPages :
    Mirrored twoPages 0 furnished (hierarchy twoPages 0 furnished)
        (compile {} twoPages 0 furnished).scene.forest ∧
      (hierarchy twoPages 0 furnished).built.map Prod.snd = [0, 2, 3, 4] ∧
      (hierarchy twoPages 0 furnished).scene.forest.subviewsOf 0 = [1, 2, 4] ∧
      (hierarchy twoPages 0 furnished).diagnostics = [.viewRedeclared "page"] := by
  have allNew : ∀ placed ∈ twoPages.root.walk.tail, placed.2.isNew = true := by
    rw [Description.walk_eq]
    decide
  exact ⟨compile_mirrors {} twoPages 0 furnished (Forest.wellFormed_after _) (by decide) allNew,
    by decide, by decide, rfl⟩

end Pass

end ViewLayout
