import ViewLayout.Proofs.Document.Preorder
import ViewLayout.Proofs.Pass.Building
import ViewLayout.Proofs.Pass.Deletion

/-!
# What becomes of descriptions

A description below a view that was built has its view built under that one, or is skipped with all
below it. `Fate` is a tree of descriptions as far as they were reached, and `Fate.Comes` says which
state each of them was reached in and what it made of that: a skipped one is reported and changes
nothing else. So `Fate.kept`, the descriptions without those that were skipped, build the same
without the errors.
-/

namespace ViewLayout

/-- What became of a description: it has a view, or it was skipped for a reason. -/
inductive Fate
  | built (description : Description) (id : ViewId) (subviews : List Fate)
  | skipped (description : Description) (reason : Diagnostic)

namespace Fate

open Description

mutual

/-- The descriptions that were built, with their parents and their views, in preorder. -/
def listing (above : Option Description) : Fate → List (Placed × ViewId)
  | built description id subviews =>
    ((above, description), id) :: listingAll (some description) subviews
  | skipped _ _ => []

/-- The listings of several fates, one after the other. -/
def listingAll (above : Option Description) : List Fate → List (Placed × ViewId)
  | [] => []
  | fate :: rest => fate.listing above ++ listingAll above rest

end

mutual

/-- The descriptions that were skipped themselves, with their parents and the reasons. -/
def skips (above : Option Description) : Fate → List (Placed × Diagnostic)
  | built description _ subviews => skipsAll (some description) subviews
  | skipped description reason => [((above, description), reason)]

/-- The skipped descriptions of several fates. -/
def skipsAll (above : Option Description) : List Fate → List (Placed × Diagnostic)
  | [] => []
  | fate :: rest => fate.skips above ++ skipsAll above rest

end

mutual

/-- A description without those that were skipped, if it was not skipped itself. -/
def kept : Fate → List Description
  | built description _ subviews => [{ description with subviews := keptAll subviews }]
  | skipped _ _ => []

/-- What is kept of several fates. -/
def keptAll : List Fate → List Description
  | [] => []
  | fate :: rest => fate.kept ++ keptAll rest

end

/-- What a building keeps of a description that was built. -/
def entry (seat : Placed × ViewId) : Description × ViewId :=
  (seat.1.2, seat.2)

mutual

/-- Building a description under a view makes one building of another, and this becomes of the
description. One that is skipped is not new; its name means no view, or one above its place. -/
inductive Comes : ViewId → Description → Building → Fate → Building → Prop
  | built {parent id : ViewId} {description : Description} {building placed next : Building}
    {subviews : List Fate} (had : building.materialize parent description = (placed, some id))
    (below : ComesAll id description.subviews (placed.settle description id) subviews next) :
    Comes parent description building (.built description id subviews) next
  | missing {parent : ViewId} {description : Description} {building : Building}
    (old : description.isNew = false)
    (unknown : building.scene.index.get? description.name = none) :
    Comes parent description building (.skipped description (.viewMissing description.name))
      (building.report (.viewMissing description.name))
  | containing {parent id : ViewId} {description : Description} {building : Building}
    (old : description.isNew = false)
    (known : building.scene.index.get? description.name = some id)
    (contains : building.scene.forest.AtOrAbove id parent) :
    Comes parent description building
      (.skipped description
        (.viewContainsParent description.name (building.scene.forest.nameOf parent)))
      (building.report
        (.viewContainsParent description.name (building.scene.forest.nameOf parent)))

/-- Descriptions are built under a view one after the other. -/
inductive ComesAll : ViewId → List Description → Building → List Fate → Building → Prop
  | nil {parent : ViewId} {building : Building} : ComesAll parent [] building [] building
  | cons {parent : ViewId} {description : Description} {rest : List Description}
    {building middle next : Building} {fate : Fate} {others : List Fate}
    (first : Comes parent description building fate middle)
    (later : ComesAll parent rest middle others next) :
    ComesAll parent (description :: rest) building (fate :: others) next

end

mutual

/-- What was built is listed in the order of the descriptions. -/
theorem Comes.sublist (above : Option Description) :
    ∀ {parent : ViewId} {description : Description} {building next : Building} {fate : Fate},
      Comes parent description building fate next →
        ((fate.listing above).map Prod.fst).Sublist (description.listing above)
  | _, description, _, _, _, .built _ below => by
    rw [listing, List.map_cons, listing_eq]
    exact (ComesAll.sublist (some description) below).cons_cons _
  | _, _, _, _, _, .missing _ _ => List.nil_sublist _
  | _, _, _, _, _, .containing _ _ _ => List.nil_sublist _

/-- What is built of some descriptions is a part of their listing. -/
theorem ComesAll.sublist (above : Option Description) :
    ∀ {parent : ViewId} {descriptions : List Description} {building next : Building}
      {fates : List Fate}, ComesAll parent descriptions building fates next →
        ((listingAll above fates).map Prod.fst).Sublist (Description.listingAll above descriptions)
  | _, _, _, _, _, .nil => List.nil_sublist _
  | _, _, _, _, _, .cons first later => by
    rw [listingAll, List.map_append, Description.listingAll]
    exact (Comes.sublist above first).append (ComesAll.sublist above later)

end

/-- The parent of a description is the given one or was built itself. -/
def Rooted (above : Option Description) (seats : List (Placed × ViewId))
    (parent : Option Description) : Prop :=
  parent = above ∨ ∃ upper ∈ seats, parent = some upper.1.2

/-- A parent stays rooted among more seats. -/
theorem Rooted.mono {above parent : Option Description} {seats more : List (Placed × ViewId)}
    (rooted : Rooted above seats parent) (subset : seats ⊆ more) : Rooted above more parent :=
  rooted.imp_right fun ⟨upper, member, same⟩ => ⟨upper, subset member, same⟩

/-- A parent stays rooted in front of another description. -/
theorem Rooted.cons {above parent : Option Description} {description : Description} {id : ViewId}
    {seats : List (Placed × ViewId)} (rooted : Rooted (some description) seats parent) :
    Rooted above (((above, description), id) :: seats) parent := by
  rcases rooted with rfl | ⟨upper, member, same⟩
  · exact .inr ⟨_, List.mem_cons_self, rfl⟩
  · exact .inr ⟨upper, List.mem_cons_of_mem _ member, same⟩

mutual

/-- The parent of what is built or skipped is built, up to the top. -/
theorem rooted (above : Option Description) : ∀ fate : Fate,
    (∀ seat ∈ fate.listing above, Rooted above (fate.listing above) seat.1.1) ∧
      ∀ skip ∈ fate.skips above, Rooted above (fate.listing above) skip.1.1
  | built description id subviews => by
    obtain ⟨seats, skips'⟩ := rootedAll (some description) subviews
    rw [listing, skips]
    refine ⟨fun seat member => ?_, fun skip member => (skips' skip member).cons⟩
    rcases List.mem_cons.1 member with rfl | below
    · exact .inl rfl
    · exact (seats seat below).cons
  | skipped description reason => by
    rw [listing, skips]
    refine ⟨fun seat member => absurd member List.not_mem_nil, fun skip member => .inl ?_⟩
    rw [List.mem_singleton.1 member]

/-- What becomes of subviews is rooted below their parent. -/
theorem rootedAll (above : Option Description) : ∀ fates : List Fate,
    (∀ seat ∈ listingAll above fates, Rooted above (listingAll above fates) seat.1.1) ∧
      ∀ skip ∈ skipsAll above fates, Rooted above (listingAll above fates) skip.1.1
  | [] => by
    rw [listingAll, skipsAll]
    exact ⟨fun seat member => absurd member List.not_mem_nil,
      fun skip member => absurd member List.not_mem_nil⟩
  | fate :: rest => by
    obtain ⟨seats, skips'⟩ := rooted above fate
    obtain ⟨others, skipsRest⟩ := rootedAll above rest
    rw [listingAll, skipsAll]
    refine ⟨fun seat member => ?_, fun skip member => ?_⟩
    · rcases List.mem_append.1 member with first | later
      · exact (seats seat first).mono (List.subset_append_left _ _)
      · exact (others seat later).mono (List.subset_append_right _ _)
    · rcases List.mem_append.1 member with first | later
      · exact (skips' skip first).mono (List.subset_append_left _ _)
      · exact (skipsRest skip later).mono (List.subset_append_right _ _)

end

/-- A description is not new, and its view is missing or contains its place. -/
def Refused (skip : Placed × Diagnostic) : Prop :=
  skip.1.2.isNew = false ∧
    (skip.2 = .viewMissing skip.1.2.name ∨
      ∃ parent, skip.2 = .viewContainsParent skip.1.2.name parent)

mutual

/-- A skipped description was refused. -/
theorem Comes.refused (above : Option Description) :
    ∀ {parent : ViewId} {description : Description} {building next : Building} {fate : Fate},
      Comes parent description building fate next → ∀ skip ∈ fate.skips above, Refused skip
  | _, description, _, _, _, .built _ below => by
    rw [skips]
    exact ComesAll.refused (some description) below
  | _, _, _, _, _, .missing old _ => by
    intro skip member
    rw [List.mem_singleton.1 member]
    exact ⟨old, .inl rfl⟩
  | _, _, _, _, _, .containing old _ _ => by
    intro skip member
    rw [List.mem_singleton.1 member]
    exact ⟨old, .inr ⟨_, rfl⟩⟩

/-- Skipped descriptions were refused. -/
theorem ComesAll.refused (above : Option Description) :
    ∀ {parent : ViewId} {descriptions : List Description} {building next : Building}
      {fates : List Fate}, ComesAll parent descriptions building fates next →
        ∀ skip ∈ skipsAll above fates, Refused skip
  | _, _, _, _, _, .nil => fun skip member => absurd member List.not_mem_nil
  | _, _, _, _, _, .cons first later => by
    intro skip member
    rw [skipsAll] at member
    rcases List.mem_append.1 member with here | there
    · exact Comes.refused above first skip here
    · exact ComesAll.refused above later skip there

end

mutual

/-- What is not built is skipped, or lies below what is skipped. -/
theorem Comes.covered (above : Option Description) :
    ∀ {parent : ViewId} {description : Description} {building next : Building} {fate : Fate},
      Comes parent description building fate next → ∀ placed ∈ description.listing above,
        placed ∈ (fate.listing above).map Prod.fst ∨
          ∃ skip ∈ fate.skips above, placed ∈ skip.1.2.listing skip.1.1
  | _, description, _, _, _, .built _ below => by
    intro placed member
    rw [listing_eq] at member
    rw [listing, skips, List.map_cons]
    rcases List.mem_cons.1 member with rfl | inner
    · exact .inl List.mem_cons_self
    · exact (ComesAll.covered (some description) below placed inner).imp_left
        (List.mem_cons_of_mem _)
  | _, _, _, _, _, .missing _ _ => fun placed member => .inr ⟨_, List.mem_singleton.2 rfl, member⟩
  | _, _, _, _, _, .containing _ _ _ =>
    fun placed member => .inr ⟨_, List.mem_singleton.2 rfl, member⟩

/-- All that is listed of some descriptions was built or is below a skipped one. -/
theorem ComesAll.covered (above : Option Description) :
    ∀ {parent : ViewId} {descriptions : List Description} {building next : Building}
      {fates : List Fate}, ComesAll parent descriptions building fates next →
        ∀ placed ∈ Description.listingAll above descriptions,
          placed ∈ (listingAll above fates).map Prod.fst ∨
            ∃ skip ∈ skipsAll above fates, placed ∈ skip.1.2.listing skip.1.1
  | _, _, _, _, _, .nil => fun placed member => absurd member List.not_mem_nil
  | _, _, _, _, _, .cons first later => by
    intro placed member
    rw [Description.listingAll] at member
    rw [listingAll, skipsAll, List.map_append]
    rcases List.mem_append.1 member with here | there
    · rcases Comes.covered above first placed here with built | ⟨skip, skipped, inside⟩
      · exact .inl (List.mem_append_left _ built)
      · exact .inr ⟨skip, List.mem_append_left _ skipped, inside⟩
    · rcases ComesAll.covered above later placed there with built | ⟨skip, skipped, inside⟩
      · exact .inl (List.mem_append_right _ built)
      · exact .inr ⟨skip, List.mem_append_right _ skipped, inside⟩

end

end Fate

namespace Building

open Fate

variable {root parent : ViewId} {building : Building}

/-- The view of a description is had, or the description is skipped for one of two reasons. -/
theorem Sound.materialize_cases (sound : building.Sound root)
    (under : building.scene.forest.AtOrAbove root parent) (description : Description) :
    (∃ placed id, building.materialize parent description = (placed, some id)) ∨
      ∃ reason, building.materialize parent description = (building.report reason, none) ∧
        Comes parent description building (.skipped description reason)
          (building.report reason) := by
  rw [materialize]
  cases isNew : description.isNew with
  | true =>
    obtain ⟨placed, made, _⟩ := makes_create sound.formed (lt_size_of_atOrAbove sound.inside under)
      description
    exact .inl ⟨placed, _, made⟩
  | false =>
    simp only [Bool.false_eq_true, ↓reduceIte, find]
    cases meant : building.scene.index.get? description.name with
    | none => exact .inr ⟨_, rfl, .missing isNew meant⟩
    | some id =>
      by_cases there : building.scene.forest.parent? id = some parent
      · exact .inl ⟨building, id, if_pos there⟩
      · by_cases contains : building.scene.forest.isAncestorOf id parent = true
        · simp only [there, contains, ↓reduceIte]
          exact .inr ⟨_, rfl, .containing isNew meant (sound.formed.isAncestorOf_iff.1 contains)⟩
        · have moved := (Forest.addSubview_eq_ok_iff sound.formed).2
            ⟨(not_congr sound.formed.isAncestorOf_iff).1 contains, rfl⟩
          simp only [there, contains, moved, ↓reduceIte]
          exact .inl ⟨_, id, rfl⟩

mutual

/-- Every description below the root view has a fate. -/
theorem Sound.comes_build {parent : ViewId} : ∀ (description : Description) {building : Building},
    building.Sound root → building.scene.forest.AtOrAbove root parent →
      ∃ fate, Comes parent description building fate (build parent description building)
  | ⟨name, isNew, superclass, constraints, properties, zIndex, templates, subviews⟩, building,
      sound, under => by
    have had := sound.hadUnder_materialize under
      ⟨name, isNew, superclass, constraints, properties, zIndex, templates, subviews⟩
    rw [build]
    simp only [sound.unfailed]
    rcases sound.materialize_cases under
      ⟨name, isNew, superclass, constraints, properties, zIndex, templates, subviews⟩ with
      ⟨placed, id, made⟩ | ⟨reason, refused, comes⟩
    · rw [made] at had
      have settled := had.1.sound.leads_settle
        ⟨name, isNew, superclass, constraints, properties, zIndex, templates, subviews⟩
        (had.2 id rfl)
      obtain ⟨fates, below⟩ := Sound.comes_buildAll subviews settled.sound
        (settled.kept id (had.2 id rfl))
      simp only [made]
      exact ⟨_, .built made below⟩
    · simp only [refused]
      exact ⟨_, comes⟩

/-- What becomes of subviews, for every sound building. -/
theorem Sound.comes_buildAll {parent : ViewId} : ∀ (descriptions : List Description)
    {building : Building}, building.Sound root → building.scene.forest.AtOrAbove root parent →
      ∃ fates, ComesAll parent descriptions building fates (buildAll parent descriptions building)
  | [], building, _, _ => by
    rw [buildAll]
    exact ⟨[], .nil⟩
  | description :: rest, building, sound, under => by
    have leads := Sound.leads_build description sound under
    obtain ⟨fate, first⟩ := Sound.comes_build description sound under
    obtain ⟨others, later⟩ := Sound.comes_buildAll rest leads.sound (leads.kept parent under)
    rw [buildAll]
    exact ⟨fate :: others, .cons first later⟩

end

/-- **What becomes of the descriptions of a hierarchy** once its root view is settled. -/
theorem Sound.comes_buildHierarchy {scene : Scene} (sound : Sound root { scene })
    (description : Description) :
    (({ scene } : Building).settle description root).Sound root ∧
      ∃ fates, ComesAll root description.subviews (({ scene } : Building).settle description root)
        fates (scene.buildHierarchy root description) := by
  have above : scene.forest.AtOrAbove root root := .refl
  have settled := sound.leads_settle description above
  exact ⟨settled.sound, Sound.comes_buildAll description.subviews settled.sound .refl⟩

/-- A view that an action gives costs at most warnings, and what was built or told before has no
part in it. -/
def Gives (action : Building → Building × Option ViewId) (building placed : Building)
    (id : ViewId) : Prop :=
  placed.failure = building.failure ∧
    ∃ told, (∀ diagnostic ∈ told, diagnostic.level = .warning) ∧ ∀ built diagnostics,
      action { building with built, diagnostics } =
        ({ placed with built, diagnostics := diagnostics ++ told }, some id)

variable {placed : Building} {description : Description} {id : ViewId}

/-- A view that is made is made again in the same way. -/
theorem gives_create (had : building.create parent description = (placed, some id)) :
    Gives (create · parent description) building placed id := by
  by_cases known : building.scene.index.has description.name = true
  · simp only [create, known, ↓reduceIte, report] at had
    split at had
    · cases had
    · next made =>
      cases had
      refine ⟨rfl, [.viewRedeclared description.name], by simp [Diagnostic.level], ?_⟩
      intro built diagnostics
      simp only [create, known, ↓reduceIte, report, made]
      rfl
  · simp only [create, known, ↓reduceIte, Bool.false_eq_true] at had
    split at had
    · cases had
    · next made =>
      cases had
      refine ⟨rfl, [], by simp, ?_⟩
      intro built diagnostics
      simp only [create, known, ↓reduceIte, Bool.false_eq_true, made, List.append_nil]
      rfl

/-- A view that is found is found again in the same way. -/
theorem gives_find (had : building.find parent description = (placed, some id)) :
    Gives (find · parent description) building placed id := by
  rw [find] at had
  cases meant : building.scene.index.get? description.name with
  | none =>
    simp only [meant] at had
    cases had
  | some found =>
    simp only [meant] at had
    split at had
    · next there =>
      cases had
      refine ⟨rfl, [], by simp, fun built diagnostics => ?_⟩
      simp only [find, meant, there, ↓reduceIte, List.append_nil]
    · next elsewhere =>
      split at had
      · cases had
      · next free =>
        split at had
        · cases had
        · next moved added =>
          cases had
          refine ⟨rfl, [], by simp, fun built diagnostics => ?_⟩
          simp only [find, meant, elsewhere, free, added, ↓reduceIte, List.append_nil,
            Bool.false_eq_true]
          rfl

/-- A view that is had is had again in the same way. -/
theorem gives_materialize (had : building.materialize parent description = (placed, some id)) :
    Gives (materialize · parent description) building placed id := by
  simp only [materialize] at had ⊢
  split at had
  · next isNew =>
    simp only [isNew, ↓reduceIte]
    exact gives_create had
  · next old =>
    simp only [old, ↓reduceIte, Bool.false_eq_true]
    exact gives_find had

/-- A description that has its view goes on with its subviews. -/
theorem build_of_had (unfailed : building.failure = none)
    (had : building.materialize parent description = (placed, some id)) :
    build parent description building = buildUnder id description placed := by
  rw [build_eq]
  simp only [unfailed, had]

/-- Building with a fate: which descriptions were built and which errors were told, and that an
action, by which only what was kept is built, makes the same without the errors. -/
structure Prunes (action : Building → Building) (building next : Building)
    (entries : List (Description × ViewId)) (errors : List Diagnostic) : Prop where
  failure : next.failure = building.failure
  built : next.built = building.built ++ entries
  told : ∃ told fewer, next.diagnostics = building.diagnostics ++ told ∧
    told.filter (·.level == .error) = errors ∧ fewer.map Order.of = entries.map Order.of ∧
      ∀ built diagnostics, action { building with built, diagnostics } =
        { next with
          built := built ++ fewer
          diagnostics := diagnostics ++ told.filter (·.level == .warning) }

variable {middle next : Building} {action later : Building → Building}
  {entries others : List (Description × ViewId)} {errors more : List Diagnostic}

/-- What two actions prune, they prune one after the other. -/
theorem Prunes.comp (first : Prunes action building middle entries errors)
    (second : Prunes later middle next others more) :
    Prunes (fun start => later (action start)) building next (entries ++ others)
      (errors ++ more) where
  failure := second.failure.trans first.failure
  built := by rw [second.built, first.built, List.append_assoc]
  told := by
    obtain ⟨told, fewer, diagnostics, errorsEq, orders, same⟩ := first.told
    obtain ⟨told', fewer', diagnostics', errorsEq', orders', same'⟩ := second.told
    refine ⟨told ++ told', fewer ++ fewer', ?_, ?_, ?_, fun built before => ?_⟩
    · rw [diagnostics', diagnostics, List.append_assoc]
    · rw [List.filter_append, errorsEq, errorsEq']
    · rw [List.map_append, List.map_append, orders, orders']
    · rw [same, same', List.filter_append, List.append_assoc, List.append_assoc]

/-- A description whose view is had is built with the subviews that are kept. -/
theorem Gives.prunes {subviews : List Description} (unfailed : building.failure = none)
    (had : building.materialize parent description = (placed, some id))
    (below : Prunes (buildAll id subviews) (placed.settle description id) next entries errors) :
    Prunes (build parent { description with subviews }) building next
      ((description, id) :: entries) errors := by
  obtain ⟨failure, told, warnings, given⟩ := gives_materialize had
  have itself : building.materialize parent description =
      ({ placed with built := building.built, diagnostics := building.diagnostics ++ told },
        some id) := given building.built building.diagnostics
  rw [had, Prod.mk.injEq] at itself
  have built : placed.built = building.built := congrArg (·.built) itself.1
  have diagnostics : placed.diagnostics = building.diagnostics ++ told :=
    congrArg (·.diagnostics) itself.1
  have noErrors : told.filter (·.level == .error) = [] := by
    refine List.filter_eq_nil_iff.2 fun diagnostic member => ?_
    rw [warnings diagnostic member]
    decide
  have allWarnings : told.filter (·.level == .warning) = told := by
    refine List.filter_eq_self.2 fun diagnostic member => ?_
    rw [warnings diagnostic member]
    decide
  obtain ⟨further, fewer, furtherEq, errorsEq, orders, same⟩ := below.told
  exact {
    failure := below.failure.trans failure
    built := by
      rw [below.built]
      change placed.built ++ [(description, id)] ++ entries = _
      rw [built, List.append_assoc]
      rfl
    told := by
      refine ⟨told ++ further, ({ description with subviews }, id) :: fewer, ?_, ?_, ?_, ?_⟩
      · rw [furtherEq, ← List.append_assoc, ← diagnostics]
        rfl
      · rw [List.filter_append, noErrors, errorsEq, List.nil_append]
      · rw [List.map_cons, List.map_cons, orders]
        rfl
      · intro before told'
        have made : ({ building with built := before, diagnostics := told' } : Building).materialize
            parent { description with subviews } = _ := given before told'
        have going : ({ building with built := before, diagnostics := told' } : Building).failure =
            none := unfailed
        rw [build_of_had going made]
        have rest := same (before ++ [({ description with subviews }, id)]) (told' ++ told)
        rw [List.filter_append, allWarnings, ← List.append_assoc, List.append_cons]
        exact rest }

/-- Nothing is built of a description that is skipped. -/
theorem prunes_skipped (above : Option Description) (description : Description)
    {reason : Diagnostic} (error : reason.level = .error) :
    Prunes (buildAll parent (Fate.skipped description reason).kept) building
      (building.report reason) (((Fate.skipped description reason).listing above).map entry)
      (((Fate.skipped description reason).skips above).map Prod.snd) where
  failure := rfl
  built := (List.append_nil _).symm
  told := by
    refine ⟨[reason], [], rfl, ?_, rfl, fun built diagnostics => ?_⟩
    · simp [error, skips]
    · simp [error, kept, buildAll, report]

mutual

/-- What a fate says was built, and what it would be without the errors. -/
theorem prunes_of_comes (above : Option Description) {parent : ViewId} :
    ∀ {description : Description} {building next : Building} {fate : Fate},
      building.failure = none → Comes parent description building fate next →
        Prunes (buildAll parent fate.kept) building next ((fate.listing above).map entry)
          ((fate.skips above).map Prod.snd)
  | description, building, next, _, unfailed, @Comes.built _ id _ _ placed _ _ had below => by
    have going : (placed.settle description id).failure = none :=
      (gives_materialize had).1.trans unfailed
    have one := Gives.prunes unfailed had (prunes_of_comesAll (some description) going below)
    rw [kept, listing, skips]
    have single : ∀ (description : Description), buildAll parent [description] =
        build parent description := by
      intro description
      funext building
      rw [buildAll, buildAll]
    rw [single]
    exact one
  | description, building, _, _, _, .missing _ _ => by
    exact prunes_skipped above description rfl
  | description, building, _, _, _, .containing _ _ _ => by
    exact prunes_skipped above description rfl

/-- What is kept of subviews is built alike, without the errors. -/
theorem prunes_of_comesAll (above : Option Description) {parent : ViewId} :
    ∀ {descriptions : List Description} {building next : Building} {fates : List Fate},
      building.failure = none → ComesAll parent descriptions building fates next →
        Prunes (buildAll parent (keptAll fates)) building next
          ((listingAll above fates).map entry) ((skipsAll above fates).map Prod.snd)
  | _, _, _, _, _, .nil => by
    refine ⟨rfl, (List.append_nil _).symm, [], [], (List.append_nil _).symm, rfl, rfl, ?_⟩
    intro built diagnostics
    simp only [keptAll, buildAll, List.append_nil, List.filter_nil]
  | _, building, _, _, unfailed, @ComesAll.cons _ _ _ _ _ _ fate others first later => by
    have one := prunes_of_comes above unfailed first
    have rest := prunes_of_comesAll above (one.failure.trans unfailed) later
    have both : buildAll parent (keptAll (fate :: others)) = fun start =>
        buildAll parent (keptAll others) (buildAll parent fate.kept start) := by
      funext start
      rw [keptAll, buildAll_append]
    rw [both, listingAll, skipsAll, List.map_append, List.map_append]
    exact one.comp rest

end

end Building

end ViewLayout
