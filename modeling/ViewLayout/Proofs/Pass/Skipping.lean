import ViewLayout.Proofs.Pass.Fates

/-!
# Skipped views

A pass skips a description whose view cannot be had with all below it, and nothing else. Its error
is all that is left of it: the document without those descriptions gives the same hierarchy and the
same constraints, and the same diagnostics but for these errors.
-/

namespace ViewLayout.Pass

/-- An outcome of a pass and one that has the same but for the errors of its hierarchy. -/
structure Spares (diagnostics : List Diagnostic) (whole fewer : Outcome PassError) : Prop where
  scene : fewer.scene = whole.scene
  error : ∀ fault, whole.result = .error fault ↔ fewer.result = .error fault
  ok : ∀ layout, whole.result = .ok layout →
    ∃ later, layout.diagnostics = diagnostics ++ later ∧
      fewer.result = .ok ⟨layout.constraints, diagnostics.filter (·.level == .warning) ++ later⟩

variable {settings : Settings} {document smaller : Document} {root : ViewId} {scene : Scene}

/-- Errors of the hierarchy are all that a pass lacks whose hierarchy lacks them. -/
theorem spares_of_hierarchy (templates : smaller.templates = document.templates)
    (sameScene : (hierarchy smaller root scene).scene = (hierarchy document root scene).scene)
    (sameFailure :
      (hierarchy smaller root scene).failure = (hierarchy document root scene).failure)
    (orders : (hierarchy smaller root scene).built.map Order.of =
      (hierarchy document root scene).built.map Order.of)
    (warnings : (hierarchy smaller root scene).diagnostics =
      (hierarchy document root scene).diagnostics.filter (·.level == .warning)) :
    Spares (hierarchy document root scene).diagnostics (compile settings document root scene)
      (compile settings smaller root scene) := by
  have sameTasks : tasks smaller root scene = tasks document root scene := by
    rw [tasks, tasks, agenda, agenda, orders, templates]
  have sameCount := congrArg List.length orders
  rw [List.length_map, List.length_map] at sameCount
  obtain ⟨next, told, performed⟩ := foldl_perform_events settings settings.isTruthy_passSink
    { scene := (hierarchy document root scene).scene
      failure := (hierarchy document root scene).failure.map .hierarchy }
    (tasks document root scene)
  rw [compile_eq_close, compile_eq_close, sameTasks, sameCount, started_eq, started_eq, sameScene,
    sameFailure, performed, performed, warnings]
  cases failed : next.failure with
  | some fault =>
    simp only [close]
    exact ⟨rfl, fun _ => Iff.rfl, fun _ returned => by cases returned⟩
  | none =>
    simp only [close, received_reported]
    refine ⟨rfl, fun _ => ⟨fun refused => (by cases refused), fun refused => by cases refused⟩, ?_⟩
    rintro _ ⟨⟩
    exact ⟨_, rfl, rfl⟩

/-- The document without the descriptions that were skipped. -/
def spared (document : Document) (fates : List Fate) : Document :=
  { document with root := { document.root with subviews := Fate.keptAll fates } }

/-- A pass skips exactly the subtrees of the views that cannot be had. -/
structure Skips (settings : Settings) (document : Document) (root : ViewId) (scene : Scene)
    (fates : List Fate) : Prop where
  /-- The descriptions below the root have these fates, each in the state in which it is reached. -/
  comes : Fate.ComesAll root document.root.subviews (opened document root scene) fates
    (hierarchy document root scene)
  built : (hierarchy document root scene).built =
    (document.root, root) :: (Fate.listingAll (some document.root) fates).map Fate.entry
  /-- What is built is a part of the walk, in its order. -/
  preorder : ((none, document.root) ::
    (Fate.listingAll (some document.root) fates).map Prod.fst).Sublist document.root.walk
  /-- The parent of what is built is built. -/
  closed : ∀ seat ∈ Fate.listingAll (some document.root) fates,
    Fate.Rooted (some document.root) (Fate.listingAll (some document.root) fates) seat.1.1
  /-- What is skipped itself has a parent that is built, is not new, and is missing or contains its
  place. -/
  refused : ∀ skip ∈ Fate.skipsAll (some document.root) fates,
    Fate.Rooted (some document.root) (Fate.listingAll (some document.root) fates) skip.1.1 ∧
      Fate.Refused skip
  /-- All that is not built is skipped itself or lies below what is. -/
  covered : ∀ placed ∈ document.root.walk.tail,
    placed ∈ (Fate.listingAll (some document.root) fates).map Prod.fst ∨
      ∃ skip ∈ Fate.skipsAll (some document.root) fates, placed ∈ skip.1.2.listing skip.1.1
  /-- Each description that is skipped itself has one error, and there are no others. -/
  errors : (hierarchy document root scene).diagnostics.filter (·.level == .error) =
    (Fate.skipsAll (some document.root) fates).map Prod.snd
  sameHierarchy : (hierarchy (spared document fates) root scene).scene =
    (hierarchy document root scene).scene
  warnings : (hierarchy (spared document fates) root scene).diagnostics =
    (hierarchy document root scene).diagnostics.filter (·.level == .warning)
  spares : Spares (hierarchy document root scene).diagnostics
    (compile settings document root scene) (compile settings (spared document fates) root scene)

/-- **Whatever a document describes, a pass skips exactly the subtrees of the views that cannot be
had.** -/
theorem compile_skips (settings : Settings) (document : Document) (root : ViewId) (scene : Scene)
    (formed : scene.forest.WellFormed) (inside : root < scene.forest.size)
    (indexed : ∀ name id, scene.index.get? name = some id → id < scene.forest.size) :
    ∃ fates, Skips settings document root scene fates := by
  have start := Building.sound_of_named formed inside indexed (scene.forest.nameOf root)
  obtain ⟨settled, fates, comes⟩ := start.comes_buildHierarchy document.root
  have prunes := Building.prunes_of_comesAll (some document.root) settled.unfailed comes
  obtain ⟨told, fewer, diagnostics, errors, orders, same⟩ := prunes.told
  have less : hierarchy (spared document fates) root scene =
      { hierarchy document root scene with
        built := [((spared document fates).root, root)] ++ fewer
        diagnostics := told.filter (·.level == .warning) } :=
    same [((spared document fates).root, root)] []
  have told_eq : (hierarchy document root scene).diagnostics = told := diagnostics
  have built_eq : (hierarchy document root scene).built =
    (document.root, root) :: (Fate.listingAll (some document.root) fates).map Fate.entry :=
    prunes.built
  have walk_eq : document.root.walk = (none, document.root) ::
      Description.listingAll (some document.root) document.root.subviews := by
    rw [Description.walk_eq, Description.listing_eq]
  refine ⟨fates, ?_⟩
  exact {
    comes := comes
    built := built_eq
    preorder := by
      rw [walk_eq]
      exact (Fate.ComesAll.sublist (some document.root) comes).cons_cons _
    closed := (Fate.rootedAll (some document.root) fates).1
    refused := fun skip member => ⟨(Fate.rootedAll (some document.root) fates).2 skip member,
      Fate.ComesAll.refused (some document.root) comes skip member⟩
    covered := by
      rw [walk_eq, List.tail_cons]
      exact Fate.ComesAll.covered (some document.root) comes
    errors := by rw [told_eq, errors]
    sameHierarchy := by rw [less]
    warnings := by rw [less, told_eq]
    spares := by
      refine spares_of_hierarchy rfl ?_ ?_ ?_ ?_
      · rw [less]
      · rw [less]
      · rw [less, built_eq, List.map_append, List.map_cons, orders]
        rfl
      · rw [less, told_eq] }

/-- A page that asks for a view that is not there, with a label in it, for the window that the page
is in, and for a new title. -/
def overreaching : Document where
  root :=
    { name := "page"
      subviews :=
        [{ name := "sidebar", subviews := [{ name := "label", isNew := true }] },
          { name := "window" }, { name := "title", isNew := true }] }

/-- Only the title is built in the page. -/
theorem compile_skips_overreaching :
    (∃ fates, Skips {} overreaching 1 .nested fates) ∧
      (hierarchy overreaching 1 .nested).built.map Prod.snd = [1, 3] ∧
      (hierarchy overreaching 1 .nested).diagnostics =
        [.viewMissing "sidebar", .viewContainsParent "window" "page"] := by
  have indexed : ∀ name id, Scene.nested.index.get? name = some id →
      id < Scene.nested.forest.size := by
    intro name id meant
    have all : ∀ entry ∈ Scene.nested.index, entry.2 < Scene.nested.forest.size := by decide
    exact all _ (Table.mem_of_get? meant)
  exact ⟨compile_skips {} overreaching 1 .nested (Forest.wellFormed_after _) (by decide) indexed,
    by decide, rfl⟩

end ViewLayout.Pass
