import ViewLayout.Proofs.Constraint.Kinds
import ViewLayout.Proofs.Document.Unfolding
import ViewLayout.Proofs.Pass.Comparison
import ViewLayout.Proofs.Pass.Fates
import ViewLayout.Proofs.Pass.Stages
import ViewLayout.Proofs.Table.Putting

/-!
# What names mean

While a hierarchy is built, names are given to new views, taken by later ones and looked up in
between. What comes of it depends on nothing but the new descriptions that were built: a name means
the view of the last one of them that has it, or else the root view. `Declares` says so of building
descriptions, and `compile_names` for all references of a pass, wherever they stand.
-/

namespace ViewLayout

namespace Diagnostic

/-- The name that a warning is about of a view that is declared again. -/
def redeclared? : Diagnostic → Option String
  | viewRedeclared name => some name
  | _ => none

/-- An error says nothing of a redeclaration. -/
theorem redeclared?_eq_none_of_error {diagnostic : Diagnostic}
    (error : diagnostic.level = .error) : diagnostic.redeclared? = none := by
  cases diagnostic <;> first | rfl | cases error

/-- Only building says that a name is redeclared. -/
theorem redeclared?_eq_none_of_stage {diagnostic : Diagnostic}
    (other : diagnostic.stage ≠ .building) : diagnostic.redeclared? = none := by
  cases diagnostic <;> first | rfl | exact absurd rfl other

end Diagnostic

/-- The names of a list that are known before or stand earlier in the list. -/
def repeatedNames (known : List String) : List String → List String
  | [] => []
  | name :: rest =>
    (if name ∈ known then [name] else []) ++ repeatedNames (known ++ [name]) rest

/-- Which names repeat depends on which are known, and not on how often. -/
theorem repeatedNames_congr {known other : List String} (same : ∀ name, name ∈ known ↔ name ∈ other)
    (names : List String) : repeatedNames known names = repeatedNames other names := by
  induction names generalizing known other with
  | nil => rfl
  | cons name rest inner =>
    have later : repeatedNames (known ++ [name]) rest = repeatedNames (other ++ [name]) rest :=
      inner fun wanted => by rw [List.mem_append, List.mem_append, same]
    simp only [repeatedNames, same, later]

/-- The names that repeat in two lists. -/
theorem repeatedNames_append (known first second : List String) :
    repeatedNames known (first ++ second) =
      repeatedNames known first ++ repeatedNames (known ++ first) second := by
  induction first generalizing known with
  | nil => simp [repeatedNames]
  | cons name rest inner =>
    rw [List.cons_append, repeatedNames, repeatedNames, inner, List.append_assoc,
      List.append_assoc, List.singleton_append]

namespace Forest

variable {forest : Forest}

/-- The names of all views by number. -/
def names (forest : Forest) : List String :=
  forest.views.map View.name

theorem length_names : forest.names.length = forest.size :=
  List.length_map ..

theorem getElem?_names (id : ViewId) : forest.names[id]? = (forest.view? id).map View.name :=
  List.getElem?_map

theorem nameOf_eq_getD (id : ViewId) : forest.nameOf id = forest.names[id]?.getD "" := by
  simp [nameOf, names, view?]

/-- A change that keeps names keeps all of them. -/
theorem names_modify {change : View → View} (keeps : ∀ view, (change view).name = view.name)
    (id : ViewId) : (forest.modify id change).names = forest.names := by
  apply List.ext_getElem?
  intro other
  simp only [names, modify, List.getElem?_map, List.getElem?_modify]
  cases forest.views[other]? with
  | none => simp
  | some view => by_cases same : id = other <;> simp [same, keeps]

theorem names_addSubview {parent id : ViewId} {next : Forest}
    (moved : forest.addSubview parent id = .ok next) : next.names = forest.names := by
  have detached : (forest.detach id).names = forest.names := by
    unfold detach
    split
    · rfl
    · refine (names_modify ?_ _).trans (names_modify ?_ _) <;> exact fun _ => rfl
  unfold addSubview at moved
  split at moved
  · cases moved
  · cases moved
    refine Eq.trans ?_ detached
    refine (names_modify ?_ _).trans (names_modify ?_ _) <;> exact fun _ => rfl

/-- A view that is created gets the next number and its name. -/
theorem names_createUnder {parent id : ViewId} {name : String} {superclass : Option String}
    {next : Forest} (made : forest.createUnder parent name superclass = .ok (id, next)) :
    id = forest.size ∧ next.names = forest.names ++ [name] := by
  obtain ⟨rfl, moved⟩ := (createUnder_eq_ok_iff name superclass).1 made
  refine ⟨rfl, (names_addSubview moved).trans ?_⟩
  simp [create, names]

end Forest

namespace Building

open Fate

/-- The names of the new descriptions among those that were built, with their views. -/
def declarations (entries : List (Description × ViewId)) : Table ViewId :=
  (entries.filter (·.1.isNew)).map fun entry => (entry.1.name, entry.2)

/-- The declarations of two lists. -/
theorem declarations_append (first second : List (Description × ViewId)) :
    declarations (first ++ second) = declarations first ++ declarations second := by
  simp [declarations]

/-- What building descriptions declares. New views get the next numbers with their names, which
come to mean them in turn, and those that meant a view before are told of. -/
structure Declares (building next : Building) (entries : List (Description × ViewId)) : Prop where
  names : next.scene.forest.names = building.scene.forest.names ++ (declarations entries).names
  numbers : (declarations entries).map Prod.snd =
    List.range' building.scene.forest.size (declarations entries).length
  index : next.scene.index = building.scene.index.putAll (declarations entries)
  warned : next.diagnostics.filterMap Diagnostic.redeclared? =
    building.diagnostics.filterMap Diagnostic.redeclared? ++
      repeatedNames building.scene.index.names (declarations entries).names

variable {building middle next placed : Building} {entries others : List (Description × ViewId)}
  {parent id : ViewId} {description : Description}

/-- Where nothing is new, nothing is declared. -/
theorem Declares.nothing (old : declarations entries = [])
    (names : next.scene.forest.names = building.scene.forest.names)
    (index : next.scene.index = building.scene.index)
    (warned : next.diagnostics.filterMap Diagnostic.redeclared? =
      building.diagnostics.filterMap Diagnostic.redeclared?) :
    Declares building next entries where
  names := by simp [old, names, Table.names]
  numbers := by simp [old]
  index := by simp [old, index, Table.putAll]
  warned := by simp [old, warned, repeatedNames, Table.names]

/-- Descriptions are declared one after the other. -/
theorem Declares.trans (first : Declares building middle entries)
    (second : Declares middle next others) : Declares building next (entries ++ others) where
  names := by
    rw [second.names, first.names, declarations_append, Table.names_append, List.append_assoc]
  numbers := by
    have size : middle.scene.forest.size =
        building.scene.forest.size + (declarations entries).length := by
      rw [← Forest.length_names, first.names, List.length_append, Forest.length_names, Table.names,
        List.length_map]
    rw [declarations_append, List.map_append, first.numbers, second.numbers, size,
      List.length_append, List.range'_append_1]
  index := by
    rw [second.index, first.index, declarations_append, Table.putAll_append]
  warned := by
    rw [second.warned, first.warned, first.index, List.append_assoc, declarations_append,
      Table.names_append, repeatedNames_append]
    exact congrArg _ (congrArg _ (repeatedNames_congr (fun _ => Table.mem_names_putAll) _))

/-- A view that is had is declared if it is new. -/
theorem declares_of_materialize
    (had : building.materialize parent description = (placed, some id)) :
    Declares building placed [(description, id)] := by
  unfold materialize at had
  cases isNew : description.isNew with
  | true =>
    have only : declarations [(description, id)] = [(description.name, id)] := by
      simp [declarations, isNew]
    rw [isNew, if_pos rfl] at had
    obtain ⟨forest, made, rfl⟩ := create_eq_of_had had
    obtain ⟨rfl, names⟩ := Forest.names_createUnder made
    exact {
      names := by rw [only]; exact names
      numbers := by simp [only]
      index := by rw [only]; rfl
      warned := by
        have named : Table.names [(description.name, building.scene.forest.size)] =
            [description.name] := rfl
        rw [only, named, List.filterMap_append]
        by_cases known : description.name ∈ building.scene.index.names
        · simp [repeatedNames, known, Table.has_iff.2 known, Diagnostic.redeclared?]
        · have unknown := (not_congr Table.has_iff).2 known
          simp [repeatedNames, known, unknown] }
  | false =>
    have none : declarations [(description, id)] = [] := by
      simp [declarations, isNew]
    rw [isNew, if_neg Bool.false_ne_true] at had
    obtain ⟨_, ⟨_, rfl⟩ | ⟨forest, moved, rfl⟩⟩ := find_eq_of_had had
    · exact .nothing none rfl rfl rfl
    · exact .nothing none (Forest.names_addSubview moved) rfl rfl

/-- Settling a view declares nothing. -/
theorem Declares.settle (declares : Declares building placed entries) (description : Description)
    (id : ViewId) : Declares building (placed.settle description id) entries where
  names := by
    refine Eq.trans (Forest.names_modify ?_ id) declares.names
    exact fun _ => rfl
  numbers := declares.numbers
  index := declares.index
  warned := declares.warned

/-- Telling an error declares nothing. -/
theorem declares_report {reason : Diagnostic} (error : reason.level = .error) :
    Declares building (building.report reason) [] :=
  .nothing rfl rfl rfl (by simp [report, Diagnostic.redeclared?_eq_none_of_error error])

mutual

/-- What becomes of a description is all that is declared. -/
theorem declares_of_comes (above : Option Description) :
    ∀ {parent : ViewId} {description : Description} {building next : Building} {fate : Fate},
      Comes parent description building fate next →
        Declares building next ((fate.listing above).map entry)
  | _, description, _, _, _, .built had below => by
    rw [listing, List.map_cons]
    exact ((declares_of_materialize had).settle _ _).trans
      (declares_of_comesAll (some description) below)
  | _, _, _, _, _, .missing _ _ => declares_report rfl
  | _, _, _, _, _, .containing _ _ _ => declares_report rfl

/-- Building subviews declares what became of them. -/
theorem declares_of_comesAll (above : Option Description) :
    ∀ {parent : ViewId} {descriptions : List Description} {building next : Building}
      {fates : List Fate}, ComesAll parent descriptions building fates next →
        Declares building next ((listingAll above fates).map entry)
  | _, _, _, _, _, .nil => .nothing rfl rfl rfl rfl
  | _, _, _, _, _, .cons first later => by
    rw [listingAll, List.map_append]
    exact (declares_of_comes above first).trans (declares_of_comesAll above later)

end

end Building

namespace Scope

variable {scope : Scope} {target : ViewId} {directive : Directive}

/-- A reference is unresolved exactly if it is a name that no view is found for. -/
theorem resolve_eq_unresolved_iff {reference : Option String} {name : String} :
    scope.resolve target reference = .unresolved name ↔
      reference = some name ∧ scope.resolve target (some name) = .unresolved name := by
  cases reference with
  | none => simp [resolve]
  | some other =>
    constructor
    · intro meant
      obtain rfl : other = name := by
        simp only [resolve] at meant
        split at meant <;> simp_all
      exact ⟨rfl, meant⟩
    · rintro ⟨same, meant⟩
      rwa [same]

/-- A directive tells that a reference is unresolved exactly if its own one is. -/
theorem referenceUnresolved_mem_iff
    (unfailed : (scope.establishment .log target directive).failure = none) {name view : String}
    {identifier : Option String} :
    .referenceUnresolved name view identifier ∈ scope.diagnosticsOf target directive ↔
      directive.answer .reference = some name ∧
        scope.resolve target (some name) = .unresolved name ∧
          scope.forest.nameOf target = view ∧ directive.answer .identifier = identifier := by
  have errors : .referenceUnresolved name view identifier ∈ scope.diagnosticsOf target directive ↔
      .fault (.referenceUnresolved name view identifier) ∈ scope.verdicts target directive := by
    constructor
    · intro member
      have kept : .referenceUnresolved name view identifier ∈
          (scope.diagnosticsOf target directive).filter (·.level == .error) :=
        List.mem_filter.2 ⟨member, rfl⟩
      rw [(specsOf_eq unfailed).2] at kept
      obtain ⟨verdict, listed, same⟩ := List.mem_filterMap.1 kept
      cases verdict with
      | spec spec => cases same
      | fault diagnostic =>
        obtain rfl := Option.some.inj same
        exact listed
    · intro listed
      have kept : .referenceUnresolved name view identifier ∈
          (scope.verdicts target directive).filterMap Verdict.fault? :=
        List.mem_filterMap.2 ⟨_, listed, rfl⟩
      rw [← (specsOf_eq unfailed).2] at kept
      exact (List.mem_filter.1 kept).1
  rw [errors, verdicts]
  cases meant : scope.resolve target (directive.answer .reference) with
  | unresolved reference =>
    obtain ⟨given, unknown⟩ := resolve_eq_unresolved_iff.1 meant
    simp only [List.mem_singleton, Verdict.fault.injEq, Diagnostic.referenceUnresolved.injEq, given,
      Option.some.injEq]
    constructor
    · rintro ⟨rfl, rfl, rfl⟩
      exact ⟨rfl, unknown, rfl, rfl⟩
    · rintro ⟨rfl, _, rfl, rfl⟩
      exact ⟨rfl, rfl, rfl⟩
  | _ =>
    refine iff_of_false (fun member => ?_) ?_
    · obtain ⟨leftAttribute, _, told⟩ := List.mem_map.1 member
      unfold verdict at told
      split at told <;> cases told
    · rintro ⟨given, unknown, _⟩
      rw [given, unknown] at meant
      cases meant

/-- A constraint is compared with the view that is given, unless it is for a size and views that
are given do not count for these. -/
theorem comparableView_specOf_of_given (scope : Scope) (target : ViewId) (directive : Directive)
    (id : ViewId) (leftAttribute : Attribute) :
    (scope.specOf directive
        (scope.contextOf target directive (some id) leftAttribute)).comparableView =
      if leftAttribute.isSize = true ∧
          scope.config.independentIgnoresExplicitView.isTruthy = true then none
      else some id := by
  simp [specOf, contextOf, Context.comparableView, Context.isConstantSize]

end Scope

namespace Pass

open Fate

variable {settings : Settings} {document : Document} {root : ViewId} {scene : Scene}

/-- The names of the new descriptions that a pass builds, with their views. -/
def declared (document : Document) (root : ViewId) (scene : Scene) : Table ViewId :=
  Building.declarations (hierarchy document root scene).built.tail

/-- The view that a name means in a pass: that of the last new description that has it, or else
the root view if that has it. -/
def meaning? (document : Document) (root : ViewId) (scene : Scene) (name : String) :
    Option ViewId :=
  ((declared document root scene).last? name).or
    (if scene.forest.nameOf root = name then some root else none)

/-- Names mean the views that were declared last by them, wherever they stand. -/
structure Names (settings : Settings) (document : Document) (root : ViewId) (scene : Scene) :
    Prop where
  /-- Descriptions are built in preorder. -/
  preorder : ((hierarchy document root scene).built.map Prod.fst).Sublist
    (document.root.walk.map Prod.snd)
  /-- Those that are new get the next views in turn, which have their names. -/
  created : (declared document root scene).map Prod.snd =
    List.range' scene.forest.size (declared document root scene).length
  named : (hierarchy document root scene).scene.forest.names =
    scene.forest.names ++ (declared document root scene).names
  index : ∀ name, (hierarchy document root scene).scene.index.get? name =
    meaning? document root scene name
  /-- A reference that does not mean the parent is to the view of its name. -/
  resolves : ∀ target name, (scope settings document root scene).meansParent name = false →
    (scope settings document root scene).resolve target (some name) =
      match meaning? document root scene name with
      | some id => .view id
      | none => .unresolved name
  /-- So that is the view that the constraints of a directive are compared with, unless views that
  are given do not count for sizes. -/
  compared : ∀ layout, (compile settings document root scene).result = .ok layout →
    ∀ target directive, Given document root scene target directive → ∀ name,
      directive.answer .reference = some name →
        (scope settings document root scene).meansParent name = false →
          ∀ spec ∈ (scope settings document root scene).specsOf target directive,
            spec.comparableView =
              if spec.leftAttribute.isSize = true ∧
                  settings.config.independentIgnoresExplicitView.isTruthy = true then none
              else meaning? document root scene name
  /-- A reference is told of as unresolved exactly if no view has its name. -/
  reported : ∀ layout, (compile settings document root scene).result = .ok layout → ∀ name,
    (scope settings document root scene).meansParent name = false → ∀ view identifier,
      .referenceUnresolved name view identifier ∈ layout.diagnostics ↔
        meaning? document root scene name = none ∧
          ∃ target directive, Given document root scene target directive ∧
            directive.answer .reference = some name ∧
              (hierarchy document root scene).scene.forest.nameOf target = view ∧
                directive.answer .identifier = identifier
  /-- The new descriptions with the name of the root view or of an earlier one are told of. -/
  warned : ∀ layout, (compile settings document root scene).result = .ok layout →
    layout.diagnostics.filterMap Diagnostic.redeclared? =
      repeatedNames [scene.forest.nameOf root] (declared document root scene).names

theorem names_opened : (opened document root scene).scene.forest.names = scene.forest.names := by
  apply Forest.names_modify
  exact fun _ => rfl

/-- At first the root view is all that is known. -/
theorem index_opened (fresh : scene.index = []) :
    (opened document root scene).scene.index = [(scene.forest.nameOf root, root)] := by
  change scene.index.put (scene.forest.nameOf root) root = _
  rw [fresh]
  rfl

/-- What a pass declares in a scene without names, by what becomes of its descriptions. -/
theorem declares_hierarchy (formed : scene.forest.WellFormed) (inside : root < scene.forest.size)
    (fresh : scene.index = []) :
    ∃ fates, ComesAll root document.root.subviews (opened document root scene) fates
        (hierarchy document root scene) ∧
      (hierarchy document root scene).built =
        (document.root, root) :: (listingAll (some document.root) fates).map entry ∧
      Building.Declares (opened document root scene) (hierarchy document root scene)
        (hierarchy document root scene).built.tail := by
  have indexed : ∀ name id, scene.index.get? name = some id → id < scene.forest.size := by
    rw [fresh]
    exact fun name id meant => nomatch meant
  have start := Building.sound_of_named formed inside indexed (scene.forest.nameOf root)
  obtain ⟨settled, fates, comes⟩ := start.comes_buildHierarchy document.root
  have prunes := Building.prunes_of_comesAll (some document.root) settled.unfailed comes
  have built : (hierarchy document root scene).built =
    (document.root, root) :: (listingAll (some document.root) fates).map entry := prunes.built
  refine ⟨fates, comes, built, ?_⟩
  rw [built, List.tail_cons]
  exact Building.declares_of_comesAll (some document.root) comes

/-- What names mean in the index once the hierarchy is built. -/
theorem get?_index_hierarchy (formed : scene.forest.WellFormed) (inside : root < scene.forest.size)
    (fresh : scene.index = []) (name : String) :
    (hierarchy document root scene).scene.index.get? name =
      meaning? document root scene name := by
  obtain ⟨_, _, _, declares⟩ := declares_hierarchy formed inside fresh
  rw [declares.index, index_opened fresh, Table.get?_putAll]
  rfl

/-- What a pass tells is told of the hierarchy, of templates or of a directive to be established. -/
theorem mem_diagnostics_iff {layout : Layout}
    (returned : (compile settings document root scene).result = .ok layout)
    {diagnostic : Diagnostic} :
    diagnostic ∈ layout.diagnostics ↔
      diagnostic ∈ (hierarchy document root scene).diagnostics ∨
        (∃ entry ∈ (hierarchy document root scene).built,
          diagnostic ∈ (Template.expand document.templates [] entry.1.templates).diagnostics) ∨
        ∃ target directive, Given document root scene target directive ∧
          diagnostic ∈ (scope settings document root scene).diagnosticsOf target directive := by
  rw [eq_layoutOf_of_compile returned, layoutOf, diagnostics_steps, List.mem_append,
    List.mem_flatMap]
  refine or_congr_right ⟨?_, ?_⟩
  · rintro ⟨entry, built, told⟩
    rcases List.mem_append.1 told with ofTemplate | ofDirective
    · exact .inl ⟨entry, built, ofTemplate⟩
    · obtain ⟨directive, own, told⟩ := List.mem_flatMap.1 ofDirective
      exact .inr ⟨entry.2, directive, ⟨entry, built, rfl, own⟩, told⟩
  · rintro (⟨entry, built, told⟩ | ⟨_, directive, ⟨entry, built, rfl, own⟩, told⟩)
    · exact ⟨entry, built, List.mem_append_left _ told⟩
    · exact ⟨entry, built, List.mem_append_right _ (List.mem_flatMap.2 ⟨directive, own, told⟩)⟩

/-- Nothing but building the hierarchy tells of names that are declared again. -/
theorem redeclared_layout {layout : Layout}
    (returned : (compile settings document root scene).result = .ok layout) :
    layout.diagnostics.filterMap Diagnostic.redeclared? =
      (hierarchy document root scene).diagnostics.filterMap Diagnostic.redeclared? := by
  have others : ((hierarchy document root scene).built.flatMap fun entry =>
      (Template.expand document.templates [] entry.1.templates).diagnostics ++
        ((Order.of entry).directives document.templates).flatMap
          ((scope settings document root scene).diagnosticsOf entry.2)).filterMap
            Diagnostic.redeclared? = [] := by
    refine List.filterMap_eq_nil_iff.2 fun diagnostic member =>
      Diagnostic.redeclared?_eq_none_of_stage ?_
    obtain ⟨entry, _, told⟩ := List.mem_flatMap.1 member
    rcases List.mem_append.1 told with ofTemplate | ofDirective
    · rw [Template.stage_of_mem_expand ofTemplate]
      nofun
    · obtain ⟨directive, _, told⟩ := List.mem_flatMap.1 ofDirective
      rw [Scope.stage_of_mem_diagnosticsOf told]
      nofun
  rw [eq_layoutOf_of_compile returned, layoutOf, diagnostics_steps, List.filterMap_append, others,
    List.append_nil]

/-- A reference is resolved by the index alone, if it does not mean the parent and nothing is
around. -/
theorem resolve_of_alone (alone : settings.environment = []) {name : String}
    (other : (scope settings document root scene).meansParent name = false) (target : ViewId) :
    (scope settings document root scene).resolve target (some name) =
      match (hierarchy document root scene).scene.index.get? name with
      | some id => .view id
      | none => .unresolved name := by
  have found : (scope settings document root scene).lookup? name =
      (hierarchy document root scene).scene.index.get? name := by
    simp [Scope.lookup?, scope, Settings.scope, alone, Table.get?]
  cases meant : (hierarchy document root scene).scene.index.get? name <;>
    simp only [Scope.resolve, other, Bool.false_eq_true, ↓reduceIte, found, meant]

/-- The constraints of a directive are compared with the view that its reference is resolved to. -/
theorem comparableView_of_resolve (done : Done settings document root scene) {target : ViewId}
    {directive : Directive} (given : Given document root scene target directive) {name : String}
    (reference : directive.answer .reference = some name) {meant : Option ViewId}
    (resolved : ((scope settings document root scene).resolve target (some name)).view? = meant)
    {spec : Spec} (own : spec ∈ (scope settings document root scene).specsOf target directive) :
    spec.comparableView =
      if spec.leftAttribute.isSize = true ∧
          settings.config.independentIgnoresExplicitView.isTruthy = true then none
      else meant := by
  obtain ⟨leftAttribute, _, givenView, view, absent, rfl⟩ :=
    Scope.exists_context_of_mem_specsOf (given.unfailed done .log) own
  rw [reference, resolved] at view
  rw [reference] at absent
  cases meant with
  | none => cases absent.1 view
  | some id =>
    rw [view]
    exact Scope.comparableView_specOf_of_given ..

/-- Unresolved references are those of directives, and they are told of as such. -/
theorem referenceUnresolved_mem_layout_iff {layout : Layout}
    (returned : (compile settings document root scene).result = .ok layout) {name view : String}
    {identifier : Option String} :
    .referenceUnresolved name view identifier ∈ layout.diagnostics ↔
      ∃ target directive, Given document root scene target directive ∧
        directive.answer .reference = some name ∧
          (scope settings document root scene).resolve target (some name) = .unresolved name ∧
            (hierarchy document root scene).scene.forest.nameOf target = view ∧
              directive.answer .identifier = identifier := by
  have done := done_of_compile returned
  rw [mem_diagnostics_iff returned]
  constructor
  · rintro (ofHierarchy | ⟨entry, _, ofTemplate⟩ | ⟨target, directive, given, told⟩)
    · cases Scene.stage_of_mem_buildHierarchy ofHierarchy
    · cases Template.stage_of_mem_expand ofTemplate
    · exact ⟨target, directive, given,
        (Scope.referenceUnresolved_mem_iff (given.unfailed done .log)).1 told⟩
  · rintro ⟨target, directive, given, told⟩
    exact .inr (.inr ⟨target, directive, given,
      (Scope.referenceUnresolved_mem_iff (given.unfailed done .log)).2 told⟩)

/-- **Whatever a document describes and wherever its references stand, names mean the views that
were declared last by them.** -/
theorem compile_names (settings : Settings) (document : Document) (root : ViewId) (scene : Scene)
    (formed : scene.forest.WellFormed) (inside : root < scene.forest.size)
    (fresh : scene.index = []) (alone : settings.environment = []) :
    Names settings document root scene := by
  obtain ⟨fates, comes, built, declares⟩ := declares_hierarchy formed inside fresh
  have index : ∀ name, (hierarchy document root scene).scene.index.get? name =
      meaning? document root scene name := get?_index_hierarchy formed inside fresh
  exact {
    preorder := by
      rw [built, Description.walk_eq, Description.listing_eq, List.map_cons, List.map_cons,
        List.map_map]
      have listed := (Fate.ComesAll.sublist (some document.root) comes).map Prod.snd
      rw [List.map_map] at listed
      exact listed.cons_cons _
    created := by
      have size : (opened document root scene).scene.forest.size = scene.forest.size :=
        Forest.size_modify ..
      rw [declared, declares.numbers, size]
    named := by
      rw [declares.names, names_opened]
      rfl
    index := index
    resolves := by
      intro target name other
      rw [resolve_of_alone alone other, index]
    compared := by
      intro layout returned target directive given name reference other spec own
      refine comparableView_of_resolve (done_of_compile returned) given reference ?_ own
      rw [resolve_of_alone alone other, index]
      cases meaning? document root scene name <;> rfl
    reported := by
      intro layout returned name other view identifier
      have unknown (target : ViewId) :
          (scope settings document root scene).resolve target (some name) = .unresolved name ↔
            meaning? document root scene name = none := by
        rw [resolve_of_alone alone other, index]
        cases meaning? document root scene name <;> simp
      rw [referenceUnresolved_mem_layout_iff returned]
      simp only [unknown]
      constructor
      · rintro ⟨target, directive, given, reference, nameless, told⟩
        exact ⟨nameless, target, directive, given, reference, told⟩
      · rintro ⟨nameless, target, directive, given, reference, told⟩
        exact ⟨target, directive, given, reference, nameless, told⟩
    warned := by
      intro layout returned
      rw [redeclared_layout returned, declares.warned, index_opened fresh]
      rfl }

/-- The tasks of views that take nothing from templates can be done, if the directives of their own
can be read. -/
theorem done_of_untemplated (built : (hierarchy document root scene).failure = none)
    (read : ∀ entry ∈ (hierarchy document root scene).built, entry.1.templates = [] ∧
      ∀ directive ∈ entry.1.constraints,
        ((scope settings document root scene).establishment settings.passSink entry.2
          directive).failure = none) : Done settings document root scene := by
  refine done_of_given built ?_
  rintro _ directive ⟨entry, listed, rfl, own⟩
  obtain ⟨templates, readable⟩ := read entry listed
  refine readable directive ?_
  rwa [directives_of_templates_eq_nil templates] at own

/-- The constraints of views that take nothing from templates are those of their own directives. -/
theorem constraints_of_untemplated {layout : Layout}
    (returned : (compile settings document root scene).result = .ok layout)
    (templates : ∀ entry ∈ (hierarchy document root scene).built, entry.1.templates = []) :
    layout.constraints =
      (hierarchy document root scene).built.flatMap fun entry =>
        entry.1.constraints.flatMap ((scope settings document root scene).specsOf entry.2) := by
  rw [eq_layoutOf_of_compile returned, layoutOf, specs_steps]
  refine List.flatMap_congr fun entry built => ?_
  rw [directives_of_templates_eq_nil (templates entry built)]

/-- A directive that refers to no view. -/
def nowhere : Directive :=
  ⟨"leading", .shorthand "@nowhere", .log⟩

/-- A window that refers to the label below, of which there are two, and that has a new window in
it. -/
def relabelled : Document where
  root :=
    { name := "window"
      constraints := [⟨"top", .shorthand "@label", .log⟩]
      subviews :=
        [{ name := "label", isNew := true }, { name := "panel", isNew := true },
          { name := "panel", subviews := [{ name := "label", isNew := true }] },
          { name := "window", isNew := true, constraints := [nowhere] }] }

/-- The window's top is compared with the second label. -/
theorem compile_names_relabelled :
    Names {} relabelled 0 oneView ∧
      ["label", "panel", "window", "nowhere"].map (meaning? relabelled 0 oneView) =
        [some 3, some 2, some 4, none] ∧
      ∃ layout, (compile {} relabelled 0 oneView).result = .ok layout ∧
        layout.diagnostics.filterMap Diagnostic.redeclared? = ["label", "window"] ∧
        .referenceUnresolved "nowhere" "window" none ∈ layout.diagnostics := by
  have names := compile_names {} relabelled 0 oneView
    (Forest.wellFormed_after [.create "window" none none]) (by decide) rfl rfl
  have done : Done {} relabelled 0 oneView := done_of_untemplated (by decide) (by decide)
  have listed : (hierarchy relabelled 0 oneView).built[5]? =
      some ({ name := "window", isNew := true, constraints := [nowhere] }, 4) := rfl
  have given : Given relabelled 0 oneView 4 nowhere :=
    ⟨_, List.mem_of_getElem? listed, rfl, List.mem_append_right _ List.mem_cons_self⟩
  have returned := congrArg Outcome.result (compile_eq_ending done)
  refine ⟨names, by decide, _, returned, (names.warned _ returned).trans (by decide), ?_⟩
  exact (names.reported _ returned "nowhere" (by decide) "window" none).2
    ⟨by decide, 4, nowhere, given, by decide, by decide, by decide⟩

end Pass

end ViewLayout
