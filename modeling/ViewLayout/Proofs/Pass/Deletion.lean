import ViewLayout.Proofs.Pass.Agenda

/-!
# Deleting a directive

`Description.Drops` relates a description to the one in which a directive was deleted from the
constraints of one view. Building reads no constraints: both descriptions make the same views with
the same diagnostics, and what is established for them differs at most in that directive. `Appends`
says what an action adds to the views that were built, whatever was built before.
-/

namespace ViewLayout

/-- One directive is deleted from the constraints of a view, or of a view below it. -/
inductive Description.Drops (removed : Directive) : Description → Description → Prop
  | here (description : Description) (before after : List Directive) :
    Drops removed { description with constraints := before ++ removed :: after }
      { description with constraints := before ++ after }
  | inside (description : Description) (before after : List Description)
    {subview smaller : Description} (inner : Drops removed subview smaller) :
    Drops removed { description with subviews := before ++ subview :: after }
      { description with subviews := before ++ smaller :: after }

/-- Orders that are the same, or of which the second ones lack a directive at one place. -/
inductive Order.Lack (removed : Directive) : List Order → List Order → Prop
  | nothing (orders : List Order) : Lack removed orders orders
  | directive (before after : List Order) (templates : List String)
    (earlier later : List Directive) (target : ViewId) :
    Lack removed (before ++ ⟨templates, earlier ++ removed :: later, target⟩ :: after)
      (before ++ ⟨templates, earlier ++ later, target⟩ :: after)

/-- Orders around those that lack a directive. -/
theorem Order.Lack.append {removed : Directive} {orders fewer : List Order}
    (lack : Lack removed orders fewer) (first last : List Order) :
    Lack removed (first ++ orders ++ last) (first ++ fewer ++ last) := by
  cases lack with
  | nothing => exact .nothing _
  | directive before after templates earlier later target =>
    have whole : Lack removed _ _ :=
      .directive (first ++ before) (after ++ last) templates earlier later target
    simpa only [List.append_assoc, List.cons_append] using whole

namespace Building

/-- An action that makes one building of another and appends to what is built, whatever that was. -/
def Appends (action : Building → Building) (building next : Building)
    (added : List (Description × ViewId)) : Prop :=
  ∀ built, action { building with built } = { next with built := built ++ added }

variable {action later : Building → Building} {building next last : Building}
  {added more : List (Description × ViewId)}

/-- What is appended by two actions, one after the other. -/
theorem Appends.comp (first : Appends action building next added)
    (second : Appends later next last more) :
    Appends (fun start => later (action start)) building last (added ++ more) := by
  intro built
  dsimp only
  rw [first built, second (built ++ added), List.append_assoc]

/-- Settling a view appends it. -/
theorem appends_settle (building : Building) (description : Description) (id : ViewId) :
    Appends (settle · description id) building (building.settle description id)
      [(description, id)] :=
  fun _ => rfl

/-- Finding or making a view does not look at what was built. -/
theorem materialize_built (building : Building) (parent : ViewId) (description : Description)
    (built : List (Description × ViewId)) :
    ({ building with built } : Building).materialize parent description =
      ({ (building.materialize parent description).1 with built },
        (building.materialize parent description).2) := by
  simp only [materialize]
  split
  · simp only [create]
    by_cases known : building.scene.index.has description.name = true
    · simp only [known, ↓reduceIte, report]
      split <;> rfl
    · simp only [known, ↓reduceIte, Bool.false_eq_true]
      split <;> rfl
  · simp only [find]
    split
    · rfl
    · split
      · rfl
      · split
        · rfl
        · split <;> rfl

/-- Settling a view of a description and building its subviews. -/
def buildUnder (id : ViewId) (description : Description) (building : Building) : Building :=
  buildAll id description.subviews (building.settle description id)

/-- A description is built unless something has failed. -/
theorem build_eq (parent : ViewId) (description : Description) (building : Building) :
    build parent description building =
      match building.failure with
      | some _ => building
      | none =>
        match building.materialize parent description with
        | (placed, none) => placed
        | (placed, some id) => buildUnder id description placed := by
  cases description
  rw [build]
  rfl

/-- A description is built in the same way whatever was built before. -/
theorem build_built (parent : ViewId) (description : Description) (building : Building)
    (built : List (Description × ViewId)) :
    build parent description { building with built } =
      match building.failure with
      | some _ => { building with built }
      | none =>
        match building.materialize parent description with
        | (placed, none) => { placed with built }
        | (placed, some id) => buildUnder id description { placed with built } := by
  rw [build_eq, materialize_built]
  cases building.failure with
  | some fault => rfl
  | none =>
    obtain ⟨placed, id?⟩ := building.materialize parent description
    cases id? <;> rfl

/-- A description appends to what is built if it does so from its view on. -/
theorem appends_build_of_buildUnder (parent : ViewId) (description : Description)
    (under : ∀ id building, ∃ next added, Appends (buildUnder id description) building next added)
    (building : Building) :
    ∃ next added, Appends (build parent description) building next added := by
  cases failed : building.failure with
  | some fault =>
    refine ⟨building, [], fun built => ?_⟩
    rw [build_built]
    simp only [failed, List.append_nil]
  | none =>
    cases had : building.materialize parent description with
    | mk placed id? =>
      cases id? with
      | none =>
        refine ⟨placed, [], fun built => ?_⟩
        rw [build_built]
        simp only [failed, had, List.append_nil]
      | some id =>
        obtain ⟨next, added, appends⟩ := under id placed
        refine ⟨next, added, fun built => ?_⟩
        rw [build_built]
        simp only [failed, had]
        exact appends built

mutual

/-- Building appends to what was built, and does not look at it. -/
theorem appends_build (parent : ViewId) : ∀ (description : Description) (building : Building),
    ∃ next added, Appends (build parent description) building next added
  | ⟨name, isNew, superclass, constraints, properties, zIndex, templates, subviews⟩, building => by
    refine appends_build_of_buildUnder parent _ (fun id placed => ?_) building
    obtain ⟨next, added, appends⟩ := appends_buildAll id subviews (placed.settle
      ⟨name, isNew, superclass, constraints, properties, zIndex, templates, subviews⟩ id)
    exact ⟨next, _, (appends_settle placed _ id).comp appends⟩

/-- Building subviews appends to what was built. -/
theorem appends_buildAll (parent : ViewId) : ∀ (descriptions : List Description)
    (building : Building), ∃ next added, Appends (buildAll parent descriptions) building next added
  | [], building => ⟨building, [], fun built => by rw [buildAll, List.append_nil]⟩
  | description :: rest, building => by
    obtain ⟨middle, first, appends⟩ := appends_build parent description building
    obtain ⟨next, others, appendsRest⟩ := appends_buildAll parent rest middle
    refine ⟨next, first ++ others, fun built => ?_⟩
    rw [buildAll]
    exact appends.comp appendsRest built

end

/-- Subviews are built one after the other. -/
theorem buildAll_append (parent : ViewId) (first second : List Description) (building : Building) :
    buildAll parent (first ++ second) building =
      buildAll parent second (buildAll parent first building) := by
  induction first generalizing building with
  | nil => rw [List.nil_append, buildAll]
  | cons description rest inner => rw [List.cons_append, buildAll, buildAll, inner]

/-- Two actions that make the same building of any other, but for what they add to what is built. -/
def Twins (relation : List (Description × ViewId) → List (Description × ViewId) → Prop)
    (action other : Building → Building) : Prop :=
  ∀ building, ∃ next added others, Appends action building next added ∧
    Appends other building next others ∧ relation added others

/-- Descriptions that say the same of the view itself have it in the same way. -/
theorem Twins.build {relation : List (Description × ViewId) → List (Description × ViewId) → Prop}
    (nothing : relation [] []) {description smaller : Description}
    (isNew : smaller.isNew = description.isNew) (name : smaller.name = description.name)
    (superclass : smaller.superclass = description.superclass)
    (under : ∀ id, Twins relation (buildUnder id description) (buildUnder id smaller))
    (parent : ViewId) :
    Twins relation (Building.build parent description) (Building.build parent smaller) := by
  intro building
  have same : building.materialize parent smaller = building.materialize parent description := by
    simp only [materialize, create, find, isNew, name, superclass]
  cases failed : building.failure with
  | some fault =>
    refine ⟨building, [], [], fun built => ?_, fun built => ?_, nothing⟩ <;>
      rw [build_built] <;> simp only [failed, List.append_nil]
  | none =>
    cases had : building.materialize parent description with
    | mk placed id? =>
      cases id? with
      | none =>
        refine ⟨placed, [], [], fun built => ?_, fun built => ?_, nothing⟩ <;>
          rw [build_built] <;> simp only [same, failed, had, List.append_nil]
      | some id =>
        obtain ⟨next, added, others, appends, appendsFewer, related⟩ := under id placed
        refine ⟨next, added, others, fun built => ?_, fun built => ?_, related⟩
        · rw [build_built]
          simp only [failed, had]
          exact appends built
        · rw [build_built]
          simp only [same, failed, had]
          exact appendsFewer built

/-- Two actions that make the same building of any other, but for a directive that the second one
lacks. -/
def Lacks (removed : Directive) (action fewer : Building → Building) : Prop :=
  ∀ building, ∃ next added others, Appends action building next added ∧
    Appends fewer building next others ∧
      Order.Lack removed (added.map Order.of) (others.map Order.of)

variable {removed : Directive} {fewer : Building → Building}

/-- What is done before and after by both actions makes no difference. -/
theorem Lacks.between (lacks : Lacks removed action fewer) {before after : Building → Building}
    (first : ∀ building, ∃ next added, Appends before building next added)
    (last : ∀ building, ∃ next added, Appends after building next added) :
    Lacks removed (fun start => after (action (before start)))
      (fun start => after (fewer (before start))) := by
  intro building
  obtain ⟨prepared, earlier, appendsFirst⟩ := first building
  obtain ⟨middle, added, others, appends, appendsFewer, lack⟩ := lacks prepared
  obtain ⟨ended, further, appendsLast⟩ := last middle
  refine ⟨ended, _, _, (appendsFirst.comp appends).comp appendsLast,
    (appendsFirst.comp appendsFewer).comp appendsLast, ?_⟩
  simpa only [List.map_append] using lack.append (earlier.map Order.of) (further.map Order.of)

/-- A description is built alike with a directive less. -/
theorem Lacks.build {description smaller : Description} (isNew : smaller.isNew = description.isNew)
    (name : smaller.name = description.name)
    (superclass : smaller.superclass = description.superclass)
    (under : ∀ id, Lacks removed (buildUnder id description) (buildUnder id smaller))
    (parent : ViewId) :
    Lacks removed (Building.build parent description) (Building.build parent smaller) :=
  Twins.build (.nothing _) isNew name superclass under parent

/-- **A deleted directive is all that building lacks.** -/
theorem lacks_buildUnder {description smaller : Description}
    (drops : description.Drops removed smaller) (id : ViewId) :
    Lacks removed (buildUnder id description) (buildUnder id smaller) := by
  induction drops generalizing id with
  | here description before after =>
    intro building
    obtain ⟨next, added, appends⟩ :=
      appends_buildAll id description.subviews (building.settle description id)
    refine ⟨next, _, _, (appends_settle building _ id).comp appends,
      (appends_settle building _ id).comp appends, ?_⟩
    exact Order.Lack.directive [] (added.map Order.of) description.templates before after id
  | @inside description before after subview smaller drops under =>
    have same : smaller.isNew = subview.isNew ∧ smaller.name = subview.name ∧
        smaller.superclass = subview.superclass := by
      cases drops <;> exact ⟨rfl, rfl, rfl⟩
    have one := Lacks.build same.1 same.2.1 same.2.2 under id
    have all := one.between (appends_buildAll id before) (appends_buildAll id after)
    have whole : ∀ (subview : Description) (start : Building),
        buildUnder id { description with subviews := before ++ subview :: after } start =
          buildAll id after (build id subview (buildAll id before
            (start.settle { description with subviews := before ++ subview :: after } id))) := by
      intro subview start
      rw [buildUnder, buildAll_append, buildAll]
    intro building
    have settled : ∀ subview : Description,
        Appends (settle · { description with subviews := before ++ subview :: after } id) building
          (building.settle description id)
          [({ description with subviews := before ++ subview :: after }, id)] :=
      fun _ _ => rfl
    obtain ⟨next, added, others, appends, appendsFewer, lack⟩ :=
      all (building.settle description id)
    refine ⟨next, _, _, fun built => (whole _ _).trans ((settled _).comp appends built),
      fun built => (whole _ _).trans ((settled _).comp appendsFewer built), ?_⟩
    -- Both descriptions give the same order for the view itself.
    have extended := lack.append [Order.of (description, id)] []
    rw [List.append_nil, List.append_nil] at extended
    exact extended

end Building

end ViewLayout
