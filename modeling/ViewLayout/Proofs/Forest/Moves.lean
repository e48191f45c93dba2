import ViewLayout.Proofs.Forest.Ancestry

/-!
# Moving views

What creating, detaching, attaching and moving a view do to all views of a forest, and that they
keep it well formed. `view?_detach` and `view?_attach` give every view after a step in terms of the
view before it, and `addSubview_eq_error_iff` says when a view cannot be moved. `Places` is what a
view's new place means for all views, whether the view was there before or is new.
-/

namespace ViewLayout.Forest

variable {forest : Forest}

theorem exists_view?_of_lt_size {id : ViewId} (inside : id < forest.size) :
    ∃ view, forest.view? id = some view :=
  ⟨forest.views[id], List.getElem?_eq_getElem inside⟩

theorem subviewsOf_of_view? {id : ViewId} {view : View} (found : forest.view? id = some view) :
    forest.subviewsOf id = view.subviews := by
  simp only [subviewsOf, found, Option.map_some, Option.getD_some]

theorem parent?_of_view? {id : ViewId} {view : View} (found : forest.view? id = some view) :
    forest.parent? id = view.parent := by
  simp only [parent?, found]
  rfl

section Steps

variable (id parent : ViewId)

@[simp] theorem size_detach : (forest.detach id).size = forest.size := by
  unfold detach
  split <;> simp

@[simp] theorem size_attach : (forest.attach parent id).size = forest.size := by
  simp [attach]

/-- Every view after one is detached: its parent forgets it and it forgets its parent. -/
theorem view?_detach (formed : forest.WellFormed) (other : ViewId) :
    (forest.detach id).view? other =
      (forest.view? other).map fun view =>
        { view with
          parent := if id = other then none else view.parent
          subviews := view.subviews.erase id } := by
  cases found : forest.view? other with
  | none =>
    unfold detach
    split <;> simp [view?_modify, found]
  | some view =>
    have lists := subviewsOf_of_view? found
    have gives := parent?_of_view? found
    unfold detach
    cases linked : forest.parent? id with
    | none =>
      have unlisted : id ∉ view.subviews := by
        rw [← lists, formed.mem_subviewsOf_iff, linked]
        simp
      have top : (if id = other then none else view.parent) = view.parent := by
        split
        · next same => rw [← gives, ← same, linked]
        · rfl
      simp only [found, top, List.erase_of_not_mem unlisted, Option.map_some]
    | some above =>
      have forgotten :
          (forest.modify above fun upper =>
              { upper with subviews := upper.subviews.erase id }).view? other =
            some { view with subviews := view.subviews.erase id } := by
        rw [view?_modify, found]
        by_cases upper : above = other
        · simp only [upper, ↓reduceIte, Option.map_some]
        · have unlisted : id ∉ view.subviews := by
            rw [← lists, formed.mem_subviewsOf_iff, linked]
            exact fun same => upper (Option.some.inj same)
          simp only [upper, ↓reduceIte, List.erase_of_not_mem unlisted]
      rw [view?_modify, forgotten]
      by_cases self : id = other <;> simp only [self, ↓reduceIte, Option.map_some]

/-- Every view after one is attached: it is the last subview of its parent. -/
theorem view?_attach (other : ViewId) :
    (forest.attach parent id).view? other =
      (forest.view? other).map fun view =>
        { view with
          parent := if id = other then some parent else view.parent
          subviews := if parent = other then view.subviews ++ [id] else view.subviews } := by
  cases found : forest.view? other with
  | none => simp [attach, view?_modify, found]
  | some view =>
    by_cases self : id = other <;> by_cases upper : parent = other <;>
      simp [attach, view?_modify, found, self, upper]

/-- Detaching takes away one parent. -/
theorem parent?_detach (formed : forest.WellFormed) (other : ViewId) :
    (forest.detach id).parent? other = if id = other then none else forest.parent? other := by
  simp only [parent?, view?_detach id formed]
  cases forest.view? other <;> by_cases self : id = other <;> simp [self]

/-- Detaching takes a view out of all lists of subviews. -/
theorem subviewsOf_detach (formed : forest.WellFormed) (other : ViewId) :
    (forest.detach id).subviewsOf other = (forest.subviewsOf other).erase id := by
  simp only [subviewsOf, view?_detach id formed]
  cases forest.view? other <;> rfl

/-- Attaching gives one view a parent. -/
theorem parent?_attach (inside : id < forest.size) (other : ViewId) :
    (forest.attach parent id).parent? other =
      if id = other then some parent else forest.parent? other := by
  simp only [parent?, view?_attach]
  by_cases self : id = other
  · obtain ⟨view, found⟩ := exists_view?_of_lt_size (self ▸ inside)
    simp [self, found]
  · cases forest.view? other <;> simp [self]

/-- Attaching adds a view behind the subviews of its parent. -/
theorem subviewsOf_attach (inside : parent < forest.size) (other : ViewId) :
    (forest.attach parent id).subviewsOf other =
      forest.subviewsOf other ++ if parent = other then [id] else [] := by
  simp only [subviewsOf, view?_attach]
  by_cases upper : parent = other
  · obtain ⟨view, found⟩ := exists_view?_of_lt_size (upper ▸ inside)
    simp [upper, found]
  · cases forest.view? other <;> simp [upper]

/-- A forest stays well formed when a view is detached. -/
theorem WellFormed.detach (formed : forest.WellFormed) : (forest.detach id).WellFormed where
  count_subviews := by
    intro upper other
    rw [subviewsOf_detach id formed, parent?_detach id formed]
    by_cases self : id = other
    · have once := formed.count_subviews upper other
      rw [self, List.count_erase_self]
      simp only [↓reduceIte, reduceCtorEq]
      split at once <;> omega
    · rw [List.count_erase_of_ne (Ne.symm self), formed.count_subviews]
      simp only [self, ↓reduceIte]
  acyclic := by
    intro other cycle
    refine formed.acyclic other (Relation.TransGen.mono (fun lower upper step => ?_) _ _ cycle)
    rw [HasParent, parent?_detach id formed] at step
    split at step
    · contradiction
    · exact step

/-- What is above what after a view got a parent: what was so before, and all that is at or
above the parent is above all that is at or below the view. -/
theorem above_attach_iff (inside : id < forest.size) (top : forest.parent? id = none)
    (outside : ¬ forest.AtOrAbove id parent) {upper lower : ViewId} :
    (forest.attach parent id).Above upper lower ↔
      forest.Above upper lower ∨ forest.AtOrAbove id lower ∧ forest.AtOrAbove upper parent := by
  have step_iff {low high : ViewId} : (forest.attach parent id).HasParent low high ↔
      id = low ∧ parent = high ∨ forest.HasParent low high := by
    rw [HasParent, parent?_attach id parent inside]
    by_cases self : id = low
    · have none : ¬ forest.HasParent low high := by simp [HasParent, ← self, top]
      simp [self, none]
    · simp [self, HasParent]
  have old {low high : ViewId} (step : forest.HasParent low high) :
      (forest.attach parent id).HasParent low high := step_iff.2 (.inr step)
  constructor
  · intro above
    induction above with
    | single step =>
      rcases step_iff.1 step with ⟨rfl, rfl⟩ | step
      · exact .inr ⟨.refl, .refl⟩
      · exact .inl (.single step)
    | tail _ step inner =>
      rcases step_iff.1 step with ⟨rfl, rfl⟩ | step
      · rcases inner with before | ⟨_, returned⟩
        · exact .inr ⟨before.to_reflTransGen, .refl⟩
        · exact absurd returned outside
      · rcases inner with before | ⟨below, reached⟩
        · exact .inl (before.tail step)
        · exact .inr ⟨below, reached.tail step⟩
  · rintro (before | ⟨below, reached⟩)
    · exact Relation.TransGen.mono (fun _ _ => old) _ _ before
    · have linked : (forest.attach parent id).HasParent id parent := step_iff.2 (.inl ⟨rfl, rfl⟩)
      have start := Relation.ReflTransGen.mono (fun _ _ => old) _ _ below
      have finish := Relation.ReflTransGen.mono (fun _ _ => old) _ _ reached
      exact (Relation.TransGen.head' linked finish).trans_right start

/-- A forest stays well formed when a view without a parent is attached, unless to itself or to
what is below it. -/
theorem WellFormed.attach (formed : forest.WellFormed) (inside : id < forest.size)
    (parentInside : parent < forest.size) (top : forest.parent? id = none)
    (outside : ¬ forest.AtOrAbove id parent) : (forest.attach parent id).WellFormed where
  count_subviews := by
    intro upper other
    rw [subviewsOf_attach id parent parentInside, parent?_attach id parent inside,
      List.count_append, formed.count_subviews]
    by_cases self : id = other
    · subst self
      by_cases same : parent = upper <;> simp [top, same]
    · by_cases same : parent = upper <;> simp [self, same]
  acyclic := by
    intro other cycle
    rcases (above_attach_iff id parent inside top outside).1 cycle with before | ⟨below, reached⟩
    · exact formed.acyclic other before
    · exact outside (reached.trans below)

/-- A view cannot be moved below itself, and only there. -/
theorem addSubview_eq_error_iff (formed : forest.WellFormed) :
    (∃ fault, forest.addSubview parent id = .error fault) ↔ forest.AtOrAbove id parent := by
  rw [← formed.isAncestorOf_iff, addSubview]
  split
  · next guarded => simp [guarded]
  · next free => simp [free]

variable {id parent} {next : Forest}

/-- A move succeeds exactly if it makes no cycle, and then detaches and attaches. -/
theorem addSubview_eq_ok_iff (formed : forest.WellFormed) :
    forest.addSubview parent id = .ok next ↔
      ¬ forest.AtOrAbove id parent ∧ (forest.detach id).attach parent id = next := by
  rw [← formed.isAncestorOf_iff, addSubview]
  split
  · next guarded => simp [guarded]
  · next free => simp [free]

theorem size_addSubview (formed : forest.WellFormed)
    (moved : forest.addSubview parent id = .ok next) : next.size = forest.size := by
  obtain ⟨_, rfl⟩ := (addSubview_eq_ok_iff formed).1 moved
  simp

/-- Every view after one is moved. -/
theorem view?_addSubview (formed : forest.WellFormed)
    (moved : forest.addSubview parent id = .ok next) (other : ViewId) :
    next.view? other =
      (forest.view? other).map fun view =>
        { view with
          parent := if id = other then some parent else view.parent
          subviews := view.subviews.erase id ++ if parent = other then [id] else [] } := by
  obtain ⟨_, rfl⟩ := (addSubview_eq_ok_iff formed).1 moved
  rw [view?_attach, view?_detach id formed, Option.map_map]
  refine congrArg (Option.map · _) (funext fun view => ?_)
  by_cases self : id = other <;> by_cases upper : parent = other <;> simp [self, upper]

/-- A move changes one parent. -/
theorem parent?_addSubview (formed : forest.WellFormed) (inside : id < forest.size)
    (moved : forest.addSubview parent id = .ok next) (other : ViewId) :
    next.parent? other = if id = other then some parent else forest.parent? other := by
  obtain ⟨_, rfl⟩ := (addSubview_eq_ok_iff formed).1 moved
  rw [parent?_attach id parent (by simpa using inside), parent?_detach id formed]
  by_cases self : id = other <;> simp [self]

/-- A move takes a view out of one list of subviews and adds it to another. -/
theorem subviewsOf_addSubview (formed : forest.WellFormed) (parentInside : parent < forest.size)
    (moved : forest.addSubview parent id = .ok next) (other : ViewId) :
    next.subviewsOf other =
      (forest.subviewsOf other).erase id ++ if parent = other then [id] else [] := by
  obtain ⟨_, rfl⟩ := (addSubview_eq_ok_iff formed).1 moved
  rw [subviewsOf_attach id parent (by simpa using parentInside), subviewsOf_detach id formed]

/-- What is above after detaching was above before. -/
theorem AtOrAbove.of_detach (formed : forest.WellFormed) {upper lower : ViewId}
    (above : (forest.detach id).AtOrAbove upper lower) : forest.AtOrAbove upper lower := by
  refine Relation.ReflTransGen.mono (fun low high step => ?_) _ _ above
  rw [HasParent, parent?_detach id formed] at step
  split at step
  · contradiction
  · exact step

/-- **A forest stays well formed when a view is moved.** -/
theorem WellFormed.addSubview (formed : forest.WellFormed) (inside : id < forest.size)
    (parentInside : parent < forest.size) (moved : forest.addSubview parent id = .ok next) :
    next.WellFormed := by
  obtain ⟨outside, rfl⟩ := (addSubview_eq_ok_iff formed).1 moved
  have top : (forest.detach id).parent? id = none := by simp [parent?_detach id formed]
  exact (formed.detach id).attach id parent (by simpa using inside) (by simpa using parentInside)
    top fun above => outside (above.of_detach formed)

/-- Attaching a view to what is below it would put it above itself. -/
theorem above_self_of_atOrAbove (formed : forest.WellFormed) (inside : id < forest.size)
    (guarded : forest.AtOrAbove id parent) :
    ((forest.detach id).attach parent id).Above id id := by
  have linked (other : ViewId) : ((forest.detach id).attach parent id).parent? other =
      if id = other then some parent else forest.parent? other := by
    rw [parent?_attach id parent (by simpa using inside), parent?_detach id formed]
    by_cases self : id = other <;> simp [self]
  -- The way from the parent up to the view does not go through the view, whose parent alone
  -- changed.
  have kept : ∀ low, forest.AtOrAbove id low →
      ((forest.detach id).attach parent id).AtOrAbove id low := by
    intro low above
    induction above using Relation.ReflTransGen.head_induction_on with
    | refl => exact .refl
    | @head low high step rest inner =>
      have other : id ≠ low := by
        rintro rfl
        exact formed.acyclic id (Relation.TransGen.head' step rest)
      refine .head ?_ inner
      rw [HasParent, linked low, if_neg other]
      exact step
  exact Relation.TransGen.head' ((linked id).trans (if_pos rfl)) (kept parent guarded)

end Steps

section Agreement

variable {next : Forest}

/-- Forests with the same parents have the same links. -/
theorem hasParent_eq_of_parent? (parents : ∀ id, next.parent? id = forest.parent? id) :
    next.HasParent = forest.HasParent := by
  funext lower upper
  exact congrArg (· = some upper) (parents lower)

/-- Whether a forest is well formed depends only on parents and subviews. -/
theorem WellFormed.of_agree (formed : forest.WellFormed)
    (parents : ∀ id, next.parent? id = forest.parent? id)
    (lists : ∀ id, next.subviewsOf id = forest.subviewsOf id) : next.WellFormed where
  count_subviews := by
    intro parent id
    rw [lists, parents, formed.count_subviews]
  acyclic := by
    intro id cycle
    rw [Above, hasParent_eq_of_parent? parents] at cycle
    exact formed.acyclic id cycle

variable {change : View → View}

/-- A change that keeps parents keeps all of them. -/
theorem parent?_modify (keeps : ∀ view, (change view).parent = view.parent) (id other : ViewId) :
    (forest.modify id change).parent? other = forest.parent? other := by
  simp only [parent?, view?_modify]
  by_cases same : id = other
  · cases forest.view? other <;> simp [same, keeps]
  · simp [same]

/-- A change that keeps subviews keeps all of them. -/
theorem subviewsOf_modify (keeps : ∀ view, (change view).subviews = view.subviews)
    (id other : ViewId) : (forest.modify id change).subviewsOf other = forest.subviewsOf other := by
  simp only [subviewsOf, view?_modify]
  by_cases same : id = other
  · cases forest.view? other <;> simp [same, keeps]
  · simp [same]

end Agreement

section Creation

variable (name : String) (superclass : Option String)

/-- There is nothing wrong with a forest without views. -/
theorem WellFormed.empty : ({} : Forest).WellFormed where
  count_subviews := by simp [subviewsOf, parent?, view?]
  acyclic := fun _ => not_above_of_parent?_eq_none (by simp [parent?, view?])

theorem size_create : (forest.create name superclass).2.size = forest.size + 1 := by
  simp [create, size]

/-- Every view after one is created: the new one is the last. -/
theorem view?_create (other : ViewId) :
    (forest.create name superclass).2.view? other =
      if forest.size = other then some { name, superclass } else forest.view? other := by
  have grown : (forest.create name superclass).2.view? other =
      (forest.views ++ [({ name, superclass } : View)])[other]? := rfl
  have bound : forest.size = forest.views.length := rfl
  rw [grown, view?]
  rcases Nat.lt_trichotomy other forest.size with below | same | above
  · rw [if_neg (by omega), List.getElem?_append_left (by omega)]
  · rw [if_pos same.symm, same, bound, List.getElem?_concat_length]
  · have beyond : (forest.views ++ [({ name, superclass } : View)]).length ≤ other := by
      rw [List.length_append, List.length_singleton]
      omega
    rw [if_neg (by omega), List.getElem?_eq_none beyond, List.getElem?_eq_none (by omega)]

/-- A view is made under another one by creating it and moving it there. -/
theorem createUnder_eq_ok_iff {parent id : ViewId} {next : Forest} :
    forest.createUnder parent name superclass = .ok (id, next) ↔
      id = forest.size ∧
        (forest.create name superclass).2.addSubview parent forest.size = .ok next := by
  change (do
    let moved ← (forest.create name superclass).2.addSubview parent forest.size
    Except.ok (forest.size, moved)) = _ ↔ _
  cases (forest.create name superclass).2.addSubview parent forest.size with
  | error fault => simp [bind, Except.bind]
  | ok grown => simp [bind, Except.bind, eq_comm]

/-- The next number has no view yet. -/
theorem view?_size : forest.view? forest.size = none :=
  List.getElem?_eq_none (Nat.le_refl _)

/-- Making a view changes no parent. -/
theorem parent?_create (other : ViewId) :
    (forest.create name superclass).2.parent? other = forest.parent? other := by
  simp only [parent?, view?_create]
  by_cases same : forest.size = other
  · simp [← same, view?_size]
  · simp [same]

/-- Making a view changes no subviews. -/
theorem subviewsOf_create (other : ViewId) :
    (forest.create name superclass).2.subviewsOf other = forest.subviewsOf other := by
  simp only [subviewsOf, view?_create]
  by_cases same : forest.size = other
  · simp [← same, view?_size]
  · simp [same]

/-- A forest stays well formed when a view is created. -/
theorem WellFormed.create (formed : forest.WellFormed) :
    (forest.create name superclass).2.WellFormed :=
  formed.of_agree (parent?_create name superclass) (subviewsOf_create name superclass)

end Creation

/-- A view's new place: it is the last subview of its parent, and all else is as before. -/
structure Places (forest : Forest) (parent id : ViewId) (next : Forest) : Prop where
  formed : next.WellFormed
  /-- The view was not above the place. -/
  outside : ¬ forest.AtOrAbove id parent
  parent?_eq : ∀ other,
    next.parent? other = if id = other then some parent else forest.parent? other
  subviewsOf_eq : ∀ other,
    next.subviewsOf other =
      (forest.subviewsOf other).erase id ++ if parent = other then [id] else []

/-- A view that can be moved gets its new place. -/
theorem WellFormed.places_addSubview (formed : forest.WellFormed) {parent id : ViewId}
    (inside : id < forest.size) (parentInside : parent < forest.size) {next : Forest}
    (moved : forest.addSubview parent id = .ok next) : forest.Places parent id next where
  formed := formed.addSubview inside parentInside moved
  outside := ((addSubview_eq_ok_iff formed).1 moved).1
  parent?_eq := parent?_addSubview formed inside moved
  subviewsOf_eq := subviewsOf_addSubview formed parentInside moved

/-- A new view can be made under any view, where it gets the last place. -/
theorem WellFormed.places_createUnder (formed : forest.WellFormed) {parent : ViewId}
    (parentInside : parent < forest.size) (name : String) (superclass : Option String) :
    ∃ next, forest.createUnder parent name superclass = .ok (forest.size, next) ∧
      next.size = forest.size + 1 ∧ forest.Places parent forest.size next := by
  have grownFormed := formed.create name superclass
  have grownSize : (forest.create name superclass).2.size = forest.size + 1 :=
    size_create name superclass
  have parents : ∀ id, (forest.create name superclass).2.parent? id = forest.parent? id :=
    parent?_create name superclass
  have lists : ∀ id, (forest.create name superclass).2.subviewsOf id = forest.subviewsOf id :=
    subviewsOf_create name superclass
  have outside : ¬ forest.AtOrAbove forest.size parent := by
    intro above
    rcases atOrAbove_iff_eq_or_above.1 above with same | above
    · exact absurd same.symm (Nat.ne_of_lt parentInside)
    · obtain ⟨low, _, step⟩ := Relation.TransGen.tail'_iff.1 above
      exact Nat.lt_irrefl _ (formed.parent_lt_size step)
  have grownOutside : ¬ (forest.create name superclass).2.AtOrAbove forest.size parent := by
    rwa [AtOrAbove, hasParent_eq_of_parent? parents]
  have moved := (addSubview_eq_ok_iff grownFormed).2 ⟨grownOutside, rfl⟩
  have freshInside : forest.size < (forest.create name superclass).2.size := by
    rw [grownSize]
    exact Nat.lt_succ_self _
  have places := grownFormed.places_addSubview freshInside (Nat.lt_trans parentInside freshInside)
    moved
  refine ⟨_, ?_, (size_addSubview grownFormed moved).trans grownSize, places.formed, outside,
    fun other => by rw [places.parent?_eq, parents], fun other => by
      rw [places.subviewsOf_eq, lists]⟩
  exact (createUnder_eq_ok_iff name superclass).2 ⟨rfl, moved⟩

/-- Every view after one is made under another one: the new one is there, without subviews, and
its parent lists it last. -/
theorem WellFormed.view?_createUnder (formed : forest.WellFormed) {parent id : ViewId}
    {name : String} {superclass : Option String} {next : Forest}
    (made : forest.createUnder parent name superclass = .ok (id, next)) (other : ViewId) :
    next.view? other =
      if forest.size = other then
        some
          { name, superclass
            parent := some parent
            subviews := if parent = other then [forest.size] else [] }
      else
        (forest.view? other).map fun view =>
          { view with
            subviews := view.subviews ++ if parent = other then [forest.size] else [] } := by
  have grownFormed := formed.create name superclass
  obtain ⟨rfl, moved⟩ := (createUnder_eq_ok_iff name superclass).1 made
  rw [view?_addSubview grownFormed moved, view?_create]
  by_cases new : forest.size = other
  · simp [new]
  · rw [if_neg new, if_neg new]
    cases found : forest.view? other with
    | none => rfl
    | some view =>
      -- No view lists the number of a view that is not there yet.
      have unlisted : forest.size ∉ view.subviews := by
        rw [← subviewsOf_of_view? found, formed.mem_subviewsOf_iff]
        exact fun linked => Nat.lt_irrefl _ (lt_size_of_parent? linked)
      simp [List.erase_of_not_mem unlisted, new]

namespace Places

variable {parent id top : ViewId} {next : Forest}

/-- What was above the place of a view is so still. -/
theorem atOrAbove_parent (places : forest.Places parent id next)
    (under : forest.AtOrAbove top parent) : next.AtOrAbove top parent := by
  -- The way up from the place does not meet the view, whose parent alone changed.
  have kept : ∀ low, forest.AtOrAbove top low → ¬ forest.AtOrAbove id low →
      next.AtOrAbove top low := by
    intro low above
    induction above using Relation.ReflTransGen.head_induction_on with
    | refl => exact fun _ => .refl
    | @head low high step _ inner =>
      intro free
      have other : id ≠ low := by
        rintro rfl
        exact free .refl
      have link : next.HasParent low high := by rwa [HasParent, places.parent?_eq, if_neg other]
      exact .head link (inner fun above => free (.head step above))
  exact kept parent under places.outside

/-- What is at or above the place of a view stays at or above all that it was so before, and
gets at or above the view. -/
theorem atOrAbove (places : forest.Places parent id next) (under : forest.AtOrAbove top parent)
    {low : ViewId} (below : low = id ∨ forest.AtOrAbove top low) : next.AtOrAbove top low := by
  have link : next.HasParent id parent := by rw [HasParent, places.parent?_eq, if_pos rfl]
  have here : next.AtOrAbove top id := .head link (places.atOrAbove_parent under)
  rcases below with rfl | below
  · exact here
  · induction below using Relation.ReflTransGen.head_induction_on with
    | refl => exact .refl
    | @head low high step _ inner =>
      by_cases same : id = low
      · exact same ▸ here
      · have kept : next.HasParent low high := by rwa [HasParent, places.parent?_eq, if_neg same]
        exact .head kept inner

/-- What is above the new parent keeps its own. -/
theorem parent?_of_atOrAbove (places : forest.Places parent id next)
    (under : forest.AtOrAbove top parent) : next.parent? top = forest.parent? top := by
  rw [places.parent?_eq, if_neg]
  rintro rfl
  exact places.outside under

end Places

end ViewLayout.Forest
