import ViewLayout.Proofs.Forest.Moves

/-!
# Histories of a forest

A forest is made by creating views, moving them and taking them out, one operation after the other.
`Operation.perform` carries an operation out change by change, so that a refusal could leave a
forest half changed; `run_moveUnder` says that it leaves it as it was. `wellFormed_after` is the
invariant of all histories, and `after_exact` the guard of a move in whatever forest they lead to.
-/

namespace ViewLayout.Forest

/-- Changes to a forest, one after the other. Those before a refusal stay made. -/
abbrev Change : Type → Type :=
  ExceptT HierarchyError (StateM Forest)

/-- Carries changes out: whether they were refused, and the forest as they leave it. -/
def Change.run (changes : Change Unit) (forest : Forest) : Except HierarchyError Unit × Forest :=
  StateT.run (ExceptT.run changes) forest

/-- Makes a view the last subview of another one, change by change. -/
def moveUnder (parent id : ViewId) : Change Unit := do
  let forest ← get
  if forest.isAncestorOf id parent then
    throw (.wouldContainItself (forest.nameOf id) (forest.nameOf parent))
  if (forest.parent? id).isSome then
    modifyThe Forest (·.detach id)
  modifyThe Forest (·.modify id fun moved => { moved with parent := some parent })
  modifyThe Forest (·.modify parent fun above => { above with subviews := above.subviews ++ [id] })

/-- Something that is done to a forest. -/
inductive Operation
  | create (name : String) (superclass : Option String) (parent : Option ViewId)
  | add (parent id : ViewId)
  | remove (id : ViewId)

/-- Carries an operation out. One that is about no view does nothing. -/
def Operation.perform : Operation → Change Unit
  | create name superclass none => modifyThe Forest fun forest => (forest.create name superclass).2
  | create name superclass (some parent) => do
    let forest ← get
    if parent < forest.size then
      set (forest.create name superclass).2
      moveUnder parent forest.size
  | add parent id => do
    let forest ← get
    if parent < forest.size ∧ id < forest.size then moveUnder parent id
  | remove id => modifyThe Forest (·.detach id)

/-- The forest after operations that begin with no views. Those that are refused are passed over. -/
def after (operations : List Operation) : Forest :=
  operations.foldl (fun forest operation => (operation.perform.run forest).2) {}

variable {forest : Forest}

section Run

variable (next : Change Unit) (given : Forest → Change Unit) (fault : HierarchyError)

theorem run_get_bind : Change.run (get >>= given) forest = (given forest).run forest := rfl

theorem run_set_bind (other : Forest) :
    Change.run (set other >>= fun _ => next) forest = next.run other := rfl

theorem run_throw_bind :
    Change.run (throw fault >>= fun _ : Unit => next) forest = (.error fault, forest) := rfl

end Run

/-- Nothing changes if a view without a parent is detached. -/
theorem detach_of_parent?_eq_none {id : ViewId} (top : forest.parent? id = none) :
    forest.detach id = forest := by
  simp only [detach, top]

/-- A refused move changes nothing, and any other move is made in full. -/
theorem run_moveUnder (parent id : ViewId) :
    (moveUnder parent id).run forest =
      match forest.addSubview parent id with
      | .ok next => (.ok (), next)
      | .error fault => (.error fault, forest) := by
  rw [addSubview, moveUnder, run_get_bind]
  by_cases guarded : forest.isAncestorOf id parent = true
  · rw [if_pos guarded, if_pos guarded]
    exact run_throw_bind ..
  · rw [if_neg guarded, if_neg guarded]
    cases linked : forest.parent? id with
    | none =>
      rw [detach_of_parent?_eq_none linked]
      rfl
    | some above => rfl

/-- A move keeps a forest well formed, also if it is refused. -/
theorem WellFormed.moveUnder (formed : forest.WellFormed) {parent id : ViewId}
    (inside : id < forest.size) (parentInside : parent < forest.size) :
    ((moveUnder parent id).run forest).2.WellFormed := by
  rw [run_moveUnder]
  cases moved : forest.addSubview parent id with
  | error fault => exact formed
  | ok next => exact formed.addSubview inside parentInside moved

/-- Every operation keeps a forest well formed, also if it is refused. -/
theorem WellFormed.perform (formed : forest.WellFormed) (operation : Operation) :
    (operation.perform.run forest).2.WellFormed := by
  cases operation with
  | create name superclass parent =>
    cases parent with
    | none => exact formed.create name superclass
    | some parent =>
      rw [Operation.perform, run_get_bind]
      by_cases known : parent < forest.size
      · have grown : (forest.create name superclass).2.size = forest.size + 1 :=
          size_create name superclass
        rw [if_pos known, run_set_bind]
        refine (formed.create name superclass).moveUnder ?_ ?_ <;> rw [grown]
        · exact Nat.lt_succ_self _
        · exact Nat.lt_succ_of_lt known
      · rw [if_neg known]
        exact formed
  | add parent id =>
    rw [Operation.perform, run_get_bind]
    by_cases known : parent < forest.size ∧ id < forest.size
    · rw [if_pos known]
      exact formed.moveUnder known.2 known.1
    · rw [if_neg known]
      exact formed
  | remove id => exact formed.detach id

/-- Every history leads to a well-formed forest. -/
theorem wellFormed_after (operations : List Operation) : (after operations).WellFormed := by
  suffices kept : ∀ start : Forest, start.WellFormed →
      (operations.foldl (fun forest operation => (operation.perform.run forest).2) start).WellFormed
    from kept {} .empty
  induction operations with
  | nil => exact fun start formed => formed
  | cons operation rest inner => exact fun start formed => inner _ (formed.perform operation)

/-- All walks towards the root end, at a view without a parent, and meet all views above. -/
structure WalksEnd (forest : Forest) : Prop where
  ancestors_eq : ∀ id,
    forest.ancestors id =
      match forest.parent? id with
      | none => []
      | some parent => parent :: forest.ancestors parent
  mem_ancestors_iff : ∀ upper lower, upper ∈ forest.ancestors lower ↔ forest.Above upper lower
  parent?_root : ∀ id, forest.parent? (forest.root id) = none
  root_atOrAbove : ∀ id, forest.AtOrAbove (forest.root id) id

/-- What comes of making a view the last subview of another one. -/
structure MovesExactly (forest : Forest) (parent id : ViewId)
    (outcome : Except HierarchyError Unit × Forest) : Prop where
  /-- Refused is a view that is the parent or above it. -/
  refused_iff : (∃ fault, outcome.1 = .error fault) ↔ id = parent ∨ forest.Above id parent
  /-- So is a move, and no other, that would put a view above itself. -/
  refused_iff_cycle : (∃ fault, outcome.1 = .error fault) ↔
    ∃ view, ((forest.detach id).attach parent id).Above view view
  /-- A refused move changes nothing. -/
  unchanged : ∀ fault, outcome.1 = .error fault → outcome.2 = forest
  /-- The view becomes the last subview of its parent, also if it was one before. -/
  last : outcome.1 = .ok () →
    outcome.2.subviewsOf parent = (forest.subviewsOf parent).erase id ++ [id]
  /-- All other views list theirs as before, without the view. -/
  lists : outcome.1 = .ok () → ∀ other, other ≠ parent →
    outcome.2.subviewsOf other = (forest.subviewsOf other).erase id
  /-- A view that was not the old parent either lists the same subviews. -/
  others : outcome.1 = .ok () → ∀ other, other ≠ parent → forest.parent? id ≠ some other →
    outcome.2.subviewsOf other = forest.subviewsOf other
  /-- The view gets the parent, and all others keep theirs. -/
  parents : outcome.1 = .ok () → ∀ other,
    outcome.2.parent? other = if id = other then some parent else forest.parent? other
  /-- Nothing else about any view changes. -/
  views : outcome.1 = .ok () → ∀ other,
    outcome.2.view? other =
      (forest.view? other).map fun view =>
        { view with
          parent := outcome.2.parent? other
          subviews := outcome.2.subviewsOf other }

theorem WellFormed.walksEnd (formed : forest.WellFormed) : forest.WalksEnd where
  ancestors_eq := formed.ancestors_eq
  mem_ancestors_iff := fun _ _ => formed.mem_ancestors_iff
  parent?_root := fun id => (formed.parent?_root id).1
  root_atOrAbove := fun id => (formed.parent?_root id).2

/-- A move is refused exactly if it would put a view above itself. -/
theorem WellFormed.atOrAbove_iff_cycle (formed : forest.WellFormed) {parent id : ViewId}
    (inside : id < forest.size) (parentInside : parent < forest.size) :
    forest.AtOrAbove id parent ↔
      ∃ view, ((forest.detach id).attach parent id).Above view view := by
  constructor
  · intro guarded
    exact ⟨id, above_self_of_atOrAbove formed inside guarded⟩
  · rintro ⟨view, cycle⟩
    by_contra outside
    have moved := (addSubview_eq_ok_iff formed).2 ⟨outside, rfl⟩
    exact (formed.addSubview inside parentInside moved).acyclic view cycle

/-- Moves in a well-formed forest are exact. -/
theorem WellFormed.movesExactly (formed : forest.WellFormed) {parent id : ViewId}
    (inside : id < forest.size) (parentInside : parent < forest.size) :
    forest.MovesExactly parent id ((Forest.moveUnder parent id).run forest) := by
  have cycle := formed.atOrAbove_iff_cycle inside parentInside
  have guard : forest.AtOrAbove id parent ↔ id = parent ∨ forest.Above id parent :=
    atOrAbove_iff_eq_or_above
  have refused := addSubview_eq_error_iff id parent formed
  rw [run_moveUnder]
  cases moved : forest.addSubview parent id with
  | error fault =>
    have above : forest.AtOrAbove id parent := refused.1 ⟨fault, moved⟩
    exact {
      refused_iff := by simp [guard.1 above]
      refused_iff_cycle := by simp [cycle.1 above]
      unchanged := fun _ _ => rfl
      last := by simp
      lists := by simp
      others := by simp
      parents := by simp
      views := by simp }
  | ok next =>
    have free : ¬ forest.AtOrAbove id parent := ((addSubview_eq_ok_iff formed).1 moved).1
    have places := formed.places_addSubview inside parentInside moved
    have lists (other : ViewId) (distinct : other ≠ parent) :
        next.subviewsOf other = (forest.subviewsOf other).erase id := by
      rw [places.subviewsOf_eq, if_neg (Ne.symm distinct), List.append_nil]
    exact {
      refused_iff := by simpa using (not_congr guard).1 free
      refused_iff_cycle := by simpa using (not_congr cycle).1 free
      unchanged := by simp
      last := fun _ => by simpa using places.subviewsOf_eq parent
      lists := fun _ => lists
      others := fun _ other distinct above => by
        have unlisted : id ∉ forest.subviewsOf other := fun listed =>
          above (formed.mem_subviewsOf_iff.1 listed)
        exact (lists other distinct).trans (List.erase_of_not_mem unlisted)
      parents := fun _ => places.parent?_eq
      views := fun _ other => by
        cases found : forest.view? other with
        | none => simp [view?_addSubview formed moved, found]
        | some view =>
          have now := view?_addSubview formed moved other
          rw [found, Option.map_some] at now
          simp only [now, parent?_of_view? now, subviewsOf_of_view? now, Option.map_some] }

/-- **In every forest that operations lead to from no views, walks end and moves are exact**: no
view is above itself, and every view is listed once by its parent and by no other view; a move is
refused if it would put the view above itself, which changes nothing, and is made in full
otherwise. -/
theorem after_exact (operations : List Operation) :
    (after operations).WellFormed ∧ (after operations).WalksEnd ∧
      ∀ parent id, parent < (after operations).size → id < (after operations).size →
        (after operations).MovesExactly parent id
          ((Operation.add parent id).perform.run (after operations)) := by
  have formed := wellFormed_after operations
  refine ⟨formed, formed.walksEnd, fun parent id parentInside inside => ?_⟩
  have known : (Operation.add parent id).perform.run (after operations) =
      (moveUnder parent id).run (after operations) := by
    rw [Operation.perform, run_get_bind, if_pos ⟨parentInside, inside⟩]
  rw [known]
  exact formed.movesExactly inside parentInside

/-- A view with two subviews, the second of which has one too. -/
def nursery : List Operation :=
  [.create "window" none none, .create "header" none (some 0), .create "body" none (some 0),
    .create "label" none (some 2)]

/-- The first subview can be made the last one, and the window cannot go below the label. -/
theorem after_nursery_exact :
    ((Operation.add 0 1).perform.run (after nursery)).2.subviewsOf 0 = [2, 1] ∧
      ∃ fault, ((Operation.add 3 0).perform.run (after nursery)).1 = .error fault := by
  obtain ⟨_, walks, moves⟩ := after_exact nursery
  constructor
  · exact (moves 0 1 (by decide) (by decide)).last rfl
  · have above : (after nursery).Above 0 3 := (walks.mem_ancestors_iff 0 3).1 (by decide)
    exact (moves 3 0 (by decide) (by decide)).refused_iff.2 (.inr above)

end ViewLayout.Forest
