import ViewLayout.Emitter
import ViewLayout.Proofs.Constraint.Bare
import ViewLayout.Proofs.Forest.Moves

/-!
# Emitting constraints

Handing constraints to the emitter adds to the ledger, to the emitter's records and to what is
applied to the targets, and leaves a scene like it was in everything that directives read. In a
scene whose records are all in the ledger, `emitted_emitAll` and `applied_emitAll` say which records
there are after any constraints.
-/

namespace ViewLayout

/-- The environment by which an emitter activates constraints, if it records them. -/
def Emitter.environment? : Emitter → Option SizeClasses
  | recording environment _ => some environment
  | discarding => none

namespace Scene

/-- Hands constraints to the emitter, one after the other. -/
def emitAll (scene : Scene) (specs : List Spec) : Scene :=
  specs.foldl (fun scene spec => (scene.emit spec).1) scene

/-- The events of a step in a scene. -/
def told (scene : Scene) : Step → List Event
  | .notice notice => [.reported notice]
  | .spec spec => (scene.emit spec).2

/-- Two scenes that differ only in what was emitted. -/
structure Alike (scene other : Scene) : Prop where
  forest : scene.forest.bare = other.forest.bare
  index : scene.index = other.index
  environment : scene.emitter.environment? = other.emitter.environment?

variable {scene other third : Scene}

theorem Alike.trans (first : scene.Alike other) (second : other.Alike third) :
    scene.Alike third :=
  ⟨first.forest.trans second.forest, first.index.trans second.index,
    first.environment.trans second.environment⟩

theorem Alike.symm (alike : scene.Alike other) : other.Alike scene :=
  ⟨alike.forest.symm, alike.index.symm, alike.environment.symm⟩

theorem Alike.nameOf_eq (alike : scene.Alike other) (id : ViewId) :
    scene.forest.nameOf id = other.forest.nameOf id := by
  rw [← Forest.nameOf_bare, alike.forest, Forest.nameOf_bare]

theorem Alike.parent?_eq (alike : scene.Alike other) (id : ViewId) :
    scene.forest.parent? id = other.forest.parent? id := by
  rw [← Forest.parent?_bare, alike.forest, Forest.parent?_bare]

theorem Alike.wellFormed (alike : scene.Alike other) (formed : other.forest.WellFormed) :
    scene.forest.WellFormed := by
  refine formed.of_agree alike.parent?_eq fun id => ?_
  rw [← Forest.subviewsOf_bare, alike.forest, Forest.subviewsOf_bare]

theorem Alike.size_eq (alike : scene.Alike other) : scene.forest.size = other.forest.size := by
  rw [← Forest.size_bare, alike.forest, Forest.size_bare]

/-- Emitting a constraint leaves a scene like it was. -/
theorem alike_emit (scene : Scene) (spec : Spec) : (scene.emit spec).1.Alike scene := by
  unfold emit
  cases emitter : scene.emitter with
  | discarding => exact ⟨rfl, rfl, rfl⟩
  | recording environment emitted =>
    refine ⟨?_, rfl, ?_⟩
    · apply Forest.bare_modify
      exact fun _ => rfl
    · rw [emitter]
      rfl

/-- Emitting specs leaves a scene alike. -/
theorem alike_emitAll (scene : Scene) (specs : List Spec) :
    (scene.emitAll specs).Alike scene := by
  induction specs generalizing scene with
  | nil => exact ⟨rfl, rfl, rfl⟩
  | cons spec rest inner => exact (inner _).trans (alike_emit scene spec)

/-- What is told of a scene depends on no records. -/
theorem Alike.told_eq (alike : scene.Alike other) : scene.told = other.told := by
  funext step
  cases step with
  | notice notice => rfl
  | spec spec =>
    have named := alike.nameOf_eq spec.target
    have same := alike.environment
    simp only [told, emit]
    cases first : scene.emitter <;> cases second : other.emitter <;>
      simp_all [Emitter.environment?]

/-- Specs are emitted one after the other. -/
theorem emitAll_append (scene : Scene) (first second : List Spec) :
    scene.emitAll (first ++ second) = (scene.emitAll first).emitAll second :=
  List.foldl_append ..

/-- Steps that are carried out emit their constraints, and their events are those of each. -/
theorem play_eq (scene : Scene) (steps : List Step) :
    scene.play steps =
      (scene.emitAll (steps.filterMap Step.spec?), steps.flatMap scene.told) := by
  induction steps generalizing scene with
  | nil => rfl
  | cons step rest inner =>
    cases step with
    | notice notice =>
      simp only [play, inner, List.flatMap_cons]
      rfl
    | spec spec =>
      simp only [play, inner, List.flatMap_cons, (alike_emit scene spec).told_eq]
      rfl

/-- The record of a constraint, if the emitter keeps records. -/
def record? (scene : Scene) (spec : Spec) : Option Activation :=
  scene.emitter.environment?.map fun environment => ⟨spec, spec.sizeClasses.admits environment⟩

/-- All records of a scene are in its ledger. -/
structure Recorded (scene : Scene) : Prop where
  emitted : ∀ position ∈ scene.emitter.emitted, position < scene.ledger.length
  applied : ∀ id view, scene.forest.view? id = some view →
    ∀ position ∈ view.applied, position < scene.ledger.length

/-- Records more at the end change nothing at positions before. -/
theorem filterMap_getElem?_append {positions : List Nat} {ledger : List Activation}
    (inside : ∀ position ∈ positions, position < ledger.length) (more : List Activation) :
    positions.filterMap ((ledger ++ more)[·]?) = positions.filterMap (ledger[·]?) := by
  induction positions with
  | nil => rfl
  | cons position rest inner =>
    have here : (ledger ++ more)[position]? = ledger[position]? :=
      List.getElem?_append_left (inside position List.mem_cons_self)
    rw [List.filterMap_cons, List.filterMap_cons, here,
      inner fun other member => inside other (List.mem_cons_of_mem _ member)]

/-- Emitting does not change what is recorded of a spec. -/
theorem record?_emit (scene : Scene) (spec : Spec) :
    (scene.emit spec).1.record? = scene.record? := by
  funext other
  rw [record?, record?, (alike_emit scene spec).environment]

/-- Emitting keeps all records in the ledger. -/
theorem Recorded.emit (recorded : scene.Recorded) (spec : Spec) :
    (scene.emit spec).1.Recorded := by
  unfold Scene.emit
  cases emitter : scene.emitter with
  | discarding => exact recorded
  | recording environment positions =>
    have within : ∀ position ∈ positions, position < scene.ledger.length := by
      have inside := recorded.emitted
      rwa [emitter] at inside
    have longer : ∀ record : Activation,
        (scene.ledger ++ [record]).length = scene.ledger.length + 1 := by simp
    constructor
    · intro position member
      simp only [Emitter.emitted, longer] at member ⊢
      rcases List.mem_append.1 member with before | now
      · exact Nat.lt_succ_of_lt (within position before)
      · rw [List.mem_singleton.1 now]
        exact Nat.lt_succ_self _
    · intro id view found position member
      simp only [Forest.view?_modify, longer] at found ⊢
      split at found
      · obtain ⟨old, here, rfl⟩ := Option.map_eq_some_iff.1 found
        rcases List.mem_append.1 member with before | now
        · exact Nat.lt_succ_of_lt (recorded.applied id old here position before)
        · rw [List.mem_singleton.1 now]
          exact Nat.lt_succ_self _
      · exact Nat.lt_succ_of_lt (recorded.applied id view found position member)

/-- An emitter keeps the record of a constraint after all others. -/
theorem emitted_emit (recorded : scene.Recorded) (spec : Spec) :
    (scene.emit spec).1.emitted = scene.emitted ++ (scene.record? spec).toList := by
  have inside := recorded.emitted
  unfold emitted emit record?
  cases emitter : scene.emitter with
  | discarding => simp [Emitter.emitted, Emitter.environment?, emitter]
  | recording environment positions =>
    have within : ∀ position ∈ positions, position < scene.ledger.length := by
      rwa [emitter] at inside
    simp only [Emitter.emitted, Emitter.environment?, List.filterMap_append, Option.map_some]
    rw [filterMap_getElem?_append within]
    simp

/-- The record of a constraint is applied to its target, after all others. -/
theorem applied_emit (recorded : scene.Recorded) (spec : Spec) {id : ViewId}
    (inside : id < scene.forest.size) :
    (scene.emit spec).1.applied id =
      scene.applied id ++ if spec.target = id then (scene.record? spec).toList else [] := by
  obtain ⟨view, found⟩ := Forest.exists_view?_of_lt_size inside
  have within := recorded.applied id view found
  unfold applied emit record?
  cases emitter : scene.emitter with
  | discarding => simp [Emitter.environment?]
  | recording environment positions =>
    have kept := fun record : Activation => filterMap_getElem?_append within [record]
    by_cases same : spec.target = id
    · simp only [Forest.view?_modify, same, found, ↓reduceIte, Option.map_some, Option.getD_some,
        List.filterMap_append, kept, Emitter.environment?]
      simp
    · simp only [Forest.view?_modify, same, found, ↓reduceIte, Option.map_some, Option.getD_some,
        kept, List.append_nil]

/-- The records of constraints in a scene. -/
def records (scene : Scene) (specs : List Spec) : List Activation :=
  specs.filterMap scene.record?

/-- Emitting specs keeps all records in the ledger. -/
theorem Recorded.emitAll (recorded : scene.Recorded) (specs : List Spec) :
    (scene.emitAll specs).Recorded := by
  induction specs generalizing scene with
  | nil => exact recorded
  | cons spec rest inner => exact inner (recorded.emit spec)

/-- The emitter's records after any constraints: those before, then one for each. -/
theorem emitted_emitAll (recorded : scene.Recorded) (specs : List Spec) :
    (scene.emitAll specs).emitted = scene.emitted ++ scene.records specs := by
  induction specs generalizing scene with
  | nil => simp [emitAll, records]
  | cons spec rest inner =>
    have next := inner (recorded.emit spec)
    have first : scene.emitAll (spec :: rest) = (scene.emit spec).1.emitAll rest := rfl
    rw [first, next, emitted_emit recorded, records, records, record?_emit, List.append_assoc,
      List.filterMap_cons]
    cases scene.record? spec <;> rfl

/-- **What is applied to a view after any constraints**: what was before, then the records of those
that are for the view. -/
theorem applied_emitAll (recorded : scene.Recorded) (specs : List Spec) {id : ViewId}
    (inside : id < scene.forest.size) :
    (scene.emitAll specs).applied id =
      scene.applied id ++ scene.records (specs.filter (·.target == id)) := by
  induction specs generalizing scene with
  | nil => simp [emitAll, records]
  | cons spec rest inner =>
    have next := inner (recorded.emit spec) ((alike_emit scene spec).size_eq.symm ▸ inside)
    have first : scene.emitAll (spec :: rest) = (scene.emit spec).1.emitAll rest := rfl
    rw [first, next, applied_emit recorded spec inside, records, records, record?_emit,
      List.append_assoc, List.filter_cons]
    by_cases same : spec.target = id
    · simp only [same, ↓reduceIte, beq_self_eq_true, List.filterMap_cons]
      cases scene.record? spec <;> rfl
    · have other : (spec.target == id) = false := by simpa using same
      simp only [same, other, ↓reduceIte, Bool.false_eq_true, List.nil_append]

end Scene

end ViewLayout
