import ViewLayout.Yaml.Fault

/-!
# Steps that keep an invariant

YAML is read in steps that may fail. `Ends` says what a reading gives and how it can fail, and
`Keeps` says this of a step that changes a state, with an invariant of the state. There is a lemma
for each way in which steps are made of others.
-/

namespace ViewLayout.Yaml

/-- A breach of the rules of YAML. -/
def Fault.IsProblem (fault : Fault) : Prop :=
  ∃ problem, fault = .problem problem

variable {σ α β : Type} {inv : σ → Prop} {fails : Fault → Prop} {gives : α → Prop}
  {yields : β → Prop}

/-- What a reading gives satisfies a condition. If it fails, so does its fault. -/
def Ends (fails : Fault → Prop) (reading : Except Fault α) (gives : α → Prop) : Prop :=
  match reading with
  | .ok value => gives value
  | .error fault => fails fault

namespace Ends

variable {reading : Except Fault α} {next : α → Except Fault β}

/-- One reading after another ends as both do. -/
theorem bind (first : Ends fails reading gives)
    (second : ∀ value, gives value → Ends fails (next value) yields) :
    Ends fails (reading >>= next) yields := by
  cases reading with
  | ok value => exact second value first
  | error fault => exact first

/-- The value that a reading gives is as it says. -/
theorem value (ends : Ends fails reading gives) {value : α} (given : reading = .ok value) :
    gives value := by
  rw [given] at ends
  exact ends

/-- The fault that a reading ends with is as it says. -/
theorem fault (ends : Ends fails reading gives) {fault : Fault}
    (failed : reading = .error fault) : fails fault := by
  rw [failed] at ends
  exact ends

/-- Faults may be widened. -/
theorem mono {others : Fault → Prop} (ends : Ends fails reading gives)
    (weaker : ∀ fault, fails fault → others fault) : Ends others reading gives := by
  cases reading with
  | ok value => exact ends
  | error fault => exact weaker fault ends

end Ends

/-- A step keeps an invariant of its state, and what it gives satisfies a condition. If it fails, so
does its fault. -/
def Keeps (inv : σ → Prop) (fails : Fault → Prop) (step : StateT σ (Except Fault) α)
    (gives : α → Prop) : Prop :=
  ∀ state, inv state → Ends fails (step.run state) fun result => gives result.1 ∧ inv result.2

namespace Keeps

variable {step : StateT σ (Except Fault) α} {next : α → StateT σ (Except Fault) β}

theorem pure {value : α} (given : gives value) :
    Keeps inv fails (Pure.pure value) gives :=
  fun _ held => ⟨given, held⟩

theorem throw {fault : Fault} (fault_fails : fails fault) :
    Keeps inv fails (MonadExcept.throw fault : StateT σ (Except Fault) α) gives :=
  fun _ _ => fault_fails

theorem get : Keeps inv fails (MonadState.get : StateT σ (Except Fault) σ) inv :=
  fun _ held => ⟨held, held⟩

theorem update {change : σ → σ} (keeps : ∀ state, inv state → inv (change state)) :
    Keeps inv fails (modify change : StateT σ (Except Fault) PUnit) fun _ => True :=
  fun state held => ⟨trivial, keeps state held⟩

theorem set {state : σ} (held : inv state) :
    Keeps inv fails (MonadStateOf.set state : StateT σ (Except Fault) PUnit) fun _ => True :=
  fun _ _ => ⟨trivial, held⟩

/-- A step that has no state of its own. -/
theorem lift {reading : Except Fault α} (ends : Ends fails reading gives) :
    Keeps inv fails (liftM reading : StateT σ (Except Fault) α) gives := by
  intro state held
  cases reading with
  | ok value => exact ⟨ends, held⟩
  | error fault => exact ends

/-- A step goes on with what another one gives. -/
theorem bind (first : Keeps inv fails step gives)
    (second : ∀ value, gives value → Keeps inv fails (next value) yields) :
    Keeps inv fails (step >>= next) yields := by
  intro state held
  rw [StateT.run_bind]
  exact (first state held).bind fun result given => second result.1 given.1 result.2 given.2

/-- What a step gives is passed over. -/
theorem andThen (first : Keeps inv fails step gives)
    (second : ∀ value, Keeps inv fails (next value) yields) :
    Keeps inv fails (step >>= next) yields :=
  first.bind fun value _ => second value

theorem map {change : α → β} (first : Keeps inv fails step gives) :
    Keeps inv fails (change <$> step) fun _ => True := by
  rw [map_eq_pure_bind]
  exact first.andThen fun _ => pure trivial

/-- Steps for all items keep all. -/
theorem mapM {step : α → StateT σ (Except Fault) β}
    (each : ∀ item, Keeps inv fails (step item) fun _ => True) (items : List α) :
    Keeps inv fails (items.mapM step) fun _ => True := by
  induction items with
  | nil => exact pure trivial
  | cons item rest inner =>
    rw [List.mapM_cons]
    exact (each item).andThen fun _ => inner.andThen fun _ => pure trivial

/-- Steps for all items that give nothing keep all. -/
theorem forM {step : α → StateT σ (Except Fault) PUnit}
    (each : ∀ item, Keeps inv fails (step item) fun _ => True) (items : List α) :
    Keeps inv fails (items.forM step) fun _ => True := by
  induction items with
  | nil => exact pure trivial
  | cons item rest inner => exact (each item).andThen fun _ => inner

/-- One of two steps is done, and the same follows. -/
theorem eitherThen {c : Prop} [Decidable c] {other : StateT σ (Except Fault) α}
    (first : Keeps inv fails step gives) (instead : Keeps inv fails other gives)
    (second : ∀ value, Keeps inv fails (next value) yields) :
    Keeps inv fails (if c then step >>= next else other >>= next) yields := by
  split
  · exact first.andThen second
  · exact instead.andThen second

end Keeps

end ViewLayout.Yaml
