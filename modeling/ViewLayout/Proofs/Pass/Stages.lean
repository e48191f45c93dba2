import ViewLayout.Document.Read
import ViewLayout.Proofs.Constraint.Kinds
import ViewLayout.Proofs.Document.Unfolding
import ViewLayout.Proofs.Pass.Building

/-!
# Stages of a pass

Every diagnostic tells by its kind in which stage it was found: while the document was read, while
the hierarchy was built, while templates were expanded, or while directives were established. So
what is said about the diagnostics of one stage need not look at the others.
-/

namespace ViewLayout

/-- A part of a pass in which something can be found wrong. -/
inductive Stage
  | reading
  | building
  | expanding
  | establishing
deriving DecidableEq

/-- The stage in which a diagnostic is found. -/
def Diagnostic.stage : Diagnostic → Stage
  | constraintKeyNotText _ => .reading
  | constraintNotReadable _ _ => .reading
  | constraintsNotMapping _ => .reading
  | propertiesNotMapping _ => .reading
  | invalidZIndex _ => .reading
  | viewNotMapping _ _ => .reading
  | viewWithoutName _ => .reading
  | subviewsNotMapping _ => .reading
  | templatesNotMapping => .reading
  | viewRedeclared _ => .building
  | viewMissing _ => .building
  | viewContainsParent _ _ => .building
  | templateIncludesItself _ => .expanding
  | templateUnknown _ => .expanding
  | invalidNumber _ _ => .establishing
  | priorityOutOfRange _ => .establishing
  | zeroDivisor => .establishing
  | splitReference _ _ => .establishing
  | referenceUnresolved _ _ _ => .establishing
  | ancestryNotShared _ => .establishing

namespace Telling

variable {α β : Type}

/-- All that is told is found while a document is read, also if the reading stops. -/
def Reads (telling : Telling α) : Prop :=
  ∀ diagnostic ∈ (ExceptT.run telling).diagnostics, diagnostic.stage = .reading

theorem Reads.pure (value : α) : Reads (Pure.pure value) :=
  fun _ member => absurd member List.not_mem_nil

/-- One reading after another reports at the stage of both. -/
theorem Reads.bind {first : Telling α} {next : α → Telling β} (before : first.Reads)
    (after : ∀ value, (next value).Reads) : (first >>= next).Reads := by
  intro diagnostic member
  rw [ExceptT.run_bind, Reported.diagnostics_bind] at member
  rcases List.mem_append.1 member with earlier | later
  · exact before diagnostic earlier
  · cases read : (ExceptT.run first).value with
    | error cause =>
      rw [read] at later
      exact absurd later List.not_mem_nil
    | ok value =>
      rw [read] at later
      exact after value diagnostic later

/-- A report of the stage is one. -/
theorem Reads.withReport (value : α) {diagnostic : Diagnostic}
    (stage : diagnostic.stage = .reading) : (Telling.withReport value diagnostic).Reads := by
  have told : (Telling.tell diagnostic).Reads := by
    unfold Telling.tell
    split
    · intro other member
      obtain rfl : other = diagnostic := List.mem_singleton.1 member
      exact stage
    · exact fun _ member => absurd member List.not_mem_nil
  exact told.bind fun _ => .pure _

theorem Reads.nameOf (key : Value) : (Telling.nameOf key).Reads := by
  unfold Telling.nameOf
  split
  · exact .pure _
  · exact fun _ member => absurd member List.not_mem_nil

end Telling

/-- Reading a directive reports at that stage only. -/
theorem Directive.reads_ofSides? (sink : Sink) (lhs rhs : Value) :
    (ofSides? sink lhs rhs).Reads := by
  unfold ofSides?
  split
  · split
    · exact .pure _
    · exact .withReport _ rfl
  · exact .withReport _ rfl

namespace Description

open Telling

theorem reads_readConstraintItems (sink : Sink) (lhs : Value) (items : List Value) :
    (readConstraintItems sink lhs items).Reads := by
  induction items with
  | nil => exact .pure _
  | cons rhs rest inner =>
    exact (Directive.reads_ofSides? sink lhs rhs).bind fun _ => inner.bind fun _ => .pure _

theorem reads_readConstraintEntries (sink : Sink) (entries : List (Value × Value)) :
    (readConstraintEntries sink entries).Reads := by
  induction entries with
  | nil => exact .pure _
  | cons entry rest inner =>
    exact (reads_readConstraintItems sink entry.1 _).bind fun _ => inner.bind fun _ => .pure _

theorem reads_readConstraints (sink : Sink) (block : Value) :
    (readConstraints sink block).Reads := by
  unfold readConstraints
  split
  · exact .pure _
  · split
    · exact reads_readConstraintEntries sink _
    · exact .withReport _ rfl

theorem reads_readPropertyEntries (table : Table String) (entries : List (Value × Value)) :
    (readPropertyEntries table entries).Reads := by
  induction table, entries using readPropertyEntries.induct with
  | case1 table => exact .pure _
  | case2 table key value rest inner => exact (Reads.nameOf key).bind inner
  | case3 table entry rest other inner =>
    rw [readPropertyEntries]
    · exact inner
    · exact other

theorem reads_readProperties (block : Value) : (readProperties block).Reads := by
  unfold readProperties
  split
  · exact .pure _
  · split
    · exact reads_readPropertyEntries [] _
    · exact .withReport _ rfl

theorem reads_readZIndex (value : Value) : (readZIndex value).Reads := by
  unfold readZIndex
  split
  · exact .pure _
  · exact .withReport _ rfl

mutual

/-- Reading a description tells only of what it reads. -/
theorem reads_read (sink : Sink) (id : String) : ∀ value : Value, (read sink id value).Reads
  | .mapping entries => by
    unfold read
    dsimp only
    split
    · exact .withReport _ rfl
    · refine (reads_readSubviewsField sink _ entries).bind fun _ =>
        (reads_readConstraints sink _).bind fun _ => (reads_readProperties _).bind fun _ => ?_
      exact (reads_readZIndex _).bind fun _ => .pure _
  | .null | .bool _ | .int _ | .float _ | .text _ | .date _ | .moment _ | .octets _ | .list _
  | .tuple _ | .set _ | .knot _ _ | .cell _ => by
    unfold read
    exact .withReport _ rfl

theorem reads_readSubviewsField (sink : Sink) (name : String) : ∀ entries : List (Value × Value),
    (readSubviewsField sink name entries).Reads
  | [] => .pure _
  | (key, value) :: rest => by
    unfold readSubviewsField
    split
    · split
      · next entries => exact reads_readSubviews sink entries
      · exact .pure _
      · exact .withReport _ rfl
    · exact reads_readSubviewsField sink name rest

theorem reads_readSubviews (sink : Sink) : ∀ entries : List (Value × Value),
    (readSubviews sink entries).Reads
  | [] => .pure _
  | (id, data) :: rest => by
    rw [readSubviews]
    refine (Reads.nameOf id).bind fun name => (reads_read sink name data).bind fun _ => ?_
    exact (reads_readSubviews sink rest).bind fun _ => .pure _

end

end Description

namespace Document

open Telling

theorem reads_readTemplateEntries (sink : Sink) (table : Table Description)
    (entries : List (Value × Value)) : (readTemplateEntries sink table entries).Reads := by
  induction entries generalizing table with
  | nil => exact .pure _
  | cons entry rest inner =>
    refine (Reads.nameOf entry.1).bind fun name => ?_
    exact (Description.reads_read sink name _).bind fun _ => inner _

theorem reads_readTemplates (sink : Sink) (value : Value) : (readTemplates sink value).Reads := by
  unfold readTemplates
  split
  · exact .pure _
  · split
    · exact reads_readTemplateEntries sink [] _
    · exact .withReport _ rfl

theorem reads_ofParts (sink : Sink) (root templates : Value) :
    (ofParts sink root templates).Reads := by
  refine (Description.reads_read sink rootName root).bind fun found => ?_
  cases found with
  | none => exact .pure _
  | some description => exact (reads_readTemplates sink templates).bind fun _ => .pure _

/-- All that is told while a source is read is found in that stage, whether it gives a document
or not. -/
theorem stage_of_mem_readWith {yaml : Yaml.Reader} {sink : Sink} {source : Value}
    {diagnostic : Diagnostic} (member : diagnostic ∈ (readWith yaml sink source).diagnostics) :
    diagnostic.stage = .reading := by
  unfold readWith at member
  split at member
  · exact absurd member List.not_mem_nil
  · next entries _ =>
    rw [ofEntries, Reported.diagnostics_bind] at member
    rcases List.mem_append.1 member with told | none
    · exact reads_ofParts sink _ _ diagnostic told
    · split at none <;> exact absurd none List.not_mem_nil

end Document

namespace Building

variable {building : Building}

/-- All that was told is found while a hierarchy is built. -/
def Staged (building : Building) : Prop :=
  ∀ diagnostic ∈ building.diagnostics, diagnostic.stage = .building

/-- Reporting at the stage of building keeps a building staged. -/
theorem Staged.report (staged : building.Staged) {diagnostic : Diagnostic}
    (stage : diagnostic.stage = .building) : (building.report diagnostic).Staged := by
  intro other member
  rcases List.mem_append.1 member with before | now
  · exact staged other before
  · rw [List.mem_singleton.1 now]
    exact stage

theorem Staged.materialize (staged : building.Staged) (parent : ViewId)
    (description : Description) : (building.materialize parent description).1.Staged := by
  unfold Building.materialize
  split
  · have warned : Staged
        (if building.scene.index.has description.name then
          building.report (.viewRedeclared description.name)
        else building) := by
      split
      · exact staged.report rfl
      · exact staged
    unfold create
    dsimp only
    split <;> exact warned
  · unfold find
    dsimp only
    split
    · exact staged.report rfl
    · split
      · exact staged
      · split
        · exact staged.report rfl
        · split <;> exact staged

mutual

theorem Staged.build {parent : ViewId} : ∀ (description : Description) {building : Building},
    building.Staged → (build parent description building).Staged
  | ⟨name, isNew, superclass, constraints, properties, zIndex, templates, subviews⟩, building,
      staged => by
    have placed := staged.materialize parent
      ⟨name, isNew, superclass, constraints, properties, zIndex, templates, subviews⟩
    unfold Building.build
    dsimp only
    split
    · exact staged
    · split
      · next none =>
        rw [none] at placed
        exact placed
      · next id had =>
        rw [had] at placed
        exact Staged.buildAll subviews placed

theorem Staged.buildAll {parent : ViewId} : ∀ (descriptions : List Description)
    {building : Building}, building.Staged → (buildAll parent descriptions building).Staged
  | [], _, staged => by
    rw [Building.buildAll]
    exact staged
  | description :: rest, _, staged => by
    rw [Building.buildAll]
    exact Staged.buildAll rest (Staged.build description staged)

end

end Building

/-- All that is told while a hierarchy is built is found in that stage. -/
theorem Scene.stage_of_mem_buildHierarchy {scene : Scene} {root : ViewId}
    {description : Description} {diagnostic : Diagnostic}
    (member : diagnostic ∈ (scene.buildHierarchy root description).diagnostics) :
    diagnostic.stage = .building := by
  have start : (({ scene } : Building).settle description root).Staged :=
    fun _ none => absurd none List.not_mem_nil
  exact start.buildAll description.subviews diagnostic member

/-- All that is told while templates are expanded is found in that stage. -/
theorem Template.stage_of_mem_expand {templates : Table Description} {seen names : List String}
    {diagnostic : Diagnostic} (member : diagnostic ∈ (expand templates seen names).diagnostics) :
    diagnostic.stage = .expanding := by
  obtain ⟨_, rfl | rfl⟩ := told_expand templates seen names diagnostic member <;> rfl

namespace Scope

variable {scope : Scope} {target : ViewId} {directive : Directive}

/-- **All that is told while a directive is established is found in that stage.** -/
theorem stage_of_mem_diagnosticsOf {diagnostic : Diagnostic}
    (member : diagnostic ∈ scope.diagnosticsOf target directive) :
    diagnostic.stage = .establishing := by
  obtain ⟨notice, told, rfl⟩ := List.mem_map.1 member
  rcases isOfField_or_faults (mem_filterMap_notice?_iff.1 told) with ofField | faults
  · generalize notice.diagnostic = diagnostic at ofField
    cases diagnostic <;> first | rfl | cases ofField
  · generalize notice.diagnostic = diagnostic at faults
    cases faults <;> rfl

end Scope

end ViewLayout
