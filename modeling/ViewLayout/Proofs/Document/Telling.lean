import ViewLayout.Document.Read

/-!
# What readings give

`Telling.Gives` says that a reading comes to its end: with what value, and what it tells on the way.
There is a lemma for each way in which readings are made, so that what a whole document gives
follows from what its parts give.
-/

namespace ViewLayout.Telling

variable {α β : Type} {first telling : Telling α} {next : α → Telling β} {value : α} {result : β}
  {told later : List Diagnostic} {diagnostic : Diagnostic}

/-- A reading ends with a value, and just these diagnostics are told. -/
def Gives (telling : Telling α) (value : α) (told : List Diagnostic) : Prop :=
  ExceptT.run telling = ⟨.ok value, told⟩

theorem Gives.pure (value : α) : Gives (Pure.pure value) value [] :=
  rfl

/-- One reading after another tells what both tell. -/
theorem Gives.bind (before : first.Gives value told) (after : (next value).Gives result later) :
    (first >>= next).Gives result (told ++ later) := by
  unfold Gives at before after ⊢
  rw [ExceptT.run_bind, before]
  simp [Bind.bind, Reported.andThen, after]

/-- A reading goes on from what a reading without reports gives. -/
theorem Gives.then (before : first.Gives value []) (after : (next value).Gives result later) :
    (first >>= next).Gives result later :=
  before.bind after

/-- A reading goes on from what another one gives without further reports. -/
theorem Gives.map (before : first.Gives value told) (after : (next value).Gives result []) :
    (first >>= next).Gives result told := by
  have whole := before.bind after
  rwa [List.append_nil] at whole

/-- A report that can be shown is told. -/
theorem Gives.withReport (value : α) (showable : diagnostic.isShowable = true) :
    (Telling.withReport value diagnostic).Gives value [diagnostic] := by
  have tells : (tell diagnostic).Gives () [diagnostic] := by
    rw [Gives, tell, if_pos showable]
    rfl
  exact tells.map (.pure value)

/-- The name of a key that can be shown tells nothing. -/
theorem Gives.nameOf {key : Value} {name : String} (shown : key.shown? = some name) :
    (Telling.nameOf key).Gives name [] := by
  rw [Telling.nameOf, shown]
  exact .pure name

end ViewLayout.Telling

namespace ViewLayout.Description

open Telling

variable {sink : Sink} {id : String} {entries : List (Value × Value)} {subviews : List Description}
  {constraints : List Directive} {properties : Table String} {zIndex : Int}
  {ofViews ofConstraints ofProperties ofZIndex : List Diagnostic}

/-- **A description is read field by field**, and what is told of the fields is told in their
order. -/
theorem gives_read_mapping (named : (ViewLabel.ofId id).name ≠ "")
    (views : (readSubviewsField sink (ViewLabel.ofId id).name entries).Gives subviews ofViews)
    (block : (readConstraints sink (Value.lookupD entries "constraints")).Gives constraints
      ofConstraints)
    (texts : (readProperties (Value.lookupD entries "properties")).Gives properties ofProperties)
    (index : (readZIndex (Value.lookupD entries "z-index")).Gives zIndex ofZIndex) :
    (read sink id (.mapping entries)).Gives
      (some
        { name := (ViewLabel.ofId id).name
          isNew := (ViewLabel.ofId id).isNew
          superclass := (ViewLabel.ofId id).superclass
          constraints, properties, zIndex, subviews
          templates := readTemplates (Value.lookupD entries "template") })
      (ofViews ++ (ofConstraints ++ (ofProperties ++ ofZIndex))) := by
  unfold read
  dsimp only
  rw [if_neg named]
  exact views.bind (block.bind (texts.bind (index.map (.pure _))))

end ViewLayout.Description
