import ViewLayout.Pass.Compile

/-!
# Layouts as values

How finished constraints and diagnostics are written as document values. Views are written by their
names, and what a constraint does not have is left out.
-/

namespace ViewLayout

/-- Size classes as they are written. -/
def SizeClasses.toValue (sizeClasses : SizeClasses) : Value :=
  .mapping
    [(.text "horizontal", .text sizeClasses.horizontal.name),
      (.text "vertical", .text sizeClasses.vertical.name)]

/-- An entry that is left out where there is no value. -/
def optionalEntry (name : String) (value : Option Value) : List (Value × Value) :=
  (value.map fun present => (Value.text name, present)).toList

/-- The entries of a spec as they are written, with the names of its views. -/
def Spec.toEntries (forest : Forest) (spec : Spec) : List (Value × Value) :=
  [(.text "target", .text (forest.nameOf spec.target)),
    (.text "left_attribute", .text spec.leftAttribute.name),
    (.text "relation", .text spec.relation.name),
    (.text "comparable_view",
      (spec.comparableView.map fun view => Value.text (forest.nameOf view)).getD .null),
    (.text "right_attribute", .text spec.effectiveRightAttribute.name),
    (.text "constant", .float spec.constant),
    (.text "multiplier", .float spec.multiplier),
    (.text "size_classes", spec.sizeClasses.toValue)] ++
    optionalEntry "priority" (spec.priority.map .float) ++
    optionalEntry "identifier" (spec.identifier.map .text)

/-- A spec as it is written. -/
def Spec.toValue (forest : Forest) (spec : Spec) : Value :=
  .mapping (spec.toEntries forest)

/-- A diagnostic as it is written. -/
def Diagnostic.toValue (diagnostic : Diagnostic) : Value :=
  .mapping
    ([(.text "level", .text diagnostic.level.name), (.text "message", .text diagnostic.message)] ++
      optionalEntry "identifier" (diagnostic.identifier?.map .text))

/-- The entries of a layout as they are written. -/
def Layout.toEntries (forest : Forest) (layout : Layout) : List (Value × Value) :=
  [(.text "constraints", .list (layout.constraints.map (Spec.toValue forest))),
    (.text "diagnostics", .list (layout.diagnostics.map Diagnostic.toValue))]

end ViewLayout
