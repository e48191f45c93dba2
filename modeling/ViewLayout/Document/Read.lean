import ViewLayout.Document.Basic
import ViewLayout.Document.Source

/-!
# Reading documents

`Document.read` makes a document of a source. Parts of the wrong shape are reported and left out;
only a source that gives no mapping, or no mapping for the root view, gives no document.
-/

namespace ViewLayout

/-- What the id of a view says: its name, whether it is new, and the superclass of a new view. -/
structure ViewLabel where
  name : String
  isNew : Bool
  superclass : Option String
deriving DecidableEq

/-- What the id of a view says: `!avatar:ImageView` is a new view `avatar` of a superclass. -/
def ViewLabel.ofId (id : String) : ViewLabel :=
  let (isNew, rest) :=
    match id.toList with
    | '!' :: rest => (true, rest)
    | chars => (false, chars)
  let name := rest.takeWhile (· != ':')
  let superclass :=
    match isNew, rest.dropWhile (· != ':') with
    | true, _ :: first :: others => some (String.ofList (first :: others))
    | _, _ => none
  ⟨String.ofList name, isNew, superclass⟩

namespace Description

/-- The name under which a view has its subviews. -/
def subviewsName : String := "views"

/-- A view with its subviews, where the entries of each are laid open if they are part of a knot.
The number bounds how many views deep that is done. -/
def layOpen : Nat → Value → Value
  | 0, view => view
  | depth + 1, view =>
    match view.entries? with
    | none => view
    | some entries =>
      .mapping (entries.map fun (key, value) =>
        if key.text? = some subviewsName then
          match value.entries? with
          | some subviews =>
            (key, .mapping (subviews.map fun (id, view) => (id, layOpen depth view)))
          | none => (key, value)
        else (key, value))

/-- The directives of one entry of a constraints block, which may hold a list of them. -/
def readConstraintItems (sink : Sink) (lhs : Value) : List Value → Telling (List Directive)
  | [] => pure []
  | rhs :: rest => do
    let directive ← Directive.ofSides? sink lhs rhs
    let others ← readConstraintItems sink lhs rest
    return directive.toList ++ others

/-- The directives of the entries of a constraints block. -/
def readConstraintEntries (sink : Sink) : List (Value × Value) → Telling (List Directive)
  | [] => pure []
  | (lhs, rhs) :: rest => do
    let directives ← readConstraintItems sink lhs (rhs.items?.getD [rhs])
    let others ← readConstraintEntries sink rest
    return directives ++ others

/-- The directives of a constraints block. -/
def readConstraints (sink : Sink) (block : Value) : Telling (List Directive) :=
  match block with
  | .null => pure []
  | _ =>
    match block.entries? with
    | some entries => readConstraintEntries sink entries
    | none => .withReport [] (.constraintsNotMapping block.kind)

/-- The properties among entries put into a table: those whose values are texts. -/
def readPropertyEntries : Table String → List (Value × Value) → Telling (Table String)
  | table, [] => pure table
  | table, (key, .text value) :: rest => do
    readPropertyEntries (table.put (← Telling.nameOf key) value) rest
  | table, _ :: rest => readPropertyEntries table rest

/-- The properties of a view; a block that is no mapping is reported and gives none. -/
def readProperties (block : Value) : Telling (Table String) :=
  match block with
  | .null => pure []
  | _ =>
    match block.entries? with
    | some entries => readPropertyEntries [] entries
    | none => .withReport [] (.propertiesNotMapping block.kind)

/-- The integer that a value gives for the z-index. -/
def zIndexOf? : Value → Option Int
  | .null => some 0
  | .int value => some value
  | .text raw => Numeral.readInteger? raw.toList
  | _ => none

/-- The z-index of a view; a value that gives none is reported. -/
def readZIndex (value : Value) : Telling Int :=
  match zIndexOf? value with
  | some index => pure index
  | none => .withReport 0 (.invalidZIndex value)

/-- The templates of a view: one name, or the names in a list. -/
def readTemplates (value : Value) : List String :=
  match value with
  | .text name => [name]
  | _ => ((value.items?.getD []).filterMap Value.text?).filter (· != "")

mutual

/-- The description of a view by its id and its entries, with those of its subviews. -/
def read (sink : Sink) (id : String) : Value → Telling (Option Description)
  | .mapping entries =>
    let label := ViewLabel.ofId id
    if label.name = "" then .withReport none (.viewWithoutName id)
    else do
      let subviews ← readSubviewsField sink label.name entries
      let constraints ← readConstraints sink (Value.lookupD entries "constraints")
      let properties ← readProperties (Value.lookupD entries "properties")
      let zIndex ← readZIndex (Value.lookupD entries "z-index")
      let templates := readTemplates (Value.lookupD entries "template")
      return some {
        name := label.name
        isNew := label.isNew
        superclass := label.superclass
        constraints, properties, zIndex, templates, subviews }
  | other => .withReport none (.viewNotMapping id other.kind)

/-- The subviews that the entries of a view give. -/
def readSubviewsField (sink : Sink) (name : String) :
    List (Value × Value) → Telling (List Description)
  | [] => pure []
  | (key, value) :: rest =>
    if key.text? = some subviewsName then
      match value with
      | .mapping entries => readSubviews sink entries
      | .null => pure []
      | _ => .withReport [] (.subviewsNotMapping name)
    else readSubviewsField sink name rest

/-- Those of the subviews that can be read, in their order. -/
def readSubviews (sink : Sink) : List (Value × Value) → Telling (List Description)
  | [] => pure []
  | (id, data) :: rest => do
    let name ← Telling.nameOf id
    let subview ← read sink name data
    let others ← readSubviews sink rest
    return subview.toList ++ others

end

end Description

namespace Document

/-- The name that the root of a document is read with. -/
def rootName : String := "root"

/-- The templates of a document, by the names of their descriptions. -/
def readTemplateEntries (sink : Sink) :
    Table Description → List (Value × Value) → Telling (Table Description)
  | table, [] => pure table
  | table, (id, data) :: rest => do
    let name ← Telling.nameOf id
    let template ← Description.read sink name (Description.layOpen data.knotSize data)
    let grown :=
      match template with
      | some description => table.put description.name description
      | none => table
    readTemplateEntries sink grown rest

/-- The templates that a value gives. A value that does not count as true gives none. -/
def readTemplates (sink : Sink) (value : Value) : Telling (Table Description) :=
  if !value.isTruthy then pure []
  else
    match value.entries? with
    | some entries => readTemplateEntries sink [] entries
    | none => .withReport [] .templatesNotMapping

/-- The entries of the root view, and the templates: the root view stands under its name beside
templates, or the entries are the root view's. -/
def parts (entries : List (Value × Value)) : Value × Value :=
  match Value.lookup? entries rootName with
  | some data => (Description.layOpen data.knotSize data, Value.lookupD entries "templates")
  | none =>
    let depth := ((entries.map fun entry => entry.2.knotSize).max?).getD 0
    (Description.layOpen depth (.mapping entries), .null)

/-- The root view and the templates that entries give, if the root view has a description. -/
def ofParts (sink : Sink) (root templates : Value) :
    Telling (Option (Description × Table Description)) := do
  match ← Description.read sink rootName root with
  | none => return none
  | some description => return some (description, ← readTemplates sink templates)

/-- A document from the entries of its source. -/
def ofEntries (sink : Sink) (entries : List (Value × Value)) :
    Reported (Except DocumentError Document) := do
  let (rootData, templateData) := parts entries
  match ← (ofParts sink rootData templateData).run with
  | .error cause => return .error (.unshowable cause)
  | .ok none => return .error .rootNotMapping
  | .ok (some (root, templates)) =>
    return .ok { root, templates, name := (Value.lookupD entries "name").text? }

/-- **The document that a source gives**, as a reader of YAML has its text. -/
def readWith (yaml : Yaml.Reader) (sink : Sink) (source : Value) :
    Reported (Except DocumentError Document) :=
  match Source.entriesWith yaml source with
  | .error fault => .clean (.error fault)
  | .ok entries => ofEntries sink entries

/-- The document that a source gives. -/
def read (sink : Sink) (source : Value) : Reported (Except DocumentError Document) :=
  readWith Yaml.read sink source

end Document

end ViewLayout
