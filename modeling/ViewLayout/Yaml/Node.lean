import ViewLayout.Yaml.Tag

/-!
# Nodes of a document

The graph that a document describes: scalars, sequences and mappings with their tags, by number. A
node that has a name may be used in several places, and also inside itself.
-/

namespace ViewLayout.Yaml

/-- What a node holds; other nodes by their numbers. -/
inductive Content
  | scalar (text : String)
  | sequence (items : List Nat)
  | mapping (entries : List (Nat × Nat))

/-- A node of a document. -/
structure Node where
  tag : Tag
  content : Content

/-- A node of null stands where there is none. -/
instance : Inhabited Node := ⟨.null, .scalar ""⟩

/-- The nodes of a document by number. -/
abbrev Graph : Type := Array Node

namespace Graph

/-- The tag of a node. -/
def tagOf (graph : Graph) (id : Nat) : Tag :=
  ((graph[id]?).map Node.tag).getD .unknown

/-- The content of a node. -/
def contentOf (graph : Graph) (id : Nat) : Content :=
  ((graph[id]?).map Node.content).getD (.scalar "")

/-- The entries of a mapping; another node has none. -/
def entriesOf (graph : Graph) (id : Nat) : List (Nat × Nat) :=
  match graph.contentOf id with
  | .mapping entries => entries
  | _ => []

/-- Gives a node another tag. -/
def setTag (graph : Graph) (id : Nat) (tag : Tag) : Graph :=
  graph.modify id fun node => { node with tag }

/-- Gives a node another content. -/
def setContent (graph : Graph) (id : Nat) (content : Content) : Graph :=
  graph.modify id fun node => { node with content }

/-- The text of a scalar. A mapping has the text of what it holds under an equals sign; the first
argument bounds how often that is asked. -/
def scalarText : Nat → Graph → Nat → Except Fault String
  | 0, _, _ => .error (.problem .wrongShape)
  | fuel + 1, graph, id =>
    match graph.contentOf id with
    | .scalar text => .ok text
    | .sequence _ => .error (.problem .wrongShape)
    | .mapping entries =>
      match entries.find? fun entry => graph.tagOf entry.1 = .default with
      | some (_, value) => scalarText fuel graph value
      | none => .error (.problem .wrongShape)

end Graph

end ViewLayout.Yaml
