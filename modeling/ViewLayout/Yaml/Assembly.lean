import ViewLayout.Value.Arrangement
import ViewLayout.Value.Knot
import ViewLayout.Yaml.Merge
import ViewLayout.Yaml.Nodes
import ViewLayout.Yaml.Scalar.Value

/-!
# Assembling values

The value of a document is assembled from the root on. A scalar has its value at once; a collection
is there at once, and gets its content after all collections that were met before it. So a
collection can hold itself, and of several faults in a document the one nearest to the root is told,
and on one level the first.
-/

namespace ViewLayout.Yaml

/-- What a node is as a key or a value. -/
structure Reading where
  value : Value
  /-- The node of a value that is not a number, if it is not the word for that. -/
  origin : Option Nat := none

/-- Whether two readings are the same key. What is not a number equals nothing, so there it counts
whether one node is read twice, or the word for it. -/
def Reading.isSameKey (x y : Reading) : Bool :=
  x.value.sameKey y.value && x.origin == y.origin

/-- What is known while a value is assembled. -/
structure Assembly where
  graph : Graph
  /-- The readings of nodes that were met; the value of a collection is a cell. -/
  readings : Array (Option Reading)
  /-- The collections: those of nodes by the numbers of the nodes, and others after them. -/
  cells : Array Value
  /-- The nodes whose collections have no content yet, the one that was met last first. -/
  waiting : List Nat := []

namespace Assembly

/-- A step of assembling. -/
abbrev Build : Type → Type := StateT Assembly (Except Fault)

/-- The empty collection of a tag, if the tag is a collection's. -/
def emptyOf? : Tag → Option Value
  | .sequence => some (.list [])
  | .orderedMapping => some (.list [])
  | .pairs => some (.list [])
  | .set => some (.set [])
  | .mapping => some (.mapping [])
  | _ => none

/-- The reading of a node that is no collection by its tag. -/
def scalarOf (graph : Graph) (id : Nat) : Except Fault Reading := do
  let tag := graph.tagOf id
  if tag = .merge ∨ tag = .default ∨ tag = .unknown then .error (.problem .unknownTag)
  let text ← graph.scalarText (graph.size + 1) id
  match tag, graph.contentOf id with
  | .time, .mapping _ => .error (.unreadable .timeInMapping)
  | _, _ =>
    match ← scalarValue tag text with
    | .float .nan => .ok ⟨.float .nan, if isNanWord (Text.lower text).toList then none else id⟩
    | value => .ok { value }

/-- The reading of a node. A collection that is met for the first time is empty and waits for its
content. -/
def readingOf (id : Nat) : Build Reading := do
  match ((← get).readings[id]?).join with
  | some reading => pure reading
  | none =>
    match emptyOf? ((← get).graph.tagOf id) with
    | some collection =>
      let reading : Reading := { value := .cell id }
      modify fun assembly =>
        { assembly with
          readings := assembly.readings.set! id (some reading)
          cells := assembly.cells.set! id collection
          waiting := id :: assembly.waiting }
      pure reading
    | none =>
      let reading ← scalarOf (← get).graph id
      modify fun assembly =>
        { assembly with readings := assembly.readings.set! id (some reading) }
      pure reading

/-- The value of a node. -/
def valueOf (id : Nat) : Build Value :=
  Reading.value <$> readingOf id

/-- Makes a change of the graph in the assembly. -/
def change (step : Graph.Change Unit) : Build Unit := do
  let (_, graph) ← step.run (← get).graph
  modify fun assembly => { assembly with graph }

/-- Whether a value is no collection, so that it can be a key. -/
def canBeKey : Value → Bool
  | .cell _ => false
  | _ => true

/-- The entries with a value under a key. A key that is there keeps its place and its first form. -/
def putUnder : List (Reading × Value) → Reading → Value → List (Reading × Value)
  | [], key, new => [(key, new)]
  | (first, value) :: rest, key, new =>
    if first.isSameKey key then (first, new) :: rest else (first, value) :: putUnder rest key new

/-- The entries of a mapping put into those that it has by now. -/
def entriesOf : List (Reading × Value) → List (Nat × Nat) → Build (List (Reading × Value))
  | entries, [] => pure entries
  | entries, (keyNode, valueNode) :: rest => do
    let key ← readingOf keyNode
    if !canBeKey key.value then throw (.problem .unhashableKey)
    let value ← valueOf valueNode
    entriesOf (putUnder entries key value) rest

/-- The entries of a mapping, with those that it takes over. -/
def mappingEntries (id : Nat) : Build (List (Value × Value)) := do
  match (← get).graph.contentOf id with
  | .mapping _ =>
    change (Graph.flatten id)
    let entries ← entriesOf [] ((← get).graph.entriesOf id)
    pure (entries.map fun entry => (entry.1.value, entry.2))
  | _ => throw (.problem .wrongShape)

/-- The nodes of the items of a sequence. -/
def sequenceItems (id : Nat) : Build (List Nat) := do
  match (← get).graph.contentOf id with
  | .sequence items => pure items
  | _ => throw (.problem .wrongShape)

/-- The pair of the one entry of a mapping, as a cell. -/
def pairOf (id : Nat) : Build Value := do
  match (← get).graph.contentOf id with
  | .mapping [(keyNode, valueNode)] =>
    let key ← valueOf keyNode
    let value ← valueOf valueNode
    let number := (← get).cells.size
    modify fun assembly => { assembly with cells := assembly.cells.push (.tuple [key, value]) }
    pure (.cell number)
  | _ => throw (.problem .wrongShape)

/-- What a collection holds, by its tag. -/
def contentOf (id : Nat) : Build Value := do
  match (← get).graph.tagOf id with
  | .mapping => .mapping <$> mappingEntries id
  | .set => return .set (Arrangement.arrange ((← mappingEntries id).map Prod.fst))
  | .sequence => .list <$> (← sequenceItems id).mapM valueOf
  | _ => .list <$> (← sequenceItems id).mapM pairOf

/-- Gives one collection its content. -/
def fillOne (id : Nat) : Build Unit := do
  let content ← contentOf id
  modify fun assembly => { assembly with cells := assembly.cells.set! id content }

/-- Gives the collections that wait their content in the order in which they were met, and then
those that were met meanwhile. The number bounds how often that goes on, which the number of nodes
does. -/
def fill : Nat → Build Unit
  | 0 => pure ()
  | rounds + 1 => do
    match (← get).waiting.reverse with
    | [] => pure ()
    | waiting =>
      modify fun assembly => { assembly with waiting := [] }
      waiting.forM fillOne
      fill rounds

end Assembly

/-- **The value of a document.** -/
def Document.toValue (document : Document) : Except Fault Value := do
  let size := document.graph.size
  let build : Assembly.Build Value := do
    let value ← Assembly.valueOf document.root
    Assembly.fill size
    return value
  let (value, assembly) ←
    build.run
      { graph := document.graph
        readings := Array.replicate size none
        cells := Array.replicate size .null }
  .ok (value.tie assembly.cells)

end ViewLayout.Yaml
