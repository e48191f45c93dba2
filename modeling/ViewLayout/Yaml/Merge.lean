import ViewLayout.Yaml.Node

/-!
# Merged mappings

A mapping takes over the entries of the mappings that it names under `<<`. `Graph.flatten` puts them
in front of the mapping's own entries, after flattening the mappings that they come from. A mapping
may name itself: the entry that does so is gone before it is followed, so that a walk along such
entries ends.
-/

namespace ViewLayout.Yaml

namespace Graph

/-- A step that changes a graph. -/
abbrev Change : Type → Type := StateT Graph (Except Fault)

/-- Whether an entry takes over those of other mappings. -/
def isMerging (graph : Graph) (entry : Nat × Nat) : Bool :=
  graph.tagOf entry.1 = .merge

/-- How many entries of a graph take over others. -/
def mergeCount (graph : Graph) : Nat :=
  (graph.toList.flatMap fun node =>
    match node.content with
    | .mapping entries => entries.filter graph.isMerging
    | _ => []).length

/-- The entries without the first one that satisfies a condition, and that one. -/
def takeFirst? (p : Nat × Nat → Bool) :
    List (Nat × Nat) → Option ((Nat × Nat) × List (Nat × Nat))
  | [] => none
  | entry :: rest =>
    if p entry then some (entry, rest)
    else (takeFirst? p rest).map fun (found, others) => (found, entry :: others)

/-- The entries of a mapping that is flattened first. -/
def flattened (flatten : Nat → Change Unit) (id : Nat) : Change (List (Nat × Nat)) := do
  match (← get).contentOf id with
  | .mapping _ =>
    flatten id
    return (← get).entriesOf id
  | _ => throw (.problem .badMerge)

/-- The entries that a value of `<<` gives; of several mappings the last one's come first. -/
def namedEntries (flatten : Nat → Change Unit) (id : Nat) : Change (List (Nat × Nat)) := do
  match (← get).contentOf id with
  | .sequence items =>
    let parts ← items.mapM (flattened flatten)
    return parts.reverse.flatten
  | _ => flattened flatten id

/-- Takes the merging entries out of a mapping, one after the other, and gives what they name. The
number bounds how many there are. -/
def takeMerged (flatten : Nat → Change Unit) (id : Nat) : Nat → Change (List (Nat × Nat))
  | 0 => pure []
  | count + 1 => do
    let graph ← get
    match takeFirst? graph.isMerging (graph.entriesOf id) with
    | none => pure []
    | some ((_, value), rest) =>
      set (graph.setContent id (.mapping rest))
      let first ← namedEntries flatten value
      let others ← takeMerged flatten id count
      return first ++ others

/-- Makes the keys of a mapping that are equals signs texts. -/
def settleKeys (graph : Graph) (id : Nat) : Graph :=
  (graph.entriesOf id).foldl
    (fun graph entry =>
      if graph.tagOf entry.1 = .default then graph.setTag entry.1 .string else graph)
    graph

/-- Puts the entries that a mapping takes over in front of its own. The number bounds how many
mappings deep that goes. -/
def flattenWithin : Nat → Nat → Change Unit
  | 0, _ => pure ()
  | depth + 1, id => do
    let merged ← takeMerged (flattenWithin depth) id ((← get).entriesOf id).length
    modify fun graph =>
      (graph.setContent id (.mapping (merged ++ graph.entriesOf id))).settleKeys id

/-- Puts the entries that a mapping takes over in front of its own. Every mapping that is entered
on the way has lost a merging entry before, so that their number bounds the depth. -/
def flatten (id : Nat) : Change Unit := do
  let graph ← get
  if (graph.entriesOf id).any graph.isMerging then flattenWithin (graph.mergeCount + 1) id
  else set (graph.settleKeys id)

end Graph

end ViewLayout.Yaml
