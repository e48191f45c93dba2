import ViewLayout.Yaml.Node
import ViewLayout.Yaml.Token

/-!
# The nodes of a text

`Document.ofTokens?` reads the one document that the tokens of a text may describe into a graph of
nodes. An alias stands for the node that its anchor names, which need not be complete yet.
-/

namespace ViewLayout.Yaml

namespace Graph

/-- What is known while the tokens of a document are read. -/
structure Reader where
  tokens : List Token
  /-- The nodes with an anchor. -/
  anchors : List (String × Nat) := []
  /-- What tag handles stand for. -/
  handles : List (String × String) := []
  /-- The nodes that were found so far. A collection stands there before it is read to its end. -/
  graph : Graph := #[]

/-- A step that reads tokens. -/
abbrev Read := StateT Reader (Except Fault)

namespace Read

/-- The next token, if there is one. The end of a readable text is no token. -/
def peek : Read (Option Token) := do
  match (← get).tokens with
  | [] => pure none
  | .broken fault :: _ => throw fault
  | token :: _ => pure (some token)

/-- Leaves the next token. -/
def leave : Read Unit :=
  modify fun reader => { reader with tokens := reader.tokens.tail }

/-- Leaves the next token if it is the given one, and says whether it was. -/
def accept (token : Token) : Read Bool := do
  if (← peek) = some token then
    leave
    pure true
  else pure false

/-- Whether the next token is one of the given ones. -/
def atAny (tokens : List Token) : Read Bool := do
  match ← peek with
  | some token => pure (tokens.contains token)
  | none => pure false

/-- Refuses a text for a problem. -/
def refuse {α : Type} (problem : Problem) : Read α :=
  throw (.problem problem)

end Read

open Read

/-- Tokens are compared as a whole. -/
instance : BEq Token := ⟨fun a b => decide (a = b)⟩

/-- The anchor at the next token, if there is one. -/
def takeAnchor : Read (Option String) := do
  match ← peek with
  | some (.anchor name) =>
    leave
    pure (some name)
  | _ => pure none

/-- The handle and the suffix of the tag at the next token, if there is one. -/
def takeTag : Read (Option (Option String × String)) := do
  match ← peek with
  | some (.tag handle suffix) =>
    leave
    pure (some (handle, suffix))
  | _ => pure none

/-- The name of a tag, with what its handle stands for. -/
def tagName : Option (Option String × String) → Read (Option String)
  | none => pure none
  | some (none, suffix) => pure (some suffix)
  | some (some handle, suffix) => do
    match (← get).handles.lookup handle with
    | some meaning => pure (some (meaning ++ suffix))
    | none => refuse .unknownTagHandle

/-- The anchor and the tag before a node, in either order. -/
def takeProperties : Read (Option String × Option String) := do
  match ← takeAnchor with
  | some anchor => pure (some anchor, ← tagName (← takeTag))
  | none =>
    match ← takeTag with
    | none => pure (none, none)
    | tag =>
      let anchor ← takeAnchor
      pure (anchor, ← tagName tag)

/-- Whether a tag leaves the kind of a node open. -/
def isOpen (tag : Option String) : Bool :=
  tag.isNone || tag == some "!"

/-- The tag of a collection, which is that of its kind unless it is tagged. -/
def collectionTag (own : Tag) (tag : Option String) : Tag :=
  match tag with
  | none => own
  | some name => if name = "!" then own else .ofName name

/-- The tag of a scalar. One in quotes or in a block is a text unless it is tagged. -/
def scalarTag (tag : Option String) (text : String) (plain : Bool) : Tag :=
  match tag with
  | none => if plain then .ofPlain text else .string
  | some name => if name = "!" then .ofPlain text else .ofName name

/-- Refuses an anchor that has a node already; a name may be used once. -/
def checkAnchor (anchor : Option String) : Read Unit := do
  match anchor with
  | none => pure ()
  | some name => if ((← get).anchors.lookup name).isSome then refuse .repeatedAnchor

/-- Adds a node to the graph, under its anchor if it has one. -/
def addNode (anchor : Option String) (node : Node) : Read Nat := do
  checkAnchor anchor
  let id := (← get).graph.size
  let named := (anchor.map fun name => (name, id)).toList
  modify fun reader =>
    { reader with anchors := named ++ reader.anchors, graph := reader.graph.push node }
  pure id

/-- Gives a collection the content that was read to its end. -/
def complete (id : Nat) (content : Content) : Read Nat := do
  modify fun reader => { reader with graph := reader.graph.setContent id content }
  pure id

/-- The node where nothing is written. -/
def addEmpty : Read Nat :=
  addNode none ⟨.null, .scalar ""⟩

/-- A node of which only an anchor or a tag is written. -/
def addUnwritten (anchor tag : Option String) : Read Nat := do
  if anchor.isNone && tag.isNone then refuse .unexpectedToken
  else addNode anchor ⟨if isOpen tag then .null else .ofName (tag.getD ""), .scalar ""⟩

/-- A collection that is still to be read. -/
def addSequence (anchor tag : Option String) : Read Nat :=
  addNode anchor ⟨collectionTag .sequence tag, .sequence []⟩

/-- A mapping that is still to be read. -/
def addMapping (anchor tag : Option String) : Read Nat :=
  addNode anchor ⟨collectionTag .mapping tag, .mapping []⟩

mutual

/-- A node. The number bounds the nested steps, of which each token takes at most three. In a block
a node may be a block collection, and where `hanging` is set also a sequence that is not
indented. -/
def readNode (block hanging : Bool) : Nat → Read Nat
  | 0 => refuse .unexpectedToken
  | fuel + 1 => do
    match ← peek with
    | some (.alias name) =>
      leave
      match (← get).anchors.lookup name with
      | none => refuse .unknownAlias
      | some id => pure id
    | _ =>
      let (anchor, tag) ← takeProperties
      match ← peek with
      | some .blockEntry =>
        if hanging then
          let id ← addSequence anchor tag
          complete id (.sequence (← readHangingItems fuel))
        else addUnwritten anchor tag
      | some (.scalar text plain) =>
        let id ← addNode anchor ⟨scalarTag tag text plain, .scalar text⟩
        leave
        pure id
      | some .flowSequenceStart =>
        let id ← addSequence anchor tag
        leave
        complete id (.sequence (← readFlowItems true fuel))
      | some .flowMappingStart =>
        let id ← addMapping anchor tag
        leave
        complete id (.mapping (← readFlowEntries true fuel))
      | some .blockSequenceStart =>
        if block then
          let id ← addSequence anchor tag
          leave
          complete id (.sequence (← readBlockItems fuel))
        else addUnwritten anchor tag
      | some .blockMappingStart =>
        if block then
          let id ← addMapping anchor tag
          leave
          complete id (.mapping (← readBlockEntries fuel))
        else addUnwritten anchor tag
      | _ => addUnwritten anchor tag

/-- A node, or an empty one if one of the given tokens or the end comes next. -/
def readNodeUnless (stops : List Token) (block hanging : Bool) : Nat → Read Nat
  | 0 => refuse .unexpectedToken
  | fuel + 1 => do
    if ← atAny stops then addEmpty else readNode block hanging fuel

/-- The items of a block sequence, up to its end. -/
def readBlockItems : Nat → Read (List Nat)
  | 0 => refuse .unexpectedToken
  | fuel + 1 => do
    if ← accept .blockEntry then
      let item ← readNodeUnless [.blockEntry, .blockEnd] true false fuel
      let items ← readBlockItems fuel
      pure (item :: items)
    else if ← accept .blockEnd then pure []
    else refuse .unexpectedToken

/-- The items of a sequence that is not indented, up to the first token that is none. -/
def readHangingItems : Nat → Read (List Nat)
  | 0 => refuse .unexpectedToken
  | fuel + 1 => do
    if ← accept .blockEntry then
      let item ← readNodeUnless [.blockEntry, .key, .value, .blockEnd] true false fuel
      let items ← readHangingItems fuel
      pure (item :: items)
    else pure []

/-- The entries of a block mapping, up to its end. -/
def readBlockEntries : Nat → Read (List (Nat × Nat))
  | 0 => refuse .unexpectedToken
  | fuel + 1 => do
    if ← accept .key then
      let key ← readNodeUnless [.key, .value, .blockEnd] true true fuel
      let value ←
        if ← accept .value then readNodeUnless [.key, .value, .blockEnd] true true fuel
        else addEmpty
      let entries ← readBlockEntries fuel
      pure ((key, value) :: entries)
    else if ← accept .blockEnd then pure []
    else refuse .unexpectedToken

/-- The items of a flow sequence, up to its end. An item may be a mapping of one entry that has no
brackets. -/
def readFlowItems (first : Bool) : Nat → Read (List Nat)
  | 0 => refuse .unexpectedToken
  | fuel + 1 => do
    if ← accept .flowSequenceEnd then pure []
    else
      let separated ← if first then pure true else accept .flowEntry
      if !separated then refuse .unexpectedToken
      else if ← accept .key then
        let item ← addMapping none none
        let key ← readNodeUnless [.value, .flowEntry, .flowSequenceEnd] false false fuel
        let value ←
          if ← accept .value then
            readNodeUnless [.flowEntry, .flowSequenceEnd] false false fuel
          else addEmpty
        let _ ← complete item (.mapping [(key, value)])
        let items ← readFlowItems false fuel
        pure (item :: items)
      else if ← accept .flowSequenceEnd then pure []
      else
        let item ← readNode false false fuel
        let items ← readFlowItems false fuel
        pure (item :: items)

/-- The entries of a flow mapping, up to its end. -/
def readFlowEntries (first : Bool) : Nat → Read (List (Nat × Nat))
  | 0 => refuse .unexpectedToken
  | fuel + 1 => do
    if ← accept .flowMappingEnd then pure []
    else
      let separated ← if first then pure true else accept .flowEntry
      if !separated then refuse .unexpectedToken
      else if ← accept .key then
        let key ← readNodeUnless [.value, .flowEntry, .flowMappingEnd] false false fuel
        let value ←
          if ← accept .value then
            readNodeUnless [.flowEntry, .flowMappingEnd] false false fuel
          else addEmpty
        let entries ← readFlowEntries false fuel
        pure ((key, value) :: entries)
      else if ← accept .flowMappingEnd then pure []
      else
        let key ← readNode false false fuel
        let value ← addEmpty
        let entries ← readFlowEntries false fuel
        pure ((key, value) :: entries)

end

/-- The directives before a document: at most one version, which has to be 1, and each tag handle
once. -/
def readDirectives : Nat → Option Nat → List (String × String) → Read (List (String × String))
  | 0, _, _ => refuse .unexpectedToken
  | fuel + 1, version, handles => do
    match ← peek with
    | some (.directive content) =>
      leave
      match content with
      | .version major =>
        if version.isSome || major != 1 then refuse .badDirective
        else readDirectives fuel (some major) handles
      | .tagPrefix handle meaning =>
        if (handles.lookup handle).isSome then refuse .badDirective
        else readDirectives fuel version ((handle, meaning) :: handles)
      | .other => readDirectives fuel version handles
    | _ => pure handles

/-- What handles stand for unless a directive says otherwise. -/
def standardHandles : List (String × String) :=
  [("!", "!"), ("!!", Tag.standardPrefix)]

/-- The marks of ended documents. -/
def skipDocumentEnds : Nat → Read Unit
  | 0 => pure ()
  | fuel + 1 => do
    if ← accept .documentEnd then skipDocumentEnds fuel

/-- Whether the next token starts the head of a document. -/
def atDocumentHead : Read Bool := do
  match ← peek with
  | some (.directive _) => pure true
  | some .documentStart => pure true
  | _ => pure false

/-- The root of the one document of a text, if there is one. -/
def readDocument (fuel : Nat) : Read (Option Nat) := do
  if (← peek).isNone then pure none
  else
    let node ←
      if ← atDocumentHead then
        let handles ← readDirectives fuel none []
        modify fun reader => { reader with handles := handles ++ standardHandles }
        if !(← accept .documentStart) then refuse .unexpectedToken
        else if ← atDocumentHead then addEmpty
        else if (← peek).isNone then addEmpty
        else readNodeUnless [.documentEnd] true false fuel
      else
        modify fun reader => { reader with handles := standardHandles }
        readNode true false fuel
    skipDocumentEnds fuel
    if (← peek).isNone then pure (some node)
    else
      -- The head of a second document is read before it is refused, with the faults it has.
      let _ ← readDirectives fuel none []
      refuse .severalDocuments

end Graph

/-- A document: its nodes, and the number of its root. -/
structure Document where
  graph : Graph
  root : Nat

/-- The document that the tokens of a text describe, if the text holds one. -/
def Document.ofTokens? (tokens : List Token) : Except Fault (Option Document) := do
  let (root, reader) ← (Graph.readDocument (3 * tokens.length + 5)).run { tokens }
  .ok (root.map fun root => ⟨reader.graph, root⟩)

end ViewLayout.Yaml
