import ViewLayout.Proofs.Yaml.Steps
import ViewLayout.Yaml.Nodes

/-!
# Where nodes come from

The nodes of a document are read from its tokens. Their scalars are those among the tokens, or are
empty, and what goes wrong is a breach of the rules unless the tokens end with why they cannot be
read.
-/

namespace ViewLayout.Yaml

/-- A text is that of a scalar among tokens, or is empty since nothing is written. -/
def WrittenIn (tokens : List Token) (text : String) : Prop :=
  text = "" ∨ ∃ plain, Token.scalar text plain ∈ tokens

/-- A fault is a breach of the rules, or tokens end with it. -/
inductive ToldBy (tokens : List Token) : Fault → Prop
  | problem (problem : Problem) : ToldBy tokens (.problem problem)
  | broken {fault : Fault} (member : .broken fault ∈ tokens) : ToldBy tokens fault

namespace Graph

variable {tokens : List Token} {graph : Graph} {id : Nat} {α β : Type}

/-- The scalars of a graph are written in tokens. -/
def TextsIn (tokens : List Token) (graph : Graph) : Prop :=
  ∀ id text, graph.contentOf id = .scalar text → WrittenIn tokens text

/-- A new node keeps the texts of a graph in the tokens. -/
theorem TextsIn.push (texts : graph.TextsIn tokens) {node : Node}
    (written : ∀ text, node.content = .scalar text → WrittenIn tokens text) :
    TextsIn tokens (graph.push node) := by
  intro id text held
  unfold contentOf at held
  rw [Array.getElem?_push] at held
  split at held
  · exact written text held
  · exact texts id text held

/-- Content is changed at one node only. -/
theorem contentOf_setContent (graph : Graph) (id other : Nat) (content : Content) :
    (graph.setContent id content).contentOf other = content ∨
      (graph.setContent id content).contentOf other = graph.contentOf other := by
  unfold setContent contentOf
  rw [Array.getElem?_modify]
  split
  · cases graph[other]? with
    | none => exact .inr rfl
    | some node => exact .inl rfl
  · exact .inr rfl

/-- New content keeps the texts of a graph in the tokens. -/
theorem TextsIn.setContent (texts : graph.TextsIn tokens) {content : Content}
    (written : ∀ text, content = .scalar text → WrittenIn tokens text) :
    TextsIn tokens (graph.setContent id content) := by
  intro other text held
  rcases contentOf_setContent graph id other content with same | same
  · exact written text (same.symm.trans held)
  · exact texts other text (same.symm.trans held)

/-- A mapping holds no text of its own. -/
theorem TextsIn.setMapping (texts : graph.TextsIn tokens) (entries : List (Nat × Nat)) :
    TextsIn tokens (graph.setContent id (.mapping entries)) :=
  texts.setContent nofun

/-- What is known of a reader of tokens at any time: it has a part of them left, and the scalars it
found are written in them. -/
structure Reader.Within (tokens : List Token) (reader : Reader) : Prop where
  left : reader.tokens ⊆ tokens
  texts : reader.graph.TextsIn tokens

/-- A step of reading tokens that fails with what they tell, if at all. -/
abbrev Reads (tokens : List Token) (step : Read α) (gives : α → Prop) : Prop :=
  Keeps (Reader.Within tokens) (ToldBy tokens) step gives

/-- The step gives anything. -/
abbrev ReadsOn (tokens : List Token) (step : Read α) : Prop :=
  Reads tokens step fun _ => True

namespace Read

/-- What is peeked at is a token of the text. -/
theorem reads_peek :
    Reads tokens peek fun token? => ∀ token, token? = some token → token ∈ tokens := by
  unfold peek
  refine .bind .get fun reader within => ?_
  have left := within.left
  split
  · exact .pure nofun
  · next fault rest same =>
    rw [same] at left
    exact .throw (.broken (left List.mem_cons_self))
  · next token rest _ same =>
    rw [same] at left
    exact .pure fun _ same => Option.some.inj same ▸ left List.mem_cons_self

/-- Leaving a token leaves tokens of the text. -/
theorem reads_leave : ReadsOn tokens leave :=
  .update fun _ within => ⟨fun _ member => within.left (List.mem_of_mem_tail member), within.texts⟩

/-- Accepting a token reads on in the tokens. -/
theorem reads_accept (token : Token) : ReadsOn tokens (accept token) := by
  unfold accept
  refine reads_peek.bind fun next _ => ?_
  split
  · exact reads_leave.andThen fun _ => .pure trivial
  · exact .pure trivial

theorem reads_atAny (stops : List Token) : ReadsOn tokens (atAny stops) := by
  unfold atAny
  refine reads_peek.bind fun next _ => ?_
  split <;> exact .pure trivial

/-- A refusal is a problem, and no scalar is met. -/
theorem reads_refuse (problem : Problem) : ReadsOn tokens (refuse problem : Read α) :=
  .throw (.problem problem)

end Read

open Read

theorem reads_takeAnchor : ReadsOn tokens takeAnchor := by
  unfold takeAnchor
  refine reads_peek.bind fun next _ => ?_
  split
  · exact reads_leave.andThen fun _ => .pure trivial
  · exact .pure trivial

theorem reads_takeTag : ReadsOn tokens takeTag := by
  unfold takeTag
  refine reads_peek.bind fun next _ => ?_
  split
  · exact reads_leave.andThen fun _ => .pure trivial
  · exact .pure trivial

theorem reads_tagName (tag : Option (Option String × String)) : ReadsOn tokens (tagName tag) := by
  unfold tagName
  split
  · exact .pure trivial
  · exact .pure trivial
  · refine Keeps.get.bind fun reader _ => ?_
    split
    · exact .pure trivial
    · exact reads_refuse _

theorem reads_takeProperties : ReadsOn tokens takeProperties := by
  unfold takeProperties
  refine reads_takeAnchor.andThen fun anchor => ?_
  split
  · exact reads_takeTag.andThen fun tag => (reads_tagName tag).andThen fun _ => .pure trivial
  · refine reads_takeTag.andThen fun tag => ?_
    split
    · exact .pure trivial
    · exact reads_takeAnchor.andThen fun _ => (reads_tagName _).andThen fun _ => .pure trivial

theorem reads_checkAnchor (anchor : Option String) : ReadsOn tokens (checkAnchor anchor) := by
  unfold checkAnchor
  split
  · exact .pure trivial
  · refine Keeps.get.bind fun reader _ => ?_
    split
    · exact reads_refuse _
    · exact .pure trivial

/-- A new node reads on if its text is in the tokens. -/
theorem reads_addNode (anchor : Option String) {node : Node}
    (written : ∀ text, node.content = .scalar text → WrittenIn tokens text) :
    ReadsOn tokens (addNode anchor node) := by
  unfold addNode
  refine (reads_checkAnchor anchor).andThen fun _ => Keeps.get.bind fun reader _ => ?_
  refine Keeps.andThen (.update fun reader within => ?_) fun _ => .pure trivial
  exact ⟨within.left, within.texts.push written⟩

theorem reads_complete (id : Nat) {content : Content}
    (written : ∀ text, content = .scalar text → WrittenIn tokens text) :
    ReadsOn tokens (complete id content) := by
  unfold complete
  refine Keeps.andThen (.update fun reader within => ?_) fun _ => .pure trivial
  exact ⟨within.left, within.texts.setContent written⟩

theorem reads_addEmpty : ReadsOn tokens addEmpty :=
  reads_addNode none fun _ same => .inl (Content.scalar.inj same).symm

theorem reads_addUnwritten (anchor tag : Option String) :
    ReadsOn tokens (addUnwritten anchor tag) := by
  unfold addUnwritten
  split
  · exact reads_refuse _
  · exact reads_addNode anchor fun _ same => .inl (Content.scalar.inj same).symm

theorem reads_addSequence (anchor tag : Option String) :
    ReadsOn tokens (addSequence anchor tag) :=
  reads_addNode anchor nofun

theorem reads_addMapping (anchor tag : Option String) : ReadsOn tokens (addMapping anchor tag) :=
  reads_addNode anchor nofun

mutual

/-- A node that is read comes from the tokens, with all the nodes in it. -/
theorem reads_readNode (block hanging : Bool) : ∀ fuel : Nat,
    ReadsOn tokens (readNode block hanging fuel)
  | 0 => reads_refuse _
  | fuel + 1 => by
    unfold readNode
    refine reads_peek.andThen fun first => ?_
    split
    · refine reads_leave.andThen fun _ => Keeps.get.bind fun reader _ => ?_
      split
      · exact reads_refuse _
      · exact .pure trivial
    · refine reads_takeProperties.andThen fun properties => ?_
      obtain ⟨anchor, tag⟩ := properties
      refine reads_peek.bind fun next here => ?_
      split
      · split
        · exact (reads_addSequence _ _).andThen fun id =>
            (reads_readHangingItems fuel).andThen fun items =>
              reads_complete id nofun
        · exact reads_addUnwritten _ _
      · next text plain =>
        refine (reads_addNode _ fun other same => ?_).andThen fun id =>
          reads_leave.andThen fun _ => .pure trivial
        exact .inr ⟨plain, Content.scalar.inj same ▸ here _ rfl⟩
      · exact (reads_addSequence _ _).andThen fun id => reads_leave.andThen fun _ =>
          (reads_readFlowItems true fuel).andThen fun items =>
            reads_complete id nofun
      · exact (reads_addMapping _ _).andThen fun id => reads_leave.andThen fun _ =>
          (reads_readFlowEntries true fuel).andThen fun entries =>
            reads_complete id nofun
      · split
        · exact (reads_addSequence _ _).andThen fun id => reads_leave.andThen fun _ =>
            (reads_readBlockItems fuel).andThen fun items =>
              reads_complete id nofun
        · exact reads_addUnwritten _ _
      · split
        · exact (reads_addMapping _ _).andThen fun id => reads_leave.andThen fun _ =>
            (reads_readBlockEntries fuel).andThen fun entries =>
              reads_complete id nofun
        · exact reads_addUnwritten _ _
      · exact reads_addUnwritten _ _

/-- Reading a node, unless a token stops it, reads on in the tokens. -/
theorem reads_readNodeUnless (stops : List Token) (block hanging : Bool) : ∀ fuel : Nat,
    ReadsOn tokens (readNodeUnless stops block hanging fuel)
  | 0 => reads_refuse _
  | fuel + 1 => by
    unfold readNodeUnless
    refine (reads_atAny stops).andThen fun stopped => ?_
    split
    · exact reads_addEmpty
    · exact reads_readNode block hanging fuel

theorem reads_readBlockItems : ∀ fuel : Nat, ReadsOn tokens (readBlockItems fuel)
  | 0 => reads_refuse _
  | fuel + 1 => by
    unfold readBlockItems
    refine (reads_accept _).andThen fun entered => ?_
    split
    · exact (reads_readNodeUnless _ _ _ fuel).andThen fun _ =>
        (reads_readBlockItems fuel).andThen fun _ => .pure trivial
    · refine (reads_accept _).andThen fun ended => ?_
      split
      · exact .pure trivial
      · exact reads_refuse _

theorem reads_readHangingItems : ∀ fuel : Nat, ReadsOn tokens (readHangingItems fuel)
  | 0 => reads_refuse _
  | fuel + 1 => by
    unfold readHangingItems
    refine (reads_accept _).andThen fun entered => ?_
    split
    · exact (reads_readNodeUnless _ _ _ fuel).andThen fun _ =>
        (reads_readHangingItems fuel).andThen fun _ => .pure trivial
    · exact .pure trivial

theorem reads_readBlockEntries : ∀ fuel : Nat, ReadsOn tokens (readBlockEntries fuel)
  | 0 => reads_refuse _
  | fuel + 1 => by
    unfold readBlockEntries
    refine (reads_accept _).andThen fun entered => ?_
    split
    · refine (reads_readNodeUnless _ _ _ fuel).andThen fun key => ?_
      refine (reads_accept _).andThen fun valued => ?_
      refine Keeps.eitherThen (reads_readNodeUnless _ _ _ fuel) reads_addEmpty fun value => ?_
      exact (reads_readBlockEntries fuel).andThen fun _ => .pure trivial
    · refine (reads_accept _).andThen fun ended => ?_
      split
      · exact .pure trivial
      · exact reads_refuse _

theorem reads_readFlowItems (first : Bool) : ∀ fuel : Nat,
    ReadsOn tokens (readFlowItems first fuel)
  | 0 => reads_refuse _
  | fuel + 1 => by
    unfold readFlowItems
    have others := reads_readFlowItems false fuel
    refine (reads_accept _).andThen fun ended => ?_
    split
    · exact .pure trivial
    refine Keeps.eitherThen (.pure trivial) (reads_accept _) fun separated => ?_
    dsimp only
    split
    · exact reads_refuse _
    refine (reads_accept _).andThen fun keyed => ?_
    split
    · refine (reads_addMapping none none).andThen fun item => ?_
      refine (reads_readNodeUnless _ _ _ fuel).andThen fun key => ?_
      refine (reads_accept _).andThen fun valued => ?_
      refine Keeps.eitherThen (reads_readNodeUnless _ _ _ fuel) reads_addEmpty fun value => ?_
      refine (reads_complete item ?_).andThen fun _ => others.andThen fun _ => .pure trivial
      exact nofun
    · refine (reads_accept _).andThen fun ended => ?_
      split
      · exact .pure trivial
      · exact (reads_readNode _ _ fuel).andThen fun _ => others.andThen fun _ => .pure trivial

theorem reads_readFlowEntries (first : Bool) : ∀ fuel : Nat,
    ReadsOn tokens (readFlowEntries first fuel)
  | 0 => reads_refuse _
  | fuel + 1 => by
    unfold readFlowEntries
    have others := reads_readFlowEntries false fuel
    refine (reads_accept _).andThen fun ended => ?_
    split
    · exact .pure trivial
    refine Keeps.eitherThen (.pure trivial) (reads_accept _) fun separated => ?_
    dsimp only
    split
    · exact reads_refuse _
    refine (reads_accept _).andThen fun keyed => ?_
    split
    · refine (reads_readNodeUnless _ _ _ fuel).andThen fun key => ?_
      refine (reads_accept _).andThen fun valued => ?_
      refine Keeps.eitherThen (reads_readNodeUnless _ _ _ fuel) reads_addEmpty fun value => ?_
      exact others.andThen fun _ => .pure trivial
    · refine (reads_accept _).andThen fun ended => ?_
      split
      · exact .pure trivial
      · exact (reads_readNode _ _ fuel).andThen fun _ => reads_addEmpty.andThen fun _ =>
          others.andThen fun _ => .pure trivial

end

/-- Directives are read on in the tokens. -/
theorem reads_readDirectives : ∀ (fuel : Nat) (version : Option Nat)
    (handles : List (String × String)), ReadsOn tokens (readDirectives fuel version handles)
  | 0, _, _ => reads_refuse _
  | fuel + 1, version, handles => by
    unfold readDirectives
    refine reads_peek.andThen fun next => ?_
    split
    · refine reads_leave.andThen fun _ => ?_
      split
      · split
        · exact reads_refuse _
        · exact reads_readDirectives fuel _ _
      · split
        · exact reads_refuse _
        · exact reads_readDirectives fuel _ _
      · exact reads_readDirectives fuel _ _
    · exact .pure trivial

theorem reads_skipDocumentEnds : ∀ fuel : Nat, ReadsOn tokens (skipDocumentEnds fuel)
  | 0 => .pure trivial
  | fuel + 1 => by
    unfold skipDocumentEnds
    refine (reads_accept _).andThen fun ended => ?_
    split
    · exact reads_skipDocumentEnds fuel
    · exact .pure trivial

theorem reads_atDocumentHead : ReadsOn tokens atDocumentHead := by
  unfold atDocumentHead
  refine reads_peek.andThen fun next => ?_
  split <;> exact .pure trivial

/-- What follows the node of a document. -/
theorem reads_afterDocument (fuel node : Nat) :
    ReadsOn tokens (do
      skipDocumentEnds fuel
      if (← peek).isNone then pure (some node)
      else
        let _ ← readDirectives fuel none []
        refuse .severalDocuments) := by
  refine (reads_skipDocumentEnds fuel).andThen fun _ => reads_peek.andThen fun next => ?_
  split
  · exact .pure trivial
  · exact (reads_readDirectives fuel _ _).andThen fun _ => reads_refuse _

/-- A document is read on in the tokens. -/
theorem reads_readDocument (fuel : Nat) : ReadsOn tokens (readDocument fuel) := by
  unfold readDocument
  -- Which tag handles there are makes no difference to what is read.
  have handled : ∀ handles : List (String × String), ReadsOn tokens
      (modify fun reader => { reader with handles } : Read Unit) := fun handles =>
    .update fun _ within => ⟨within.left, within.texts⟩
  refine reads_peek.andThen fun next => ?_
  split
  · exact .pure trivial
  dsimp only
  have after := @reads_afterDocument tokens fuel
  refine reads_atDocumentHead.andThen fun headed => ?_
  split
  · refine (reads_readDirectives fuel _ _).andThen fun handles => ?_
    refine (handled _).andThen fun _ => (reads_accept _).andThen fun started => ?_
    split
    · exact (reads_refuse _).andThen after
    refine reads_atDocumentHead.andThen fun again => ?_
    split
    · exact reads_addEmpty.andThen after
    refine reads_peek.andThen fun next => ?_
    split
    · exact reads_addEmpty.andThen after
    · exact (reads_readNodeUnless _ _ _ fuel).andThen after
  · exact (handled _).andThen fun _ => (reads_readNode _ _ fuel).andThen after

end Graph

/-- **A document comes from its tokens**: its scalars are written in them, and if there is none,
the rules are broken or the tokens end with the cause. -/
theorem Document.comes_from_tokens (tokens : List Token) :
    Ends (ToldBy tokens) (ofTokens? tokens) fun document? =>
      ∀ document ∈ document?, document.graph.TextsIn tokens := by
  have within : Graph.Reader.Within tokens { tokens } :=
    ⟨fun _ member => member, fun _ _ same => .inl (Content.scalar.inj same).symm⟩
  refine (Graph.reads_readDocument (3 * tokens.length + 5) _ within).bind fun result held => ?_
  intro document found
  obtain ⟨root, -, rfl⟩ := Option.map_eq_some_iff.1 found
  exact held.2.texts

end ViewLayout.Yaml
