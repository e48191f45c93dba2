import ViewLayout.Proofs.Yaml.Nodes
import ViewLayout.Yaml.Assembly

/-!
# What has no value

A document that was read has a value unless the rules are broken or one of its scalars has none.
Merging changes which entries a mapping has and what some keys are tagged, and no scalar.
-/

namespace ViewLayout.Yaml

/-- Why the value of a document written in tokens cannot be assembled. -/
inductive Valueless (tokens : List Token) : Fault → Prop
  | problem (problem : Problem) : Valueless tokens (.problem problem)
  /-- A scalar does not have the value that its tag asks for. -/
  | scalar {text : String} {fault : Fault} (tag : Tag) (written : WrittenIn tokens text)
    (failed : scalarValue tag text = .error fault) : Valueless tokens fault
  /-- A mapping is tagged as a time. -/
  | timeInMapping : Valueless tokens (.unreadable .timeInMapping)

variable {tokens : List Token} {α : Type}

/-- A reading that ends at problems only ends at no scalar. -/
theorem Ends.valueless {reading : Except Fault α} {gives : α → Prop}
    (ends : Ends Fault.IsProblem reading gives) : Ends (Valueless tokens) reading gives :=
  ends.mono fun _ ⟨problem, same⟩ => same ▸ .problem problem

namespace Graph

variable {graph : Graph}

/-- A tag changes no content. -/
theorem contentOf_setTag (id other : Nat) (tag : Tag) :
    (graph.setTag id tag).contentOf other = graph.contentOf other := by
  unfold setTag contentOf
  rw [Array.getElem?_modify]
  split
  · cases graph[other]? <;> rfl
  · rfl

/-- Keys are settled by tags alone. -/
theorem TextsIn.settleKeys (texts : graph.TextsIn tokens) (id : Nat) :
    TextsIn tokens (graph.settleKeys id) := by
  unfold Graph.settleKeys
  generalize graph.entriesOf id = entries
  induction entries generalizing graph with
  | nil => exact texts
  | cons entry rest inner =>
    rw [List.foldl_cons]
    refine inner ?_
    split
    · intro other text held
      exact texts other text ((contentOf_setTag _ _ _).symm.trans held)
    · exact texts

/-- A step that changes a graph and leaves its scalars as they are. -/
abbrev Changes (tokens : List Token) (step : Change α) : Prop :=
  Keeps (TextsIn tokens) Fault.IsProblem step fun _ => True

section

variable {flatten : Nat → Change Unit} (inner : ∀ id, Changes tokens (flatten id))
include inner

theorem changes_flattened (id : Nat) : Changes tokens (flattened flatten id) := by
  unfold flattened
  refine Keeps.get.bind fun graph _ => ?_
  split
  · exact (inner id).andThen fun _ => Keeps.get.andThen fun _ => .pure trivial
  · exact .throw ⟨_, rfl⟩

theorem changes_namedEntries (id : Nat) : Changes tokens (namedEntries flatten id) := by
  unfold namedEntries
  refine Keeps.get.bind fun graph _ => ?_
  split
  · exact (Keeps.mapM (changes_flattened inner) _).andThen fun _ => .pure trivial
  · exact changes_flattened inner id

theorem changes_takeMerged (id count : Nat) : Changes tokens (takeMerged flatten id count) := by
  induction count with
  | zero => exact .pure trivial
  | succ count later =>
    unfold takeMerged
    refine Keeps.get.bind fun graph texts => ?_
    split
    · exact .pure trivial
    · refine Keeps.andThen (.set (texts.setMapping _)) fun _ => ?_
      exact (changes_namedEntries inner _).andThen fun _ => later.andThen fun _ => .pure trivial

end

theorem changes_flattenWithin : ∀ (depth id : Nat), Changes tokens (flattenWithin depth id)
  | 0, _ => .pure trivial
  | depth + 1, id => by
    unfold flattenWithin
    refine Keeps.get.bind fun graph _ => ?_
    refine (changes_takeMerged (changes_flattenWithin depth) id _).andThen fun merged => ?_
    exact .update fun _ texts => (texts.setMapping _).settleKeys id

theorem changes_flatten (id : Nat) : Changes tokens (flatten id) := by
  unfold flatten
  refine Keeps.get.bind fun graph texts => ?_
  split
  · exact changes_flattenWithin _ id
  · exact .set (texts.settleKeys id)

/-- The text of a node is written, or the node has none. -/
theorem scalarText_comes (texts : graph.TextsIn tokens) : ∀ fuel id : Nat,
    Ends Fault.IsProblem (scalarText fuel graph id) (WrittenIn tokens)
  | 0, _ => ⟨_, rfl⟩
  | fuel + 1, id => by
    unfold scalarText
    cases content : graph.contentOf id with
    | scalar text => exact texts id text content
    | sequence _ => exact ⟨_, rfl⟩
    | mapping entries =>
      dsimp only
      split
      · exact scalarText_comes texts fuel _
      · exact ⟨_, rfl⟩

end Graph

namespace Assembly

open Yaml.Graph

/-- A scalar is given its value, or it is valueless. -/
theorem scalarValue_ends (tag : Tag) {text : String} (written : WrittenIn tokens text) :
    Ends (Valueless tokens) (scalarValue tag text) fun _ => True := by
  cases read : scalarValue tag text with
  | ok value => trivial
  | error fault => exact .scalar tag written read

/-- A node that has no value is tagged so, or its text is written in the tokens. -/
theorem scalarOf_ends {graph : Graph} (texts : graph.TextsIn tokens) (id : Nat) :
    Ends (Valueless tokens) (scalarOf graph id) fun _ => True := by
  unfold scalarOf
  dsimp only
  split
  · exact Valueless.problem _
  refine (scalarText_comes texts (graph.size + 1) id).valueless.bind fun text written => ?_
  split
  · exact .timeInMapping
  · refine (scalarValue_ends _ written).bind fun value _ => ?_
    split <;> trivial

/-- A step of assembling that fails only for what has no value. -/
abbrev Builds (tokens : List Token) (step : Build α) : Prop :=
  Keeps (fun assembly => assembly.graph.TextsIn tokens) (Valueless tokens) step fun _ => True

theorem builds_readingOf (id : Nat) : Builds tokens (readingOf id) := by
  unfold readingOf
  refine Keeps.get.bind fun assembly _ => ?_
  split
  · exact .pure trivial
  · refine Keeps.get.bind fun assembly _ => ?_
    split
    · exact Keeps.andThen (.update fun _ texts => texts) fun _ => .pure trivial
    · refine Keeps.get.bind fun assembly texts => ?_
      refine Keeps.andThen (.lift (scalarOf_ends texts id)) ?_
      exact fun _ => Keeps.andThen (.update fun _ texts => texts) fun _ => .pure trivial

theorem builds_valueOf (id : Nat) : Builds tokens (valueOf id) :=
  (builds_readingOf id).map

theorem builds_change {step : Change Unit} (changes : Changes tokens step) :
    Builds tokens (change step) := by
  unfold change
  refine Keeps.get.bind fun assembly texts => ?_
  refine (Keeps.lift (changes assembly.graph texts).valueless).bind fun result held => ?_
  exact .update fun _ _ => held.2

theorem builds_entriesOf : ∀ (nodes : List (Nat × Nat)) (entries : List (Reading × Value)),
    Builds tokens (entriesOf entries nodes)
  | [], _ => .pure trivial
  | (keyNode, valueNode) :: rest, entries => by
    unfold entriesOf
    refine (builds_readingOf keyNode).andThen fun key => ?_
    split
    · exact Keeps.throw (.problem _)
    · exact (builds_valueOf valueNode).andThen fun _ => builds_entriesOf rest _

theorem builds_mappingEntries (id : Nat) : Builds tokens (mappingEntries id) := by
  unfold mappingEntries
  refine Keeps.get.bind fun assembly _ => ?_
  split
  · refine (builds_change (changes_flatten id)).andThen fun _ => Keeps.get.bind fun _ _ => ?_
    exact (builds_entriesOf _ _).andThen fun _ => .pure trivial
  · exact .throw (.problem _)

theorem builds_sequenceItems (id : Nat) : Builds tokens (sequenceItems id) := by
  unfold sequenceItems
  refine Keeps.get.bind fun assembly _ => ?_
  split
  · exact .pure trivial
  · exact .throw (.problem _)

theorem builds_pairOf (id : Nat) : Builds tokens (pairOf id) := by
  unfold pairOf
  refine Keeps.get.bind fun assembly _ => ?_
  split
  · refine (builds_valueOf _).andThen fun key => (builds_valueOf _).andThen fun value => ?_
    refine Keeps.get.bind fun assembly _ => ?_
    exact Keeps.andThen (.update fun _ texts => texts) fun _ => .pure trivial
  · exact .throw (.problem _)

theorem builds_contentOf (id : Nat) : Builds tokens (contentOf id) := by
  unfold contentOf
  refine Keeps.get.bind fun assembly _ => ?_
  split
  · exact (builds_mappingEntries id).map
  · exact (builds_mappingEntries id).andThen fun _ => .pure trivial
  · exact (builds_sequenceItems id).andThen fun _ => (Keeps.mapM builds_valueOf _).map
  · exact (builds_sequenceItems id).andThen fun _ => (Keeps.mapM builds_pairOf _).map

theorem builds_fillOne (id : Nat) : Builds tokens (fillOne id) :=
  (builds_contentOf id).andThen fun _ => .update fun _ texts => texts

theorem builds_fill (rounds : Nat) : Builds tokens (fill rounds) := by
  induction rounds with
  | zero => exact .pure trivial
  | succ rounds later =>
    unfold fill
    refine Keeps.get.bind fun assembly _ => ?_
    split
    · exact .pure trivial
    · exact Keeps.andThen (.update fun _ texts => texts) fun _ =>
        (Keeps.forM builds_fillOne _).andThen fun _ => later

end Assembly

/-- **A document has a value**, unless the rules are broken or a scalar has none. -/
theorem Document.toValue_ends {document : Document}
    (texts : document.graph.TextsIn tokens) :
    Ends (Valueless tokens) document.toValue fun _ => True := by
  have builds : Assembly.Builds tokens (do
      let value ← Assembly.valueOf document.root
      Assembly.fill document.graph.size
      return value) :=
    (Assembly.builds_valueOf _).andThen fun _ => (Assembly.builds_fill _).andThen fun _ =>
      .pure trivial
  exact (builds _ texts).bind fun _ _ => trivial

end ViewLayout.Yaml
