import ViewLayout.Proofs.Document.Mending
import ViewLayout.Proofs.Document.Telling

/-!
# Reading mended views

Flaws make no difference to what is read of a view: with and without them it gives the same
description, and each costs one report. `read_mend` says so of a whole view. It follows from what
the readings of the parts give, and `Sifts` is what is shown of each of them.
-/

namespace ViewLayout.Description

open Telling

variable {α β : Type} {first mended : Telling α} {next further : α → Telling β}
  {found others : List Flaw} {sink : Sink}

/-- Two readings give the same: the first one tells of flaws, and the second one of nothing. -/
def Sifts (telling mended : Telling α) (flaws : List Flaw) : Prop :=
  ∃ value, telling.Gives value (flaws.map Flaw.diagnostic) ∧ mended.Gives value []

theorem Sifts.pure (value : α) : Sifts (Pure.pure value) (Pure.pure value) [] :=
  ⟨value, .pure value, .pure value⟩

/-- A text or a mapping is a payload, and nothing else is. -/
theorem isFlawedArgument_text (key : String) (rhs : Value) :
    isFlawedArgument (.text key) rhs = (Payload.ofValue? rhs).isNone := by
  cases rhs <;> simp [isFlawedArgument, Payload.ofValue?, Value.text?]

/-- A flawed argument gives no directive. -/
theorem gives_ofSides?_of_flawed (sink : Sink) {lhs rhs : Value} (written : lhs.Writable)
    (shown : rhs.Writable) (flawed : isFlawedArgument lhs rhs = true) :
    (Directive.ofSides? sink lhs rhs).Gives none [(Flaw.argument lhs rhs).diagnostic] := by
  cases lhs with
  | text key =>
    rw [isFlawedArgument_text, Option.isNone_iff_eq_none] at flawed
    rw [Directive.ofSides?, flawed]
    exact .withReport none shown.isShowable
  | _ => exact .withReport none written.isShowable

/-- Any other argument gives one, and nothing is told. -/
theorem gives_ofSides?_of_sound (sink : Sink) {lhs rhs : Value}
    (sound : isFlawedArgument lhs rhs = false) :
    ∃ directive, (Directive.ofSides? sink lhs rhs).Gives (some directive) [] := by
  cases lhs with
  | text key =>
    rw [isFlawedArgument_text, Option.isNone_eq_false_iff] at sound
    obtain ⟨payload, same⟩ := Option.isSome_iff_exists.1 sound
    rw [Directive.ofSides?, same]
    exact ⟨_, Gives.pure _⟩
  | _ => cases sound

/-- Flawed arguments give nothing, and each of them is told of. -/
theorem sifts_readConstraintItems (sink : Sink) {lhs : Value} (written : lhs.Writable)
    {items : List Value} (shown : ∀ item ∈ items, item.Writable) :
    Sifts (readConstraintItems sink lhs items)
      (readConstraintItems sink lhs (items.filter fun item => !isFlawedArgument lhs item))
      ((items.filter (isFlawedArgument lhs)).map (.argument lhs)) := by
  induction items with
  | nil => exact .pure []
  | cons rhs rest inner =>
    obtain ⟨directives, tells, quiet⟩ := inner fun item member =>
      shown item (List.mem_cons_of_mem _ member)
    cases flawed : isFlawedArgument lhs rhs with
    | true =>
      refine ⟨directives, ?_, by simpa [flawed] using quiet⟩
      have first := gives_ofSides?_of_flawed sink written (shown rhs List.mem_cons_self) flawed
      rw [List.filter_cons_of_pos flawed]
      exact first.bind (tells.map (.pure _))
    | false =>
      obtain ⟨directive, gives⟩ := gives_ofSides?_of_sound sink flawed
      refine ⟨directive :: directives, ?_, ?_⟩
      · rw [List.filter_cons_of_neg (by simp [flawed])]
        exact gives.then (tells.map (.pure _))
      · rw [List.filter_cons_of_pos (by simp [flawed])]
        exact gives.then (quiet.map (.pure _))

/-- Constraints are read as without their flaws, which are reported. -/
theorem sifts_readConstraintEntries {entries : List (Value × Value)}
    (writable : ∀ entry ∈ entries, entry.1.Writable ∧ entry.2.Writable) :
    Sifts (readConstraintEntries sink entries)
      (readConstraintEntries sink (mendConstraintEntries entries))
      (entries.flatMap fun entry => argumentFlaws entry.1 entry.2) := by
  induction entries with
  | nil => exact .pure []
  | cons entry rest inner =>
    obtain ⟨lhs, rhs⟩ := entry
    obtain ⟨written, shown⟩ := writable _ List.mem_cons_self
    have each : ∀ item ∈ rhs.items?.getD [rhs], item.Writable := by
      cases listed : rhs.items? with
      | none => exact fun item member => List.mem_singleton.1 member ▸ shown
      | some items => exact shown.items? listed
    have later := inner fun entry member => writable entry (List.mem_cons_of_mem _ member)
    obtain ⟨directives, tells, quiet⟩ := sifts_readConstraintItems sink written each
    obtain ⟨others, tellsLater, quietLater⟩ := later
    refine ⟨directives ++ others, ?_, ?_⟩
    -- With its flaws the entry is told of; without them it may be gone.
    · rw [List.flatMap_cons, List.map_append]
      exact tells.bind (tellsLater.map (.pure _))
    · cases mended : mendConstraint lhs rhs with
      | some kept =>
        have parted : mendConstraintEntries ((lhs, rhs) :: rest) =
            (lhs, kept) :: mendConstraintEntries rest := by
          simp [mendConstraintEntries, mended]
        rw [← arguments_of_mendConstraint mended] at quiet
        rw [parted]
        exact quiet.then (quietLater.map (.pure _))
      | none =>
        have same : mendConstraintEntries ((lhs, rhs) :: rest) = mendConstraintEntries rest := by
          simp [mendConstraintEntries, mended]
        rw [arguments_of_mendConstraint_eq_none mended] at quiet
        cases quiet
        rw [same]
        exact quietLater

/-- A block of constraints without its flaws gives the same directives. -/
theorem sifts_readConstraints (sink : Sink) {block : Value} (writable : block.Writable) :
    Sifts (readConstraints sink block)
      (readConstraints sink ((mendConstraints block).getD .null)) (constraintsFlaws block) := by
  unfold mendConstraints constraintsFlaws
  split
  · exact .pure []
  · next present =>
    have opened : readConstraints sink block =
        (block.entries?.map (readConstraintEntries sink)).getD
          (.withReport [] (.constraintsNotMapping block.kind)) := by
      unfold readConstraints
      split
      · exact absurd rfl present
      · cases block.entries? <;> rfl
    rw [opened]
    cases mapped : block.entries? with
    | some entries => exact sifts_readConstraintEntries (writable.entries? mapped)
    | none => exact ⟨[], .withReport [] rfl, .pure []⟩

/-- The properties among writable entries are read without a report. -/
theorem quiet_readPropertyEntries {entries : List (Value × Value)}
    (writable : ∀ entry ∈ entries, entry.1.Writable ∧ entry.2.Writable) (table : Table String) :
    ∃ properties, (readPropertyEntries table entries).Gives properties [] := by
  fun_induction readPropertyEntries table entries with
  | case1 table => exact ⟨table, .pure table⟩
  | case2 table key value rest inner =>
    obtain ⟨properties, gives⟩ := inner key.shown fun entry member =>
      writable entry (List.mem_cons_of_mem _ member)
    exact ⟨properties, (Gives.nameOf (writable _ List.mem_cons_self).1.shown?).then gives⟩
  | case3 table _ rest _ inner =>
    exact inner fun entry member => writable entry (List.mem_cons_of_mem _ member)

/-- Properties are read as without their flaw, which is reported. -/
theorem sifts_readProperties {block : Value} (writable : block.Writable) :
    Sifts (readProperties block) (readProperties ((mendProperties block).getD .null))
      (propertiesFlaws block) := by
  unfold mendProperties propertiesFlaws
  split
  · exact .pure []
  · next present =>
    have opened : readProperties block =
        (block.entries?.map (readPropertyEntries [])).getD
          (.withReport [] (.propertiesNotMapping block.kind)) := by
      unfold readProperties
      split
      · exact absurd rfl present
      · cases block.entries? <;> rfl
    cases mapped : block.entries? with
    | some entries =>
      obtain ⟨properties, gives⟩ := quiet_readPropertyEntries (writable.entries? mapped) []
      rw [mapped, Option.map_some, Option.getD_some] at opened
      rw [← opened] at gives
      exact ⟨properties, gives, gives⟩
    | none =>
      rw [opened, mapped]
      exact ⟨[], .withReport [] rfl, .pure []⟩

/-- A z-index is read as without its flaw, which is reported. -/
theorem sifts_readZIndex {value : Value} (writable : value.Writable) :
    Sifts (readZIndex value) (readZIndex ((mendZIndex value).getD .null)) (zIndexFlaws value) := by
  unfold mendZIndex zIndexFlaws
  cases same : zIndexOf? value with
  | some index =>
    have gives : (readZIndex value).Gives index [] := by
      rw [readZIndex, same]
      exact .pure index
    exact ⟨index, gives, gives⟩
  | none =>
    refine ⟨0, ?_, .pure 0⟩
    rw [readZIndex, same]
    exact .withReport 0 writable.isShowable

variable {key value : Value} {entries rest : List (Value × Value)}

/-- The subviews are those under their name. -/
theorem readSubviewsField_eq (sink : Sink) (name : String) (entries : List (Value × Value)) :
    readSubviewsField sink name entries =
      match Value.lookup? entries subviewsName with
      | some (.mapping subviews) => readSubviews sink subviews
      | some .null | none => pure []
      | some _ => .withReport [] (.subviewsNotMapping name) := by
  induction entries with
  | nil => rfl
  | cons entry rest inner =>
    obtain ⟨key, value⟩ := entry
    rw [Value.lookup?_cons]
    unfold readSubviewsField
    split
    · cases value <;> rfl
    · exact inner

/-- Entries under other keys hold no subviews. -/
theorem readSubviewsField_cons (sink : Sink) (name : String)
    (other : key.text? ≠ some subviewsName) :
    readSubviewsField sink name ((key, value) :: rest) = readSubviewsField sink name rest := by
  rw [readSubviewsField_eq, Value.lookup?_cons, if_neg other, readSubviewsField_eq]

/-- Without the entries under one key the subviews are the same, if that is not their key. -/
theorem readSubviewsField_without (sink : Sink) (name : String) :
    readSubviewsField sink name (without key entries) =
      if key.text? = some subviewsName then pure [] else readSubviewsField sink name entries := by
  rw [readSubviewsField_eq, lookup?_without, readSubviewsField_eq]
  by_cases same : key.text? = some subviewsName
  · rw [if_pos same, if_pos same]
  · rw [if_neg same, if_neg same]

/-- A mended view gives the same description, if its subviews give the same descriptions. -/
theorem gives_read_mend (sink : Sink) {id : String} (named : (ViewLabel.ofId id).name ≠ "")
    (writable : ∀ entry ∈ entries, entry.1.Writable ∧ entry.2.Writable)
    (subviews : Sifts (readSubviewsField sink (ViewLabel.ofId id).name entries)
      (readSubviewsField sink (ViewLabel.ofId id).name (mendFields entries))
      (subviewsFlaws (ViewLabel.ofId id).name entries)) :
    ∃ description,
      (read sink id (.mapping entries)).Gives (some description)
        ((flaws id (.mapping entries)).map Flaw.diagnostic) ∧
      (read sink id (mend (.mapping entries))).Gives (some description) [] := by
  obtain ⟨subviews, views, viewsMended⟩ := subviews
  obtain ⟨constraints, block, blockMended⟩ :=
    sifts_readConstraints sink (Value.writable_lookupD "constraints" writable)
  obtain ⟨properties, texts, textsMended⟩ :=
    sifts_readProperties (Value.writable_lookupD "properties" writable)
  obtain ⟨zIndex, index, indexMended⟩ :=
    sifts_readZIndex (Value.writable_lookupD "z-index" writable)
  have field := lookupD_mendFields entries
  refine ⟨_, by simpa [flaws] using gives_read_mapping named views block texts index, ?_⟩
  have whole := gives_read_mapping named viewsMended
    (by rw [field "constraints" (by decide) rfl]; exact blockMended)
    (by rw [field "properties" (by decide) rfl]; exact textsMended)
    (by rw [field "z-index" (by decide) rfl]; exact indexMended)
  rw [field "template" (by decide) rfl] at whole
  exact whole

mutual

/-- A mended view gives the same description, and each flaw in it costs one report. -/
theorem gives_read_view (sink : Sink) : ∀ (entries : List (Value × Value)) (id : String),
    (ViewLabel.ofId id).name ≠ "" → (Value.mapping entries).Writable →
    ∃ description,
      (read sink id (.mapping entries)).Gives (some description)
        ((flaws id (.mapping entries)).map Flaw.diagnostic) ∧
      (read sink id (mend (.mapping entries))).Gives (some description) []
  | entries, id, named, writable => by
    have parts := writable.entries? rfl
    exact gives_read_mend sink named parts (sifts_readSubviewsField sink _ entries parts)

/-- The field of subviews is read as without its flaws, which are reported. -/
theorem sifts_readSubviewsField (sink : Sink) (name : String) :
    ∀ entries : List (Value × Value),
    (∀ entry ∈ entries, entry.1.Writable ∧ entry.2.Writable) →
    Sifts (readSubviewsField sink name entries) (readSubviewsField sink name (mendFields entries))
      (subviewsFlaws name entries)
  | [], _ => .pure []
  | (key, value) :: rest, writable => by
    have later := sifts_readSubviewsField sink name rest fun entry member =>
      writable entry (List.mem_cons_of_mem _ member)
    by_cases views : key.text? = some subviewsName
    · cases value with
      | mapping subviews =>
        have parts := (writable _ List.mem_cons_self).2.entries? rfl
        simpa [readSubviewsField, subviewsFlaws, mendFields, views] using
          sifts_readSubviews sink subviews parts
      | null => simpa [readSubviewsField, subviewsFlaws, mendFields, views] using Sifts.pure []
      | _ =>
        refine ⟨[], ?_, ?_⟩
        · simpa [readSubviewsField, subviewsFlaws, views, Flaw.diagnostic] using .withReport [] rfl
        · simpa [readSubviewsField_without, mendFields, views] using .pure []
    · unfold subviewsFlaws mendFields
      rw [readSubviewsField_cons sink name views, if_neg views, if_neg views]
      split
      · rwa [readSubviewsField_cons sink name views]
      · rwa [readSubviewsField_without, if_neg views]

/-- Subviews are read as without their flaws, which are reported. -/
theorem sifts_readSubviews (sink : Sink) : ∀ entries : List (Value × Value),
    (∀ entry ∈ entries, entry.1.Writable ∧ entry.2.Writable) →
    Sifts (readSubviews sink entries) (readSubviews sink (mendSubviews entries))
      (subviewFlaws entries)
  | [], _ => .pure []
  | (id, data) :: rest, writable => by
    have later := sifts_readSubviews sink rest fun entry member =>
      writable entry (List.mem_cons_of_mem _ member)
    have named := Gives.nameOf (writable _ List.mem_cons_self).1.shown?
    cases data with
    | mapping entries =>
      by_cases nameless : (ViewLabel.ofId id.shown).name = ""
      · obtain ⟨others, tells, quiet⟩ := later
        have refused : (read sink id.shown (.mapping entries)).Gives none
            [.viewWithoutName id.shown] := by
          unfold read
          simpa only [if_pos nameless] using .withReport none rfl
        refine ⟨others, ?_, by simpa [mendSubviews, nameless] using quiet⟩
        rw [subviewFlaws, if_pos nameless]
        exact named.then (refused.bind (tells.map (.pure _)))
      · obtain ⟨description, tells, quiet⟩ :=
          gives_read_view sink entries id.shown nameless (writable _ List.mem_cons_self).2
        obtain ⟨others, tellsLater, quietLater⟩ := later
        refine ⟨description :: others, ?_, ?_⟩
        · rw [subviewFlaws, if_neg nameless, List.map_append]
          exact named.then (tells.bind (tellsLater.map (.pure _)))
        · rw [mendSubviews, if_neg nameless]
          exact named.then (quiet.then (quietLater.map (.pure _)))
    | _ =>
      obtain ⟨others, tells, quiet⟩ := later
      refine ⟨others, ?_, quiet⟩
      exact named.then ((Gives.withReport none rfl).bind (tells.map (.pure _)))

end

/-- A writable view is writable when its views are laid open. -/
theorem writable_layOpen : ∀ (depth : Nat) {view : Value}, view.Writable →
    (layOpen depth view).Writable
  | 0, _, writable => writable
  | depth + 1, view, writable => by
    unfold layOpen
    split
    · exact writable
    · next entries mapped =>
      refine Value.entriesWritable_iff.2 (List.forall_mem_map.2 fun entry member => ?_)
      have parts := writable.entries? mapped entry member
      obtain ⟨key, value⟩ := entry
      dsimp only
      split
      · split
        · next subviews laid =>
          refine ⟨parts.1, Value.entriesWritable_iff.2 (List.forall_mem_map.2 ?_)⟩
          intro subview among
          have inner := parts.2.entries? laid subview among
          exact ⟨inner.1, writable_layOpen depth inner.2⟩
        · exact parts
      · exact parts

/-- **Flaws of a view contribute nothing, and each costs one report.** A view with a name, laid open
as documents lay it open, gives a description and tells of its flaws. The view without them has no
flaws, gives the same description and tells of nothing. -/
theorem read_mend (sink : Sink) {id : String} (named : (ViewLabel.ofId id).name ≠ "")
    {view : Value} (writable : view.Writable) {depth : Nat} {entries : List (Value × Value)}
    (opened : layOpen depth view = .mapping entries) :
    flaws id (mend (.mapping entries)) = [] ∧
    ∃ description,
      (read sink id (.mapping entries)).Gives (some description)
        ((flaws id (.mapping entries)).map Flaw.diagnostic) ∧
      (read sink id (mend (.mapping entries))).Gives (some description) [] := by
  have laid : (Value.mapping entries).Writable := opened ▸ writable_layOpen depth writable
  exact ⟨flaws_mend _ id, gives_read_view sink entries id named laid⟩

/-- A view with a flaw of each kind: two of them in a constraint, and one in a subview. -/
def flawed : Value :=
  .mapping
    [(.text "constraints", .mapping
        [(.text "width", .list [.text "100", .int 5, .null]), (.int 3, .text "@super")]),
      (.text "properties", .list []),
      (.text "views", .mapping
        [(.text "label", .int 1),
          (.text "!", .mapping [(.text "views", .bool true)]),
          (.text "!title", .mapping
            [(.text "z-index", .bool true), (.text "views", .text "none"),
              (.text "constraints", .bool false)])])]

theorem read_mend_flawed : (ViewLabel.ofId "root").name ≠ "" ∧ flawed.Writable ∧
    (flaws "root" flawed).map Flaw.diagnostic =
      [.viewNotMapping "label" "int", .viewWithoutName "!", .subviewsNotMapping "title",
        .constraintsNotMapping "bool", .invalidZIndex (.bool true),
        .constraintNotReadable "width" (.int 5), .constraintNotReadable "width" .null,
        .constraintKeyNotText (.int 3), .propertiesNotMapping "list"] ∧
    flaws "root" (mend flawed) = [] ∧
    ∃ description,
      (read .log "root" flawed).Gives (some description)
        ((flaws "root" flawed).map Flaw.diagnostic) ∧
      (read .log "root" (mend flawed)).Gives (some description) [] := by
  have few : ∀ digit < 10, digit < 10 ^ Numeral.integerDigitLimit := fun digit small =>
    Nat.lt_of_lt_of_le small (Nat.le_self_pow (by decide) 10)
  have writable : flawed.Writable := by
    simp [flawed, Value.Writable, Value.WritableIn, Value.AllWritable, Value.EntriesWritable, few]
  exact ⟨by decide, writable, rfl, @read_mend .log "root" (by decide) flawed writable 0 _ rfl⟩

end ViewLayout.Description
