import Mathlib.Data.List.Induction
import Mathlib.Data.List.Nodup
import Mathlib.Data.List.TakeWhile
import ViewLayout.Proofs.Document.Telling
import ViewLayout.Proofs.Table.Putting

/-!
# Writing documents

`Document.written` writes a document as the mapping that it can be read from: a view stands under an
id that says its name, whether it is new and its superclass, and the directives of a view are
collected by their left sides. `read_written` says that reading such a mapping gives the document
back, if everything in it can be told from how it is written.
-/

namespace ViewLayout

namespace ViewLabel

/-- The id of a view that says what a label says. -/
def id (label : ViewLabel) : String :=
  (if label.isNew then "!" else "") ++ label.name ++ (label.superclass.map (":" ++ ·)).getD ""

/-- What a label says can be told from its id. -/
structure Printable (label : ViewLabel) : Prop where
  named : label.name ≠ ""
  unbroken : ':' ∉ label.name.toList
  unmarked : label.isNew = false → label.name.toList.head? ≠ some '!'
  superclass : ∀ superclass ∈ label.superclass, label.isNew = true ∧ superclass ≠ ""

/-- How a view is written as the key of its entry. -/
theorem toList_id (label : ViewLabel) :
    label.id.toList = (if label.isNew then ['!'] else []) ++ (label.name.toList ++
      (label.superclass.map fun superclass => ':' :: superclass.toList).getD []) := by
  obtain ⟨name, isNew, superclass⟩ := label
  cases isNew <;> cases superclass <;> simp [id]

/-- The id of a new view, whose name ends at the first colon. -/
theorem ofId_of_marked {id : String} {chars : List Char} (marked : id.toList = '!' :: chars) :
    ofId id = ⟨String.ofList (chars.takeWhile (· != ':')), true,
      match chars.dropWhile (· != ':') with
      | _ :: first :: others => some (String.ofList (first :: others))
      | _ => none⟩ := by
  simp only [ofId, marked]
  rcases chars.dropWhile (· != ':') with _ | ⟨_, _ | ⟨_, _⟩⟩ <;> rfl

/-- The id of a view that is not new has no superclass. -/
theorem ofId_of_unmarked {id : String} (unmarked : id.toList.head? ≠ some '!') :
    ofId id = ⟨String.ofList (id.toList.takeWhile (· != ':')), false, none⟩ := by
  unfold ofId
  split
  next isNew rest split =>
    split at split
    · next chars marked => exact absurd (by rw [marked, List.head?_cons]) unmarked
    · cases split
      rfl

/-- The id of a label says what the label says. -/
theorem ofId_id {label : ViewLabel} (printable : label.Printable) : ofId label.id = label := by
  obtain ⟨name, isNew, superclass⟩ := label
  obtain ⟨_, unbroken, unmarked, superclassed⟩ := printable
  have plain : ∀ c ∈ name.toList, (c != ':') = true := fun c member =>
    bne_iff_ne.2 fun same => unbroken (same ▸ member)
  have spelled := toList_id ⟨name, isNew, superclass⟩
  cases isNew with
  | true =>
    rw [if_pos rfl, List.singleton_append] at spelled
    rw [ofId_of_marked spelled, List.takeWhile_append_of_pos plain,
      List.dropWhile_append_of_pos plain]
    cases superclass with
    | none => simp
    | some superclass =>
      obtain ⟨first, others, split⟩ := List.exists_cons_of_ne_nil
        (mt String.toList_eq_nil_iff.1 (superclassed superclass rfl).2)
      have whole : String.ofList (first :: others) = superclass := by
        rw [← split, String.ofList_toList]
      simp [split, whole]
  | false =>
    cases superclass with
    | none =>
      have same : name.toList = (ViewLabel.id ⟨name, false, none⟩).toList := by simp [spelled]
      rw [ofId_of_unmarked (same ▸ unmarked rfl), ← same,
        List.takeWhile_eq_self_iff.2 plain, String.ofList_toList]
    | some superclass => exact absurd (superclassed superclass rfl).1 (by simp)

end ViewLabel

/-- The value that a payload is read from. -/
def Payload.value : Payload → Value
  | shorthand rhs => .text rhs
  | verbose fields => .mapping fields

@[simp] theorem Payload.ofValue?_value (payload : Payload) :
    ofValue? payload.value = some payload := by
  cases payload <;> rfl

/-- A mapping that has names for its keys. -/
def Value.named (table : Table Value) : Value :=
  .mapping (table.map fun entry => (.text entry.1, entry.2))

/-- A directive with the sink of the reading that made it. -/
def Directive.boundTo (sink : Sink) (directive : Directive) : Directive :=
  { directive with sink }

namespace Description

/-- The right sides of directives, collected by their left sides. -/
def collected (directives : List Directive) : Table (List Payload) :=
  directives.foldl
    (fun table directive => table.put directive.lhs
      ((table.get? directive.lhs).getD [] ++ [directive.payload]))
    []

/-- Directives of one left side stand next to each other: a left side that does not come next does
not come again. -/
def Grouped : List Directive → Prop
  | first :: second :: rest =>
    (first.lhs = second.lhs ∨ first.lhs ∉ (second :: rest).map Directive.lhs) ∧
      Grouped (second :: rest)
  | _ => True

/-- A directive more goes to those with its left side. -/
theorem collected_concat (directives : List Directive) (directive : Directive) :
    collected (directives ++ [directive]) = (collected directives).put directive.lhs
      (((collected directives).get? directive.lhs).getD [] ++ [directive.payload]) := by
  rw [collected, collected, List.foldl_append]
  rfl

/-- The left sides of collected directives are theirs. -/
theorem mem_names_collected {directives : List Directive} {lhs : String} :
    lhs ∈ (collected directives).names ↔ lhs ∈ directives.map Directive.lhs := by
  induction directives using List.reverseRecOn with
  | nil => rfl
  | append_singleton before directive inner =>
    rw [collected_concat, ← Table.has_iff, Table.has_put, Bool.or_eq_true, Table.has_iff, inner,
      beq_iff_eq, List.map_append, List.mem_append, List.map_singleton, List.mem_singleton,
      or_comm, eq_comm]

/-- Directives without the last one are grouped as well. -/
theorem Grouped.init {directives : List Directive} {last : Directive}
    (grouped : Grouped (directives ++ [last])) : Grouped directives := by
  match directives with
  | [] => trivial
  | [_] => trivial
  | first :: second :: rest =>
    obtain ⟨next, later⟩ := grouped
    refine ⟨next.imp_right (mt fun again => ?_), Grouped.init later⟩
    have whole : first.lhs ∈ ((second :: rest) ++ [last]).map Directive.lhs := by
      rw [List.map_append]
      exact List.mem_append_left _ again
    exact whole

/-- A last directive whose left side has come before follows one with that left side. -/
theorem Grouped.lhs_getLast? {directives : List Directive} {last : Directive}
    (grouped : Grouped (directives ++ [last])) (again : last.lhs ∈ directives.map Directive.lhs) :
    directives.getLast?.map Directive.lhs = some last.lhs := by
  match directives with
  | [] => cases again
  | [first] => simp_all
  | first :: second :: rest =>
    obtain ⟨next, later⟩ := grouped
    have further : last.lhs ∈ (second :: rest).map Directive.lhs := by
      rcases List.mem_cons.1 again with same | further
      · rcases next with continues | never
        · exact List.mem_cons.2 (.inl (same.trans continues))
        · exact absurd (by simp [← same]) never
      · exact further
    rw [List.getLast?_cons_cons]
    exact Grouped.lhs_getLast? later further

/-- What a table of right sides says, in order. -/
def sides (table : Table (List Payload)) : List (String × Payload) :=
  table.flatMap fun entry => entry.2.map fun payload => (entry.1, payload)

/-- Collecting grouped directives keeps their order. -/
theorem sides_collected {directives : List Directive} (grouped : Grouped directives) :
    sides (collected directives) =
        directives.map (fun directive => (directive.lhs, directive.payload)) ∧
      ∀ last ∈ directives.getLast?, ∃ before payloads,
        collected directives = before ++ [(last.lhs, payloads)] ∧
          last.lhs ∉ Table.names before := by
  induction directives using List.reverseRecOn with
  | nil => exact ⟨rfl, fun _ none => by cases none⟩
  | append_singleton earlier directive inner =>
    obtain ⟨same, ends⟩ := inner grouped.init
    rw [collected_concat, List.map_append, List.map_singleton, ← same, List.getLast?_concat]
    by_cases again : directive.lhs ∈ earlier.map Directive.lhs
    · -- The left side is that of the directive just before, which the last entry has.
      obtain ⟨last, isLast, sameSide⟩ := Option.map_eq_some_iff.1 (grouped.lhs_getLast? again)
      obtain ⟨before, payloads, whole, fresh⟩ := ends last isLast
      rw [sameSide] at whole fresh
      have found : (collected earlier).get? directive.lhs = some payloads := by
        rw [whole, Table.get?_append_of_not_mem fresh]
        simp [Table.get?]
      have grown : (collected earlier).put directive.lhs (payloads ++ [directive.payload]) =
          before ++ [(directive.lhs, payloads ++ [directive.payload])] := by
        rw [whole, Table.put_append_of_not_mem fresh]
        simp [Table.put]
      rw [found, Option.getD_some, grown]
      constructor
      · simp [sides, whole]
      · rintro _ ⟨⟩
        exact ⟨before, _, rfl, fresh⟩
    · have fresh : directive.lhs ∉ (collected earlier).names := mt mem_names_collected.1 again
      have missing : (collected earlier).get? directive.lhs = none :=
        Option.not_isSome_iff_eq_none.1 (mt Table.has_iff.1 fresh)
      rw [missing, Table.put_eq_append fresh]
      constructor
      · simp [sides]
      · rintro _ ⟨⟩
        exact ⟨_, _, rfl, fresh⟩

/-- The entries that a description is written with, where its subviews are written already. -/
def fields (description : Description) (views : Table Value) : List (Value × Value) :=
  [(.text "template", .list (description.templates.map .text)),
    (.text "constraints", .named ((collected description.constraints).map fun entry =>
      (entry.1, .list (entry.2.map Payload.value)))),
    (.text "properties", .named (description.properties.map fun entry =>
      (entry.1, .text entry.2))),
    (.text "views", .named (Table.putAll [] views)),
    (.text "z-index", .int description.zIndex)]

mutual

/-- A description as the value that it is read from. -/
def written : Description → Value
  | ⟨name, isNew, superclass, constraints, properties, zIndex, templates, subviews⟩ =>
    .mapping (fields
      ⟨name, isNew, superclass, constraints, properties, zIndex, templates, subviews⟩
      (writtenSubviews subviews))

/-- Subviews as they are written, by their ids. -/
def writtenSubviews : List Description → Table Value
  | [] => []
  | ⟨name, isNew, superclass, constraints, properties, zIndex, templates, subviews⟩ :: rest =>
    (ViewLabel.id ⟨name, isNew, superclass⟩,
        written ⟨name, isNew, superclass, constraints, properties, zIndex, templates, subviews⟩) ::
      writtenSubviews rest

end

mutual

/-- A description with the sink of the reading that made it. -/
def boundTo (sink : Sink) : Description → Description
  | ⟨name, isNew, superclass, constraints, properties, zIndex, templates, subviews⟩ =>
    ⟨name, isNew, superclass, constraints.map (Directive.boundTo sink), properties, zIndex,
      templates, boundAllTo sink subviews⟩

/-- Descriptions with the sink of the reading that made them. -/
def boundAllTo (sink : Sink) : List Description → List Description
  | [] => []
  | description :: rest => description.boundTo sink :: boundAllTo sink rest

end

/-- What the id of a description says. -/
def label (description : Description) : ViewLabel :=
  ⟨description.name, description.isNew, description.superclass⟩

/-- What a description says can be told from how it is written. -/
inductive Printable : Description → Prop
  | intro {description : Description} (label : description.label.Printable)
    (grouped : Grouped description.constraints)
    (properties : description.properties.names.Nodup)
    (templates : "" ∉ description.templates)
    (siblings : (description.subviews.map fun subview => subview.label.id).Nodup)
    (subviews : ∀ subview ∈ description.subviews, subview.Printable) : Printable description

open Telling

variable {sink : Sink}

/-- A directive is read from its two sides. -/
theorem gives_ofSides? (lhs : String) (payload : Payload) :
    (Directive.ofSides? sink (.text lhs) payload.value).Gives (some ⟨lhs, payload, sink⟩) [] := by
  rw [Directive.ofSides?, Payload.ofValue?_value]
  exact .pure _

/-- Directives with one left side are read from the list of their payloads. -/
theorem gives_readConstraintItems (lhs : String) (payloads : List Payload) :
    (readConstraintItems sink (.text lhs) (payloads.map Payload.value)).Gives
      (payloads.map fun payload => ⟨lhs, payload, sink⟩) [] := by
  induction payloads with
  | nil => exact .pure _
  | cons payload rest inner => exact (gives_ofSides? lhs payload).then (inner.then (.pure _))

/-- A constraints block gives what it says about sides. -/
theorem gives_readConstraintEntries (sink : Sink) (table : Table (List Payload)) :
    (readConstraintEntries sink (table.map fun entry =>
      (.text entry.1, .list (entry.2.map Payload.value)))).Gives
      ((sides table).map fun side => ⟨side.1, side.2, sink⟩) [] := by
  induction table with
  | nil => exact .pure _
  | cons entry rest inner =>
    have whole : (sides (entry :: rest)).map (fun side => (⟨side.1, side.2, sink⟩ : Directive)) =
        entry.2.map (fun payload => ⟨entry.1, payload, sink⟩) ++
          (sides rest).map fun side => ⟨side.1, side.2, sink⟩ := by
      simp [sides]
    rw [whole]
    exact (gives_readConstraintItems entry.1 entry.2).then (inner.then (.pure _))

/-- Directives that are grouped are read from their mapping. -/
theorem gives_readConstraints {directives : List Directive} (grouped : Grouped directives) :
    (readConstraints sink (.named ((collected directives).map fun entry =>
      (entry.1, .list (entry.2.map Payload.value))))).Gives
      (directives.map (Directive.boundTo sink)) [] := by
  have read := gives_readConstraintEntries sink (collected directives)
  rw [(sides_collected grouped).1, List.map_map] at read
  rw [Value.named, List.map_map]
  exact read

/-- Properties are read into a table one after the other. -/
theorem gives_readPropertyEntries (table properties : Table String) :
    (readPropertyEntries table (properties.map fun entry => (.text entry.1, .text entry.2))).Gives
      (table.putAll properties) [] := by
  induction properties generalizing table with
  | nil => exact .pure _
  | cons entry rest inner => exact (Gives.nameOf rfl).then (inner (table.put entry.1 entry.2))

/-- Properties are read from their mapping. -/
theorem gives_readProperties {properties : Table String} (distinct : properties.names.Nodup) :
    (readProperties (.named (properties.map fun entry => (entry.1, .text entry.2)))).Gives
      properties [] := by
  have read := gives_readPropertyEntries [] properties
  rw [Table.putAll_nil distinct] at read
  rw [Value.named, List.map_map]
  exact read

/-- Templates are read from the list of their names. -/
theorem readTemplates_texts {templates : List String} (named : "" ∉ templates) :
    readTemplates (.list (templates.map .text)) = templates := by
  have texts : (templates.map Value.text).filterMap Value.text? = templates := by
    rw [List.filterMap_map]
    exact List.filterMap_some
  simp only [readTemplates, Value.items?_list, Option.getD_some, texts]
  exact List.filter_eq_self.2 fun name member => bne_iff_ne.2 fun same => named (same ▸ member)

/-- The keys of written subviews are their labels. -/
theorem names_writtenSubviews (descriptions : List Description) :
    (writtenSubviews descriptions).names = descriptions.map fun subview => subview.label.id := by
  induction descriptions with
  | nil => rfl
  | cons description rest inner =>
    cases description
    rw [writtenSubviews, Table.names, List.map_cons, ← Table.names, inner]
    rfl

/-- A description is read from its fields, if its subviews are. -/
theorem gives_read_fields {description : Description} {views : Table Value}
    {subviews : List Description} (label : description.label.Printable)
    (grouped : Grouped description.constraints)
    (distinct : description.properties.names.Nodup) (named : "" ∉ description.templates)
    (below : (readSubviews sink ((Table.putAll [] views).map fun entry =>
      (.text entry.1, entry.2))).Gives subviews []) :
    (read sink description.label.id (.mapping (description.fields views))).Gives
      (some { description with
        constraints := description.constraints.map (Directive.boundTo sink)
        subviews }) [] := by
  have same := ViewLabel.ofId_id label
  have subviewsField : (readSubviewsField sink (ViewLabel.ofId description.label.id).name
      (description.fields views)).Gives subviews [] := by
    simpa [fields, readSubviewsField, Value.text?, subviewsName, Value.named] using below
  have block : (readConstraints sink (Value.lookupD (description.fields views)
      "constraints")).Gives (description.constraints.map (Directive.boundTo sink)) [] := by
    simpa [fields, Value.lookupD, Value.lookup?] using gives_readConstraints grouped
  have texts : (readProperties (Value.lookupD (description.fields views) "properties")).Gives
      description.properties [] := by
    simpa [fields, Value.lookupD, Value.lookup?] using gives_readProperties distinct
  have index : (readZIndex (Value.lookupD (description.fields views) "z-index")).Gives
      description.zIndex [] := by
    have integer : (readZIndex (.int description.zIndex)).Gives description.zIndex [] := .pure _
    simpa [fields, Value.lookupD, Value.lookup?] using integer
  have templates : readTemplates (Value.lookupD (description.fields views) "template") =
      description.templates := by
    simpa [fields, Value.lookupD, Value.lookup?] using readTemplates_texts named
  have whole := gives_read_mapping (by rw [same]; exact label.named) subviewsField block texts index
  rw [same, templates] at whole
  exact whole

mutual

/-- A description is read from what is written of it. -/
theorem gives_read (sink : Sink) : ∀ description : Description, description.Printable →
    (read sink description.label.id description.written).Gives
      (some (description.boundTo sink)) []
  | ⟨name, isNew, superclass, constraints, properties, zIndex, templates, subviews⟩,
      .intro label grouped distinct named siblings below => by
    have views : (readSubviews sink ((Table.putAll [] (writtenSubviews subviews)).map
        fun entry => (.text entry.1, entry.2))).Gives (boundAllTo sink subviews) [] := by
      rw [Table.putAll_nil (by rw [names_writtenSubviews]; exact siblings)]
      exact gives_readSubviews sink subviews below
    rw [written, boundTo]
    exact gives_read_fields label grouped distinct named views

/-- Subviews are read from their mapping. -/
theorem gives_readSubviews (sink : Sink) : ∀ descriptions : List Description,
    (∀ description ∈ descriptions, description.Printable) →
      (readSubviews sink ((writtenSubviews descriptions).map fun entry =>
        (.text entry.1, entry.2))).Gives (boundAllTo sink descriptions) []
  | [], _ => .pure _
  | ⟨name, isNew, superclass, constraints, properties, zIndex, templates, subviews⟩ :: rest,
      printable => by
    have first := gives_read sink
      ⟨name, isNew, superclass, constraints, properties, zIndex, templates, subviews⟩
      (printable _ List.mem_cons_self)
    have others := gives_readSubviews sink rest fun description member =>
      printable description (List.mem_cons_of_mem _ member)
    rw [writtenSubviews, List.map_cons, readSubviews, boundAllTo]
    exact (Gives.nameOf rfl).then (first.then (others.then (.pure _)))

end

@[simp] theorem name_boundTo (sink : Sink) (description : Description) :
    (description.boundTo sink).name = description.name := by
  cases description
  rw [boundTo]

/-- What is written holds no knot. -/
theorem layOpen_written (description : Description) :
    layOpen description.written.knotSize description.written = description.written := by
  cases description
  rw [written]
  rfl

end Description

namespace Document

open Telling

/-- Templates as they are written, by their ids. -/
def writtenTemplates (templates : Table Description) : Table Value :=
  templates.map fun entry => (entry.2.label.id, entry.2.written)

/-- The entries that a document is written with. -/
def fields (document : Document) : List (Value × Value) :=
  [(.text "name", (document.name.map .text).getD .null),
    (.text "root", document.root.written),
    (.text "templates", .named (Table.putAll [] (writtenTemplates document.templates)))]

/-- A document as the value that it is read from. -/
def written (document : Document) : Value :=
  .mapping document.fields

/-- Templates with the sink of the reading that made them. -/
def boundAllTo (sink : Sink) (templates : Table Description) : Table Description :=
  templates.map fun entry => (entry.1, entry.2.boundTo sink)

/-- A document with the sink of the reading that made it. -/
def boundTo (sink : Sink) (document : Document) : Document where
  root := document.root.boundTo sink
  templates := boundAllTo sink document.templates
  name := document.name

/-- What a document says can be told from how it is written. -/
structure Printable (document : Document) : Prop where
  root : document.root.Printable
  rootLabel : document.root.label = ⟨rootName, false, none⟩
  templates : ∀ entry ∈ document.templates, entry.1 = entry.2.name ∧ entry.2.Printable
  distinct : document.templates.names.Nodup

/-- Templates are read into a table one after the other. -/
theorem gives_readTemplateEntries (sink : Sink) (table : Table Description)
    {templates : Table Description}
    (printable : ∀ entry ∈ templates, entry.1 = entry.2.name ∧ entry.2.Printable) :
    (readTemplateEntries sink table ((writtenTemplates templates).map fun entry =>
      (.text entry.1, entry.2))).Gives (table.putAll (boundAllTo sink templates)) [] := by
  induction templates generalizing table with
  | nil => exact .pure _
  | cons entry rest inner =>
    obtain ⟨own, one⟩ := printable entry List.mem_cons_self
    have read : (Description.read sink entry.2.label.id (Description.layOpen
        entry.2.written.knotSize entry.2.written)).Gives (some (entry.2.boundTo sink)) [] := by
      rw [Description.layOpen_written]
      exact Description.gives_read sink entry.2 one
    have later := inner (table.put entry.1 (entry.2.boundTo sink))
      fun other member => printable other (List.mem_cons_of_mem _ member)
    rw [own, ← Description.name_boundTo sink] at later
    have grown : table.putAll (boundAllTo sink (entry :: rest)) =
        (table.put (entry.2.boundTo sink).name (entry.2.boundTo sink)).putAll
          (boundAllTo sink rest) := by
      rw [Description.name_boundTo, ← own]
      rfl
    rw [grown]
    exact Gives.then (.nameOf rfl) (Gives.then read later)

/-- Templates with different names have different ids. -/
theorem nodup_names_writtenTemplates {templates : Table Description}
    (printable : ∀ entry ∈ templates, entry.1 = entry.2.name ∧ entry.2.Printable)
    (distinct : templates.names.Nodup) : (writtenTemplates templates).names.Nodup := by
  have same : (writtenTemplates templates).names.map (fun id => (ViewLabel.ofId id).name) =
      templates.names := by
    simp only [writtenTemplates, Table.names, List.map_map]
    refine List.map_congr_left fun entry member => ?_
    obtain ⟨own, ⟨label, _, _, _, _, _⟩⟩ := printable entry member
    simp only [Function.comp_apply, ViewLabel.ofId_id label]
    exact own.symm
  exact List.Nodup.of_map _ (same ▸ distinct)

/-- Templates are read from their mapping. -/
theorem gives_readTemplates (sink : Sink) {templates : Table Description}
    (printable : ∀ entry ∈ templates, entry.1 = entry.2.name ∧ entry.2.Printable)
    (distinct : templates.names.Nodup) :
    (readTemplates sink (.named (Table.putAll [] (writtenTemplates templates)))).Gives
      (boundAllTo sink templates) [] := by
  have bound : (boundAllTo sink templates).names = templates.names := by
    simp [boundAllTo, Table.names]
  have read := gives_readTemplateEntries sink [] printable
  rw [Table.putAll_nil (by rw [bound]; exact distinct)] at read
  rw [Table.putAll_nil (nodup_names_writtenTemplates printable distinct)]
  cases templates with
  | nil => exact .pure []
  | cons entry rest => exact read

/-- **A document is read from what is written of it**, and nothing is told. -/
theorem read_written (sink : Sink) (document : Document) (printable : document.Printable) :
    read sink document.written = .clean (.ok (document.boundTo sink)) := by
  have root := Description.gives_read sink document.root printable.root
  rw [printable.rootLabel] at root
  have templates := gives_readTemplates sink printable.templates printable.distinct
  have whole : (ofParts sink document.root.written
      (.named (Table.putAll [] (writtenTemplates document.templates)))).Gives
      (some (document.root.boundTo sink, boundAllTo sink document.templates)) [] :=
    Gives.then root (templates.then (.pure _))
  have split : parts document.fields = (document.root.written,
      .named (Table.putAll [] (writtenTemplates document.templates))) := by
    simp [parts, fields, Value.lookup?, Value.lookupD, rootName, Description.layOpen_written]
  have name : (Value.lookupD document.fields "name").text? = document.name := by
    cases named : document.name <;> simp [fields, Value.lookupD, Value.lookup?, Value.text?, named]
  have entries : Source.entriesWith Yaml.read document.written = .ok document.fields := rfl
  unfold Gives at whole
  simp only [read, readWith, entries, ofEntries, split, whole, name, bind, Reported.andThen]
  rfl

/-- A window with a card that has a template, and with a title below the card. -/
def profile : Document where
  name := some "profile"
  root :=
    { name := "root"
      subviews :=
        [{ name := "card"
           isNew := true
           superclass := some "CardView"
           templates := ["padded"]
           zIndex := 2
           properties := [("backgroundColor", "white")]
           constraints := [⟨"height", .shorthand "48", .log⟩]
           subviews :=
            [{ name := "title"
               isNew := true
               constraints :=
                [⟨"leading", .shorthand "@super <12", .log⟩,
                  ⟨"trailing", .shorthand "@super <12", .log⟩,
                  ⟨"trailing", .verbose [(.text "to", .text "super")], .log⟩] }] }] }
  templates :=
    [("padded", { name := "padded", constraints := [⟨"edges", .shorthand "@super <16", .log⟩] })]

/-- The two directives for the trailing edge are written as one list, and are read as two. -/
theorem read_written_profile : profile.Printable ∧
    read .log profile.written = .clean (.ok profile) := by
  have printable : profile.Printable := by
    refine ⟨.intro ⟨by decide, by decide, by decide, by decide⟩ trivial .nil (by decide)
      (by decide) fun card isCard => ?_, rfl, fun entry isPadded => ?_, by decide⟩
    · obtain rfl := List.mem_singleton.1 isCard
      refine .intro ⟨by decide, by decide, by decide, by decide⟩ trivial (by decide) (by decide)
        (by decide) fun title isTitle => ?_
      obtain rfl := List.mem_singleton.1 isTitle
      exact .intro ⟨by decide, by decide, by decide, by decide⟩
        ⟨.inr (by decide), .inl rfl, trivial⟩ .nil (by decide) .nil
        fun _ none => absurd none List.not_mem_nil
    · obtain rfl := List.mem_singleton.1 isPadded
      exact ⟨rfl, .intro ⟨by decide, by decide, by decide, by decide⟩ trivial .nil (by decide)
        .nil fun _ none => absurd none List.not_mem_nil⟩
  exact ⟨printable, read_written .log profile printable⟩

end Document

end ViewLayout
