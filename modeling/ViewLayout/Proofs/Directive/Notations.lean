import ViewLayout.Proofs.Directive.Tokens

/-!
# The two forms of directives

`Wording.meaning` says what the parts of a wording come to, field by field. A payload that writes
the wording is read as its meaning in either form and in any order; only the short form may report a
reference that runs into a hyphen, and it does so for the text of the identifier.
-/

namespace ViewLayout

open Shorthand

/-- A text is read as a number. -/
theorem Reading.number_text (field raw : String) :
    number field (.text raw) = .ok (numberOfText field raw) := by
  simp only [number, numberOfText, Value.number?, Except.bind, bind]
  cases finite? (Numeral.readNumber? raw.toList) with
  | none => simp only [Value.isShowable_text, ↓reduceIte]
  | some number => rfl

namespace Wording

/-- The view that a wording refers to, with the name of an attribute. -/
def viewReference? (wording : Wording) : Option (String × Option String) :=
  wording.find (Part.word? .reference) >>= fun given => Reading.viewReference? given.text

/-- The size class that a word gives for a direction. -/
def sizeClass? (wording : Wording) (slot : Slot) : Option SizeClass :=
  wording.find (Part.word? slot) >>= fun given => SizeClass.ofKey? given.text

/-- What the parts of a wording come to. -/
def meaning (wording : Wording) (lhs : String) : (field : Field) → Reported (Option field.Content)
  | .leftAttributes => .clean (some (Reading.attributes lhs))
  | .rightAttribute =>
    .clean (wording.viewReference? >>= fun reference => reference.2 >>= Attribute.ofKey?)
  | .relation => .clean (wording.find Part.relation? >>= fun key => Relation.ofKey? key.text)
  | .constant =>
    match wording.find Part.constant? with
    | none => .clean none
    | some (sign, amount) => do
      let number ← Reading.numberOfText "constant" amount.text
      return number.map (⟨·, sign⟩)
  | .multiplier =>
    match wording.find Part.multiplier? with
    | none => .clean none
    | some (sign, amount) => do
      let number ← Reading.numberOfText "multiplier" amount.text
      Reading.checkMultiplier number sign
  | .priority =>
    match wording.find (Part.word? .priority) with
    | none => .clean none
    | some given => do
      let number ← Reading.numberOfText "priority" given.text
      Reading.checkPriority number
  | .reference => .clean (wording.viewReference?.map Prod.fst)
  | .identifier => .clean ((wording.find Part.identifier?).map Label.text)
  | .horizontalSizeClass => .clean (wording.sizeClass? .horizontal)
  | .verticalSizeClass => .clean (wording.sizeClass? .vertical)

/-- What the short form of a wording reports beside its meaning: where the text of the identifier
holds a reference that runs into a hyphen, it is told with the reference of the directive. -/
def hyphenation (wording : Wording) : Field → List Diagnostic
  | .reference =>
    match wording.viewReference?,
        wording.find Part.identifier? >>= fun label => splitReference? label.text.toList with
    | some _, some (head, rest) => [.splitReference head rest]
    | _, _ => []
  | _ => []

section Shorthand

variable {wording : Wording} {order : List Part} {rhs : String}
  (arranged : order.Perm wording.parts) (spaced : Spaced (order.map Part.token) rhs.toList)

include spaced

/-- The value of a modifier is looked up part by part. -/
theorem valueFor?_of_spaced (mark : Char) :
    valueFor? mark rhs = order.findSome? (Part.valueFor? mark) := by
  rw [valueFor?, arguments_of_spaced spaced, List.findSome?_map]
  rfl

include arranged

/-- The word of a field is the value of its modifier. -/
theorem valueFor?_slot (slot : Slot) :
    valueFor? slot.mark rhs = (wording.find (Part.word? slot)).map Word.text := by
  rw [valueFor?_of_spaced spaced, ← findSome?_arranged arranged Part.field_of_word?,
    List.map_findSome?]
  exact congrArg (order.findSome? ·) (funext (Part.valueFor?_slot slot))

/-- The identifier is the value of its modifier. -/
theorem valueFor?_numberSign :
    valueFor? '#' rhs = (wording.find Part.identifier?).map Label.text := by
  rw [valueFor?_of_spaced spaced, ← findSome?_arranged arranged Part.field_of_identifier?,
    List.map_findSome?]
  exact congrArg (order.findSome? ·) (funext Part.valueFor?_numberSign)

/-- The relation is the one among the tokens. -/
theorem relationKey?_of_spaced :
    relationKey? rhs = (wording.find Part.relation?).map RelationKey.text := by
  rw [relationKey?, arguments_of_spaced spaced, List.findSome?_map,
    ← findSome?_arranged arranged Part.field_of_relation?, List.map_findSome?]
  refine congrArg (order.findSome? ·) (funext fun part => ?_)
  cases part <;> rfl

/-- A signed number of the tokens is that of the wording, where a part has at most one of its
modifiers. -/
theorem signedValue?_of_spaced {σ : Type} {marks : List (Char × σ)}
    {project : Part → Option (σ × Amount)} {field : Field}
    (single : ∀ part, (project part).isSome = true → part.field = field)
    (gives : ∀ part : Part,
      (marks.findSome? fun mark => (part.valueFor? mark.1).map fun value => (mark.2, value)) =
        (project part).map fun signed => (signed.1, signed.2.text)) :
    signedValue? marks rhs =
      (wording.find project).map fun signed => (signed.1, signed.2.text) := by
  have distinct := (arranged.map Part.field).nodup_iff.2 wording.distinct
  have lone : ∀ mark ∈ marks, ∀ part : Part,
      (part.valueFor? mark.1).isSome = true → part.field = field := by
    intro mark member part given
    have named := congrArg Option.isSome (gives part)
    rw [Option.isSome_map] at named
    refine single part ?_
    rw [← named, List.findSome?_isSome_iff]
    exact ⟨mark, member, by rwa [Option.isSome_map]⟩
  have parted := findSome?_marks_of_distinct marks distinct Part.valueFor? lone
  simp only [signedValue?, valueFor?_of_spaced spaced]
  rw [parted, ← findSome?_arranged arranged single, List.map_findSome?]
  exact congrArg (order.findSome? ·) (funext gives)

/-- The view that is referred to is that of the wording. -/
theorem viewReference?_of_spaced : Shorthand.viewReference? rhs = wording.viewReference? := by
  have value := valueFor?_slot arranged spaced .reference
  change valueFor? '@' rhs = _ at value
  rw [Shorthand.viewReference?, value, Wording.viewReference?]
  cases wording.find (Part.word? .reference) <;> rfl

/-- A reference runs into a hyphen where the identifier holds one. -/
theorem splitReference?_arranged :
    splitReference? rhs.toList =
      wording.find Part.identifier? >>= fun label => splitReference? label.text.toList := by
  have distinct := (arranged.map Part.field).nodup_iff.2 wording.distinct
  rw [splitReference?_of_spaced spaced, List.findSome?_map,
    ← findSome?_arranged arranged Part.field_of_identifier?,
    ← findSome?_bind_of_distinct distinct Part.field_of_identifier?]
  exact congrArg (order.findSome? ·) (funext Part.splitReference?_token)

/-- The tokens of a wording are read as its meaning. -/
theorem shorthand_read (lhs : String) (field : Field) :
    Shorthand.read lhs rhs field =
      ⟨(wording.meaning lhs field).value,
        (wording.meaning lhs field).diagnostics ++ wording.hyphenation field⟩ := by
  have sizeClass (slot : Slot) :
      valueFor? slot.mark rhs >>= SizeClass.ofKey? = wording.sizeClass? slot := by
    rw [valueFor?_slot arranged spaced, sizeClass?]
    cases wording.find (Part.word? slot) <;> rfl
  cases field with
  | leftAttributes => rfl
  | rightAttribute =>
    simp only [Shorthand.read, viewReference?_of_spaced arranged spaced, hyphenation,
      List.append_nil]
    rfl
  | relation =>
    simp only [Shorthand.read, relationKey?_of_spaced arranged spaced, hyphenation, meaning]
    cases wording.find Part.relation? <;> rfl
  | constant =>
    simp only [Shorthand.read, Shorthand.constant, meaning, hyphenation, List.append_nil,
      signedValue?_of_spaced arranged spaced Part.field_of_constant? Part.findSome?_constantMarks]
    rcases wording.find Part.constant? with _ | ⟨sign, amount⟩
    · rfl
    · simp only [Option.map_some]
  | multiplier =>
    simp only [Shorthand.read, Shorthand.multiplier, meaning, hyphenation, List.append_nil,
      signedValue?_of_spaced arranged spaced Part.field_of_multiplier?
        Part.findSome?_multiplierMarks]
    rcases wording.find Part.multiplier? with _ | ⟨sign, amount⟩
    · rfl
    · simp only [Option.map_some]
  | priority =>
    have value := valueFor?_slot arranged spaced .priority
    change valueFor? 'p' rhs = _ at value
    simp only [Shorthand.read, Shorthand.priority, value, meaning, hyphenation, List.append_nil]
    rcases wording.find (Part.word? .priority) with _ | given
    · rfl
    · simp only [Option.map_some]
  | reference =>
    simp only [Shorthand.read, Shorthand.reference, viewReference?_of_spaced arranged spaced,
      splitReference?_arranged arranged spaced, meaning, hyphenation]
    cases wording.viewReference? with
    | none => rfl
    | some reference =>
      cases wording.find Part.identifier? >>= fun label =>
        splitReference? label.text.toList <;> rfl
  | identifier =>
    simp only [Shorthand.read, valueFor?_numberSign arranged spaced, meaning, hyphenation]
    cases wording.find Part.identifier? with
    | none => rfl
    | some label =>
      have named : (label.text != "") = true := by simp [label.ne_empty]
      simp only [Option.map_some, Option.filter_some, named, ↓reduceIte]
      rfl
  | horizontalSizeClass => exact congrArg Reported.clean (sizeClass .horizontal)
  | verticalSizeClass => exact congrArg Reported.clean (sizeClass .vertical)

end Shorthand

section Verbose

variable {wording : Wording} {order : List Part} (arranged : order.Perm wording.parts)
  (signFirst : Part → Bool)

/-- What is found under a name is the value of the part with that name. -/
theorem lookup?_entries (order : List Part) (signFirst : Part → Bool) (name : String) :
    Value.lookup? (order.map fun part => part.entry (signFirst part)) name =
      order.findSome? fun part =>
        if part.name = name then some (part.content (signFirst part)) else none := by
  induction order with
  | nil => rfl
  | cons part rest inner =>
    rw [List.map_cons, List.findSome?_cons]
    simp only [Part.entry, Value.lookup?]
    split
    · rfl
    · exact inner

/-- A mapping of parts fixes no attribute beside the reference. -/
theorem field?_attribute (order : List Part) (signFirst : Part → Bool) :
    Verbose.field? (order.map fun part => part.entry (signFirst part)) "attribute" = none := by
  have absent : (order.findSome? fun part =>
      if part.name = "attribute" then some (part.content (signFirst part)) else none) = none := by
    rw [List.findSome?_eq_none_iff]
    intro part member
    cases part with
    | word slot given => cases slot <;> rfl
    | _ => rfl
  rw [Verbose.field?, Value.lookupD, lookup?_entries, absent]
  rfl

include arranged

/-- A field of the mapping holds what the part of it says. -/
theorem field?_of_entries (name : String) (project : Part → Option α) (toValue : α → Value)
    {field : Field} (single : ∀ part, (project part).isSome = true → part.field = field)
    (gives : ∀ part : Part,
      (if part.name = name then some (part.content (signFirst part)) else none) =
        (project part).map toValue)
    (present : ∀ said, toValue said ≠ .null) :
    Verbose.field? (order.map fun part => part.entry (signFirst part)) name =
      (wording.find project).map toValue := by
  have held : Value.lookup? (order.map fun part => part.entry (signFirst part)) name =
      (wording.find project).map toValue := by
    rw [lookup?_entries, ← findSome?_arranged arranged single, List.map_findSome?]
    exact congrArg (order.findSome? ·) (funext gives)
  rw [Verbose.field?, Value.lookupD, held]
  cases wording.find project with
  | none => rfl
  | some said =>
    simp only [Option.map_some, Option.getD_some]
    split
    · next null => exact absurd null (present said)
    · rfl

/-- A text of the mapping is what the part of it says. -/
theorem text?_of_entries (name : String) (project : Part → Option α) (toText : α → String)
    {field : Field} (single : ∀ part, (project part).isSome = true → part.field = field)
    (gives : ∀ part : Part,
      (if part.name = name then some (part.content (signFirst part)) else none) =
        (project part).map fun said => .text (toText said)) :
    Verbose.text? (order.map fun part => part.entry (signFirst part)) name =
      (wording.find project).map toText := by
  have held := field?_of_entries arranged signFirst name project (fun said => .text (toText said))
    single gives fun _ => Value.noConfusion
  rw [Verbose.text?, held]
  cases wording.find project <;> rfl

/-- The word of a field is the text under its key. -/
theorem text?_slot (slot : Slot) :
    Verbose.text? (order.map fun part => part.entry (signFirst part)) slot.name =
      (wording.find (Part.word? slot)).map Word.text := by
  refine text?_of_entries arranged signFirst slot.name _ _ Part.field_of_word? fun part => ?_
  cases part with
  | word other given => cases slot <;> cases other <;> rfl
  | _ => cases slot <;> rfl

/-- The identifier is the text under its key. -/
theorem text?_identifier :
    Verbose.text? (order.map fun part => part.entry (signFirst part)) "identifier" =
      (wording.find Part.identifier?).map Label.text := by
  refine text?_of_entries arranged signFirst _ _ _ Part.field_of_identifier? fun part => ?_
  cases part with
  | word slot given => cases slot <;> rfl
  | _ => rfl

/-- The relation is the text under its key. -/
theorem text?_relation :
    Verbose.text? (order.map fun part => part.entry (signFirst part)) "relation" =
      (wording.find Part.relation?).map RelationKey.text := by
  refine text?_of_entries arranged signFirst _ _ _ Part.field_of_relation? fun part => ?_
  cases part with
  | word slot given => cases slot <;> rfl
  | _ => rfl

/-- The number and the sign that a mapping holds, in either order. -/
theorem signedParts?_of_entries {σ : Type} (name : String)
    (project : Part → Option (σ × Amount)) (signName : σ → String) (rebuild : σ × Amount → Part)
    {field : Field} (single : ∀ part, (project part).isSome = true → part.field = field)
    (gives : ∀ part : Part,
      (if part.name = name then some (part.content (signFirst part)) else none) =
        (project part).map fun said =>
          .mapping (signedEntries (signFirst (rebuild said)) said.2.text (signName said.1))) :
    Verbose.signedParts? (order.map fun part => part.entry (signFirst part)) name =
      (wording.find project).map fun said => (.text said.2.text, some (signName said.1)) := by
  have held := field?_of_entries arranged signFirst name project _ single gives
    fun _ => Value.noConfusion
  rw [Verbose.signedParts?, held]
  cases wording.find project with
  | none => rfl
  | some said =>
    simp only [Option.map_some, Value.entries?_mapping, signedEntries]
    cases signFirst (rebuild said) <;> rfl

/-- The entries of a wording are read as its meaning. -/
theorem verbose_read (lhs : String) (field : Field) :
    Verbose.read lhs (order.map fun part => part.entry (signFirst part)) field =
      .ok (wording.meaning lhs field) := by
  have reference :
      Verbose.viewReference? (order.map fun part => part.entry (signFirst part)) =
        wording.viewReference? := by
    have value := text?_slot arranged signFirst .reference
    change Verbose.text? _ "to" = _ at value
    rw [Verbose.viewReference?, value, Wording.viewReference?]
    cases wording.find (Part.word? .reference) <;> rfl
  have sizeClass (slot : Slot) :
      Verbose.text? (order.map fun part => part.entry (signFirst part)) slot.name >>=
        SizeClass.ofKey? = wording.sizeClass? slot := by
    rw [text?_slot arranged signFirst slot, sizeClass?]
    cases wording.find (Part.word? slot) <;> rfl
  cases field with
  | leftAttributes => rfl
  | rightAttribute =>
    simp only [Verbose.read, Verbose.rightAttribute?, field?_attribute, reference]
    rfl
  | relation =>
    simp only [Verbose.read, text?_relation arranged signFirst, meaning]
    cases wording.find Part.relation? <;> rfl
  | constant =>
    have parts := signedParts?_of_entries arranged signFirst "constant" Part.constant?
      ConstantSign.name (fun said => .constant said.1 said.2) Part.field_of_constant? fun part => by
        cases part with
        | word slot given => cases slot <;> rfl
        | _ => rfl
    simp only [Verbose.read, Verbose.constant, Verbose.signedNumber, parts, meaning]
    rcases wording.find Part.constant? with _ | ⟨sign, amount⟩
    · rfl
    · simp only [Option.map_some, Reading.number_text]
      rcases Reading.numberOfText "constant" amount.text with ⟨_ | number, told⟩ <;>
        simp [bind, Except.bind, pure, Reported.andThen, Reported.clean, Verbose.signedConstant?,
          ConstantSign.ofName?_name]
  | multiplier =>
    have parts := signedParts?_of_entries arranged signFirst "multiplier" Part.multiplier?
      MultiplierSign.name (fun said => .multiplier said.1 said.2) Part.field_of_multiplier?
        fun part => by
          cases part with
          | word slot given => cases slot <;> rfl
          | _ => rfl
    simp only [Verbose.read, Verbose.multiplier, Verbose.signedNumber, parts, meaning]
    rcases wording.find Part.multiplier? with _ | ⟨sign, amount⟩
    · rfl
    · simp only [Option.map_some, Reading.number_text]
      rcases Reading.numberOfText "multiplier" amount.text with ⟨_ | number, told⟩ <;>
        simp [bind, Except.bind, Reported.andThen, Reported.clean, Verbose.signedMultiplier,
          MultiplierSign.ofName?_name, Reading.checkMultiplier]
  | priority =>
    have held := field?_of_entries arranged signFirst "priority" (Part.word? .priority)
      (fun given => .text given.text) Part.field_of_word? (fun part => by
        cases part with
        | word slot given => cases slot <;> rfl
        | _ => rfl) fun _ => Value.noConfusion
    simp only [Verbose.read, Verbose.priority, held, meaning]
    rcases wording.find (Part.word? .priority) with _ | given
    · rfl
    · simp only [Option.map_some, Reading.priority, Reading.number_text]
      rfl
  | reference => simp only [Verbose.read, reference, meaning]
  | identifier =>
    simp only [Verbose.read, text?_identifier arranged signFirst, meaning]
    cases wording.find Part.identifier? with
    | none => rfl
    | some label =>
      have named : (label.text != "") = true := by simp [label.ne_empty]
      simp only [Option.map_some, Option.filter_some, named, ↓reduceIte]
  | horizontalSizeClass =>
    exact congrArg (fun sizeClass => Except.ok (Reported.clean sizeClass)) (sizeClass .horizontal)
  | verticalSizeClass =>
    exact congrArg (fun sizeClass => Except.ok (Reported.clean sizeClass)) (sizeClass .vertical)

end Verbose

/-- **The short form and the mapping form of a wording say the same**, field by field and with the
same reports, in whatever order its parts are written. The short form alone looks for hyphens after
references in its whole text, the identifier included. -/
theorem read_shorthand_verbose (wording : Wording) (lhs : String) (sink : Sink) {rhs : String}
    {fields : List (Value × Value)} (short : wording.Writes (.shorthand rhs))
    (long : wording.Writes (.verbose fields)) (field : Field) :
    Directive.read ⟨lhs, .verbose fields, sink⟩ field = .ok (wording.meaning lhs field) ∧
      Directive.read ⟨lhs, .shorthand rhs, sink⟩ field =
        .ok ⟨(wording.meaning lhs field).value,
          (wording.meaning lhs field).diagnostics ++ wording.hyphenation field⟩ := by
  cases short with
  | shorthand tokensArranged spaced =>
    cases long with
    | verbose entriesArranged signFirst =>
      exact ⟨verbose_read entriesArranged signFirst lhs field,
        congrArg Except.ok (shorthand_read tokensArranged spaced lhs field)⟩

/-- A wording with all its parts; the divisor is zero, and the priority is no number. -/
def full : Wording where
  parts :=
    [.word .reference ⟨"header.bottom", by decide⟩, .relation ⟨"lte", by decide⟩,
      .constant .inset ⟨⟨"8", by decide⟩, by decide⟩,
      .multiplier .divide ⟨⟨"0", by decide⟩, by decide⟩,
      .word .priority ⟨"nan", by decide⟩,
      .identifier ⟨"a@b-c<=", by decide, by simp [Text.isBlank]⟩,
      .word .horizontal ⟨"c", by decide⟩, .word .vertical ⟨"regular", by decide⟩]
  distinct := by decide

/-- Both forms of the full wording refer to one view. The hyphen in its identifier is told by the
short form only. -/
theorem full_read_reference :
    let rhs := " vregular hc #a@b-c<= pnan /0 <8 lte @header.bottom"
    let fields : List (Value × Value) :=
      [(.text "to", .text "header.bottom"), (.text "relation", .text "lte"),
        (.text "constant", .mapping [(.text "sign", .text "inset"), (.text "value", .text "8")]),
        (.text "multiplier",
          .mapping [(.text "value", .text "0"), (.text "sign", .text "divide")]),
        (.text "priority", .text "nan"), (.text "identifier", .text "a@b-c<="),
        (.text "horizontalSizeClass", .text "c"), (.text "verticalSizeClass", .text "regular")]
    full.Writes (.shorthand rhs) ∧ full.Writes (.verbose fields) ∧
      Directive.read ⟨"top", .verbose fields, .log⟩ .reference = .ok (.clean (some "header")) ∧
      Directive.read ⟨"top", .shorthand rhs, .log⟩ .reference =
        .ok ⟨some "header", [.splitReference "b" "-c"]⟩ := by
  intro rhs fields
  have spaced : Spaced (full.parts.reverse.map Part.token) rhs.toList :=
    have spelled : " vregular hc #a@b-c<= pnan /0 <8 lte @header.bottom".toList =
      (full.parts.reverse.map Part.token).flatMap (' ' :: ·) := rfl
    spelled ▸ spaced_flatMap _
  have short : full.Writes (.shorthand rhs) := .shorthand full.parts.reverse_perm spaced
  have long : full.Writes (.verbose fields) :=
    .verbose (.refl full.parts) fun part => part.constant?.isSome
  exact ⟨short, long, read_shorthand_verbose full "top" .log short long .reference⟩

end Wording

end ViewLayout
