import ViewLayout.Directive.Read
import ViewLayout.Proofs.Directive.Spacing

/-!
# Wordings

What a directive says beside its left side, part by part: a word after a mark, an identifier, a
relation, a constant, a multiplier. A wording has at most one part for a field. A part is written as
a token and as an entry, and `Wording.Writes` holds of the payloads that write all parts of a
wording in either form, in any order.
-/

namespace ViewLayout

open Shorthand Text

/-- Whether a text is one word: it is not empty and holds no blanks and no symbols. -/
def isWord (text : String) : Bool :=
  !text.toList.isEmpty && text.toList.all isWordChar

/-- A word. -/
structure Word where
  text : String
  isWord_text : isWord text = true

/-- A word that can stand for a number: it cannot be taken for the end of a relation. -/
structure Amount extends Word where
  head_ne : text.toList.head? ≠ some '='

/-- The name of a constraint: it is not empty and holds no blanks. -/
structure Label where
  text : String
  ne_empty : text ≠ ""
  dark : ∀ c ∈ text.toList, isBlank c = false

/-- A sign or a word for a relation. -/
structure RelationKey where
  text : String
  known : (Relation.ofKey? text).isSome = true

/-- The fields that a directive gives by a word. -/
inductive Slot
  | reference
  | priority
  | horizontal
  | vertical
deriving DecidableEq

namespace Slot

/-- The modifier of a word. -/
def mark : Slot → Char
  | reference => '@'
  | priority => 'p'
  | horizontal => 'h'
  | vertical => 'v'

/-- The key of a word in a mapping. -/
def name : Slot → String
  | reference => "to"
  | priority => "priority"
  | horizontal => "horizontalSizeClass"
  | vertical => "verticalSizeClass"

/-- The field that a word gives. -/
def field : Slot → Field
  | reference => .reference
  | priority => .priority
  | horizontal => .horizontalSizeClass
  | vertical => .verticalSizeClass

end Slot

/-- The modifier of a constant. -/
def ConstantSign.mark : ConstantSign → Char
  | positive => '+'
  | negative => '-'
  | inset => '<'
  | offset => '>'

/-- The modifier of a multiplier. -/
def MultiplierSign.mark : MultiplierSign → Char
  | multiply => '*'
  | divide => '/'

/-- One thing that a directive says. -/
inductive Part
  | word (slot : Slot) (given : Word)
  | identifier (label : Label)
  | relation (key : RelationKey)
  | constant (sign : ConstantSign) (amount : Amount)
  | multiplier (sign : MultiplierSign) (amount : Amount)

/-- The entries of a number with a sign, in either order. -/
def signedEntries (signFirst : Bool) (amount sign : String) : List (Value × Value) :=
  if signFirst then [(.text "sign", .text sign), (.text "value", .text amount)]
  else [(.text "value", .text amount), (.text "sign", .text sign)]

namespace Part

/-- The field that a part gives. -/
def field : Part → Field
  | word slot _ => slot.field
  | identifier _ => .identifier
  | relation _ => .relation
  | constant _ _ => .constant
  | multiplier _ _ => .multiplier

/-- A part as a token. -/
def token : Part → List Char
  | word slot given => slot.mark :: given.text.toList
  | identifier label => '#' :: label.text.toList
  | relation key => key.text.toList
  | constant sign amount => sign.mark :: amount.text.toList
  | multiplier sign amount => sign.mark :: amount.text.toList

/-- The key of a part in a mapping. -/
def name : Part → String
  | word slot _ => slot.name
  | identifier _ => "identifier"
  | relation _ => "relation"
  | constant _ _ => "constant"
  | multiplier _ _ => "multiplier"

/-- The value of a part in a mapping, where a sign may stand before its number. -/
def content (signFirst : Bool) : Part → Value
  | word _ given => .text given.text
  | identifier label => .text label.text
  | relation key => .text key.text
  | constant sign amount => .mapping (signedEntries signFirst amount.text sign.name)
  | multiplier sign amount => .mapping (signedEntries signFirst amount.text sign.name)

/-- A part as an entry of a mapping. -/
def entry (signFirst : Bool) (part : Part) : Value × Value :=
  (.text part.name, part.content signFirst)

/-- The word that a part gives for a field. -/
def word? (slot : Slot) : Part → Option Word
  | word other given => if other = slot then some given else none
  | _ => none

/-- The identifier that a part gives. -/
def identifier? : Part → Option Label
  | identifier label => some label
  | _ => none

/-- The relation that a part gives. -/
def relation? : Part → Option RelationKey
  | relation key => some key
  | _ => none

/-- The constant. -/
def constant? : Part → Option (ConstantSign × Amount)
  | constant sign amount => some (sign, amount)
  | _ => none

/-- The multiplier that a part gives. -/
def multiplier? : Part → Option (MultiplierSign × Amount)
  | multiplier sign amount => some (sign, amount)
  | _ => none

theorem field_of_word? {slot : Slot} (part : Part) (said : (part.word? slot).isSome = true) :
    part.field = slot.field := by
  cases part with
  | word other given =>
    simp only [word?] at said
    split at said
    · next same => rw [same]; rfl
    · contradiction
  | _ => contradiction

theorem field_of_identifier? (part : Part) (said : part.identifier?.isSome = true) :
    part.field = .identifier := by
  cases part with
  | identifier label => rfl
  | _ => contradiction

theorem field_of_relation? (part : Part) (said : part.relation?.isSome = true) :
    part.field = .relation := by
  cases part with
  | relation key => rfl
  | _ => contradiction

theorem field_of_constant? (part : Part) (said : part.constant?.isSome = true) :
    part.field = .constant := by
  cases part with
  | constant sign amount => rfl
  | _ => contradiction

theorem field_of_multiplier? (part : Part) (said : part.multiplier?.isSome = true) :
    part.field = .multiplier := by
  cases part with
  | multiplier sign amount => rfl
  | _ => contradiction

end Part

/-- What a directive says: its parts, of which no two are about one field. -/
structure Wording where
  parts : List Part
  distinct : (parts.map Part.field).Nodup

/-- A payload writes a wording if it consists of the wording's parts in some order: as tokens
set apart by blanks, or as entries, in which the sign may stand before the value or after it. -/
inductive Wording.Writes (wording : Wording) : Payload → Prop
  | shorthand {order : List Part} {rhs : String} (arranged : order.Perm wording.parts)
      (spaced : Spaced (order.map Part.token) rhs.toList) : Writes wording (.shorthand rhs)
  | verbose {order : List Part} (arranged : order.Perm wording.parts) (signFirst : Part → Bool) :
      Writes wording (.verbose (order.map fun part => part.entry (signFirst part)))

/-- What one part says does not depend on the order, as no other part says it. -/
theorem findSome?_eq_of_perm {α : Type} {first second : List Part} (arranged : first.Perm second)
    (distinct : (first.map Part.field).Nodup) {project : Part → Option α} {field : Field}
    (single : ∀ part, (project part).isSome = true → part.field = field) :
    first.findSome? project = second.findSome? project := by
  induction arranged with
  | nil => rfl
  | cons part _ inner =>
    rw [List.map_cons, List.nodup_cons] at distinct
    rw [List.findSome?_cons, List.findSome?_cons, inner distinct.2]
  | swap part other rest =>
    simp only [List.map_cons, List.nodup_cons, List.mem_cons, not_or] at distinct
    simp only [List.findSome?_cons]
    cases here : project part with
    | none => rfl
    | some value =>
      cases there : project other with
      | none => rfl
      | some clash =>
        have same : other.field = part.field := by
          rw [single part (by rw [here]; rfl), single other (by rw [there]; rfl)]
        exact absurd same distinct.1.1
  | trans firstStep _ inner outer =>
    exact (inner distinct).trans (outer ((firstStep.map Part.field).nodup_iff.1 distinct))

/-- Finding agrees for two questions that agree on all items. -/
theorem findSome?_congr_of_mem {α β : Type} {items : List α} {first second : α → Option β}
    (agree : ∀ item ∈ items, first item = second item) :
    items.findSome? first = items.findSome? second := by
  induction items with
  | nil => rfl
  | cons item rest inner =>
    rw [List.findSome?_cons, List.findSome?_cons, agree item List.mem_cons_self,
      inner fun other member => agree other (List.mem_cons_of_mem item member)]

/-- A modifier among several is looked up part by part, as no other part has one of them. -/
theorem findSome?_marks_of_distinct {σ : Type} (marks : List (Char × σ)) {order : List Part}
    (distinct : (order.map Part.field).Nodup) (value : Char → Part → Option String) {field : Field}
    (single : ∀ mark ∈ marks, ∀ part, (value mark.1 part).isSome = true → part.field = field) :
    (marks.findSome? fun mark => (order.findSome? (value mark.1)).map fun said => (mark.2, said)) =
      order.findSome? fun part =>
        marks.findSome? fun mark => (value mark.1 part).map fun said => (mark.2, said) := by
  induction order with
  | nil => simp
  | cons part rest inner =>
    rw [List.map_cons, List.nodup_cons] at distinct
    rw [List.findSome?_cons, ← inner distinct.2]
    cases here : marks.findSome? fun mark =>
      (value mark.1 part).map fun said => (mark.2, said) with
    | none =>
      refine findSome?_congr_of_mem fun mark member => ?_
      have absent := List.findSome?_eq_none_iff.1 here mark member
      rw [Option.map_eq_none_iff] at absent
      rw [List.findSome?_cons, absent]
    | some found =>
      obtain ⟨hit, hitMember, said⟩ := List.exists_of_findSome?_eq_some here
      have own : part.field = field := single hit hitMember part (by
        cases given : value hit.1 part with
        | none => simp [given] at said
        | some _ => rfl)
      have others : ∀ mark ∈ marks, rest.findSome? (value mark.1) = none := by
        intro mark member
        rw [List.findSome?_eq_none_iff]
        intro other otherMember
        cases given : value mark.1 other with
        | none => rfl
        | some _ =>
          have clash := single mark member other (by rw [given]; rfl)
          exact absurd (List.mem_map.2 ⟨other, otherMember, clash.trans own.symm⟩) distinct.1
      change _ = some found
      rw [← here]
      refine findSome?_congr_of_mem fun mark member => ?_
      rw [List.findSome?_cons, others mark member]
      cases value mark.1 part <;> rfl

/-- Where only one part can say something, what follows from it is looked up part by part. -/
theorem findSome?_bind_of_distinct {α β : Type} {order : List Part}
    (distinct : (order.map Part.field).Nodup) {project : Part → Option α} {field : Field}
    (single : ∀ part, (project part).isSome = true → part.field = field) (next : α → Option β) :
    (order.findSome? fun part => project part >>= next) = order.findSome? project >>= next := by
  induction order with
  | nil => rfl
  | cons part rest inner =>
    rw [List.map_cons, List.nodup_cons] at distinct
    rw [List.findSome?_cons, List.findSome?_cons, inner distinct.2]
    cases here : project part with
    | none => rfl
    | some value =>
      have silent : rest.findSome? project = none := by
        rw [List.findSome?_eq_none_iff]
        intro other member
        cases there : project other with
        | none => rfl
        | some _ =>
          have same : other.field = part.field := by
            rw [single part (by rw [here]; rfl), single other (by rw [there]; rfl)]
          exact absurd (List.mem_map.2 ⟨other, member, same⟩) distinct.1
      rw [silent]
      change (match next value with | some found => some found | none => none) = next value
      cases next value <;> rfl

namespace Wording

variable {α : Type}

/-- What the part with a projection says. -/
def find (wording : Wording) (project : Part → Option α) : Option α :=
  wording.parts.findSome? project

/-- What is found of a wording does not depend on the order of its parts. -/
theorem findSome?_arranged {wording : Wording} {order : List Part}
    (arranged : order.Perm wording.parts) {project : Part → Option α} {field : Field}
    (single : ∀ part, (project part).isSome = true → part.field = field) :
    order.findSome? project = wording.find project :=
  findSome?_eq_of_perm arranged ((arranged.map Part.field).nodup_iff.2 wording.distinct) single

end Wording

end ViewLayout
