import Mathlib.Data.List.Basic
import ViewLayout.Proofs.Directive.Numbers

/-!
# Which token counts

A field of a shorthand directive is what one argument says by itself: the first one with the
modifier that is looked for first. `Recast` relates arguments in which the others differ: they are
put in another order, repeated, or outranked. `read_of_recast` says that all fields are then read as
the same values, and that an argument whose number cannot be used leaves its field absent.
-/

namespace ViewLayout

open Shorthand

/-- The modifiers of the arguments for a field, in the order in which they are looked for. A
relation has none. -/
def Field.ranks : Field → List (Option String)
  | leftAttributes => []
  | rightAttribute => [some '@'.toString]
  | relation => [none]
  | constant => constantMarks.map fun mark => some mark.1.toString
  | multiplier => multiplierMarks.map fun mark => some mark.1.toString
  | priority => [some 'p'.toString]
  | reference => [some '@'.toString]
  | identifier => [some '#'.toString]
  | horizontalSizeClass => [some 'h'.toString]
  | verticalSizeClass => [some 'v'.toString]

/-- No modifier ranks twice. -/
theorem Field.nodup_ranks (field : Field) : field.ranks.Nodup := by
  cases field <;> decide

/-- Fields for which several modifiers are looked for share none of them with another field. -/
theorem Field.eq_of_mem_ranks {field other : Field} {mark : Option String}
    (several : 1 < field.ranks.length) (member : mark ∈ field.ranks)
    (shared : mark ∈ other.ranks) : other = field := by
  cases field <;> cases other <;>
    first
    | rfl
    | exact absurd several (by decide)
    | (revert mark; decide)

namespace Shorthand

namespace Argument

/-- The modifier of an argument. All relations count as one. -/
def mark? : Argument → Option String
  | relation _ => none
  | modifier mark _ => some mark

/-- The value of an argument; that of a relation is its key. -/
def value : Argument → String
  | relation key => key
  | modifier _ value => value

/-- What the modifier of an argument means among others. -/
def signOf? {σ : Type} (marks : List (Char × σ)) (argument : Argument) : Option σ :=
  marks.findSome? fun mark =>
    if some mark.1.toString = argument.mark? then some mark.2 else none

/-- What an argument says about a field by itself. -/
def content (argument : Argument) : (field : Field) → Option field.Content
  | .leftAttributes => none
  | .rightAttribute =>
    Reading.viewReference? argument.value >>= fun reference => reference.2 >>= Attribute.ofKey?
  | .relation => Relation.ofKey? argument.value
  | .constant =>
    argument.signOf? constantMarks >>= fun sign =>
      (Reading.numberOfText "constant" argument.value).value.map (⟨·, sign⟩)
  | .multiplier =>
    argument.signOf? multiplierMarks >>= fun sign =>
      (Reading.numberOfText "multiplier" argument.value >>= fun number =>
        Reading.checkMultiplier number sign).value
  | .priority =>
    (Reading.numberOfText "priority" argument.value >>= Reading.checkPriority).value
  | .reference => (Reading.viewReference? argument.value).map Prod.fst
  | .identifier => (some argument.value).filter (· != "")
  | .horizontalSizeClass => SizeClass.ofKey? argument.value
  | .verticalSizeClass => SizeClass.ofKey? argument.value

/-- The modifier of the first argument is looked for before that of the second one. -/
def Outranks (higher lower : Argument) : Prop :=
  ∃ field : Field, [higher.mark?, lower.mark?].Sublist field.ranks

end Argument

/-- The first argument with one of several modifiers, of which the first that there is counts. -/
def firstOf? (ranks : List (Option String)) (given : List Argument) : Option Argument :=
  ranks.findSome? fun mark => given.find? (·.mark? = mark)

/-- The argument that a field is read from. -/
def winner? (field : Field) (given : List Argument) : Option Argument :=
  firstOf? field.ranks given

/-- Arguments that differ only where it does not count. -/
inductive Recast : List Argument → List Argument → Prop
  /-- The arguments are in another order, in which those with one modifier are as they were. -/
  | rearranged {first second : List Argument}
    (same : ∀ mark, first.filter (·.mark? = mark) = second.filter (·.mark? = mark)) :
    Recast first second
  /-- A modifier is repeated. -/
  | repeated {before after : List Argument} {argument earlier : Argument}
    (present : earlier ∈ before) (same : earlier.mark? = argument.mark?) :
    Recast (before ++ after) (before ++ argument :: after)
  /-- There is an argument that outranks another one. -/
  | outranked {before after : List Argument} {argument higher : Argument}
    (present : higher ∈ before ++ after) (outranks : higher.Outranks argument) :
    Recast (before ++ after) (before ++ argument :: after)
  | symm {first second : List Argument} (recast : Recast first second) : Recast second first
  | trans {first second third : List Argument} (start : Recast first second)
    (finish : Recast second third) : Recast first third

section Winner

variable {first second before after : List Argument} {argument : Argument}

/-- An argument with another modifier is not found. -/
theorem find?_insert_of_ne {mark : Option String} (other : argument.mark? ≠ mark) :
    (before ++ argument :: after).find? (·.mark? = mark) =
      (before ++ after).find? (·.mark? = mark) := by
  simp only [List.find?_append, List.find?_cons, other, decide_false]

/-- What does not count does not change which argument does. -/
theorem winner?_eq_of_recast (recast : Recast first second) (field : Field) :
    winner? field first = winner? field second := by
  induction recast with
  | rearranged same =>
    refine congrArg (field.ranks.findSome? ·) (funext fun mark => ?_)
    rw [← List.head?_filter, same mark, List.head?_filter]
  | @repeated before after argument earlier present same =>
    refine congrArg (field.ranks.findSome? ·) (funext fun mark => ?_)
    by_cases own : argument.mark? = mark
    · have found : (before.find? (·.mark? = mark)).isSome = true := by
        rw [List.find?_isSome]
        exact ⟨earlier, present, decide_eq_true (same.trans own)⟩
      rw [List.find?_append, List.find?_append, Option.or_of_isSome found,
        Option.or_of_isSome found]
    · exact (find?_insert_of_ne own).symm
  | @outranked before after argument higher present outranks =>
    by_cases concerned : argument.mark? ∈ field.ranks
    · obtain ⟨ranking, pair⟩ := outranks
      obtain rfl : field = ranking :=
        Field.eq_of_mem_ranks pair.length_le (pair.subset (by simp)) concerned
      -- the modifiers up to the higher one are found as before, and one of them is found
      obtain ⟨upper, lower, split, above, below⟩ := List.cons_sublist_iff.1 pair
      have below : argument.mark? ∈ lower := List.singleton_sublist.1 below
      have apart := field.nodup_ranks
      rw [split, List.nodup_append] at apart
      have other : ∀ mark ∈ upper, argument.mark? ≠ mark := fun mark member same =>
        apart.2.2 mark member _ below same.symm
      have found : (firstOf? upper (before ++ after)).isSome = true := by
        rw [firstOf?, List.findSome?_isSome_iff]
        refine ⟨_, above, ?_⟩
        rw [List.find?_isSome]
        exact ⟨higher, present, decide_eq_true rfl⟩
      have same : firstOf? upper (before ++ argument :: after) = firstOf? upper (before ++ after) :=
        findSome?_congr_of_mem fun mark member => find?_insert_of_ne (other mark member)
      simp only [winner?, firstOf?, split, List.findSome?_append] at same found ⊢
      rw [same, Option.or_of_isSome found, Option.or_of_isSome found]
    · refine findSome?_congr_of_mem fun mark member => (find?_insert_of_ne ?_).symm
      rintro rfl
      exact concerned member
  | symm _ inner => exact inner.symm
  | trans _ _ start finish => exact start.trans finish

end Winner

/-- What the argument that a field is read from says about it. The left side speaks for itself. -/
def outcome (lhs : String) (winner : Option Argument) : (field : Field) → Option field.Content
  | .leftAttributes => some (Reading.attributes lhs)
  | field => winner >>= (·.content field)

section Reading

variable (rhs : String)

/-- What is found first is the value of the first that is looked for. -/
theorem findSome?_eq_map_find? {α β : Type} {holds : α → Bool} {value : α → β}
    {find : α → Option β}
    (agree : ∀ item, find item = if holds item then some (value item) else none)
    (items : List α) : items.findSome? find = (items.find? holds).map value := by
  induction items with
  | nil => rfl
  | cons item rest inner =>
    rw [List.findSome?_cons, List.find?_cons, agree, inner]
    cases holds item <;> rfl

/-- The value of a modifier is that of the first argument with it. -/
theorem valueFor?_eq (mark : Char) :
    valueFor? mark rhs =
      ((arguments rhs).find? (·.mark? = some mark.toString)).map Argument.value := by
  refine findSome?_eq_map_find? (fun argument => ?_) _
  cases argument <;> simp [Argument.mark?, Argument.value]

/-- The relation is the first argument without a modifier. -/
theorem relationKey?_eq :
    relationKey? rhs = ((arguments rhs).find? (·.mark? = none)).map Argument.value := by
  refine findSome?_eq_map_find? (fun argument => ?_) _
  cases argument <;> simp [Argument.mark?, Argument.value]

/-- A signed value is that of the first argument, with the sign of its modifier. -/
theorem signedValue?_eq {σ : Type} (marks : List (Char × σ)) :
    signedValue? marks rhs =
      firstOf? (marks.map fun mark => some mark.1.toString) (arguments rhs) >>= fun argument =>
        (argument.signOf? marks).map fun sign => (sign, argument.value) := by
  induction marks with
  | nil => rfl
  | cons mark rest inner =>
    have later : signedValue? (mark :: rest) rhs =
        ((valueFor? mark.1 rhs).map fun value => (mark.2, value)).or (signedValue? rest rhs) := by
      simp only [signedValue?, List.findSome?_cons]
      cases valueFor? mark.1 rhs <;> rfl
    rw [later, valueFor?_eq]
    cases found : (arguments rhs).find? (·.mark? = some mark.1.toString) with
    | some argument =>
      have held := List.find?_some found
      have own : argument.mark? = some mark.1.toString := of_decide_eq_true held
      have first : firstOf? ((mark :: rest).map fun mark => some mark.1.toString) (arguments rhs) =
          some argument := by
        simp only [firstOf?, List.map_cons, List.findSome?_cons, found]
      have sign : argument.signOf? (mark :: rest) = some mark.2 := by
        simp only [Argument.signOf?, List.findSome?_cons, own, ↓reduceIte]
      simp only [first, Option.bind_eq_bind, Option.bind_some, sign, Option.map_some,
        Option.some_or]
    | none =>
      -- no argument has the first modifier, so that none of the others is taken for it
      have others : firstOf? ((mark :: rest).map fun mark => some mark.1.toString) (arguments rhs) =
          firstOf? (rest.map fun mark => some mark.1.toString) (arguments rhs) := by
        simp only [firstOf?, List.map_cons, List.findSome?_cons, found]
      rw [others, inner, Option.map_none, Option.map_none, Option.none_or]
      refine Option.bind_congr fun argument first => ?_
      obtain ⟨_, _, hit⟩ := List.exists_of_findSome?_eq_some first
      have other : some mark.1.toString ≠ argument.mark? := fun same =>
        List.find?_eq_none.1 found argument (List.mem_of_find?_eq_some hit)
          (decide_eq_true same.symm)
      simp only [Argument.signOf?, List.findSome?_cons, other, ↓reduceIte]

/-- Every field is what one argument says about it by itself. -/
theorem value_read (lhs : String) (field : Field) :
    (read lhs rhs field).value = outcome lhs (winner? field (arguments rhs)) field := by
  have single (mark : Option String) (given : List Argument) :
      firstOf? [mark] given = given.find? (·.mark? = mark) := by
    simp only [firstOf?, List.findSome?_cons, List.findSome?_nil]
    cases given.find? (·.mark? = mark) <;> rfl
  cases field with
  | leftAttributes => rfl
  | rightAttribute =>
    simp only [read, viewReference?, valueFor?_eq, outcome, winner?, Field.ranks, single]
    cases (arguments rhs).find? (·.mark? = some '@'.toString) <;> rfl
  | relation =>
    simp only [read, relationKey?_eq, outcome, winner?, Field.ranks, single]
    cases (arguments rhs).find? (·.mark? = none) <;> rfl
  | constant =>
    simp only [read, constant, signedValue?_eq, outcome, winner?, Field.ranks]
    cases firstOf? (constantMarks.map fun mark => some mark.1.toString) (arguments rhs) with
    | none => rfl
    | some argument =>
      simp only [Option.bind_eq_bind, Option.bind_some, Argument.content]
      cases argument.signOf? constantMarks with
      | none => rfl
      | some sign => simp only [Option.map_some, Option.bind_some, Reported.value_bind,
          Reported.value_pure]
  | multiplier =>
    simp only [read, multiplier, signedValue?_eq, outcome, winner?, Field.ranks]
    cases firstOf? (multiplierMarks.map fun mark => some mark.1.toString) (arguments rhs) with
    | none => rfl
    | some argument =>
      simp only [Option.bind_eq_bind, Option.bind_some, Argument.content]
      cases argument.signOf? multiplierMarks with
      | none => rfl
      | some sign => simp only [Option.map_some, Option.bind_some, Reported.value_bind]
  | priority =>
    simp only [read, priority, valueFor?_eq, outcome, winner?, Field.ranks, single]
    cases (arguments rhs).find? (·.mark? = some 'p'.toString) with
    | none => rfl
    | some argument => simp only [Option.map_some, Option.bind_eq_bind, Option.bind_some,
        Argument.content]
  | reference =>
    simp only [read, reference, viewReference?, valueFor?_eq, outcome, winner?, Field.ranks, single]
    cases (arguments rhs).find? (·.mark? = some '@'.toString) with
    | none => rfl
    | some argument =>
      simp only [Option.map_some, Option.bind_eq_bind, Option.bind_some, Argument.content]
      cases Reading.viewReference? argument.value with
      | none => rfl
      | some found => cases splitReference? rhs.toList <;> rfl
  | identifier =>
    simp only [read, valueFor?_eq, outcome, winner?, Field.ranks, single]
    cases (arguments rhs).find? (·.mark? = some '#'.toString) <;> rfl
  | horizontalSizeClass =>
    simp only [read, valueFor?_eq, outcome, winner?, Field.ranks, single]
    cases (arguments rhs).find? (·.mark? = some 'h'.toString) <;> rfl
  | verticalSizeClass =>
    simp only [read, valueFor?_eq, outcome, winner?, Field.ranks, single]
    cases (arguments rhs).find? (·.mark? = some 'v'.toString) <;> rfl

/-- An argument that is found by one of several modifiers has the sign of that one. -/
theorem isSome_signOf? {σ : Type} {marks : List (Char × σ)} {given : List Argument}
    {argument : Argument}
    (first : firstOf? (marks.map fun mark => some mark.1.toString) given = some argument) :
    (argument.signOf? marks).isSome = true := by
  obtain ⟨_, ranked, hit⟩ := List.exists_of_findSome?_eq_some first
  obtain ⟨mark, member, rfl⟩ := List.mem_map.1 ranked
  have held := List.find?_some hit
  have own : argument.mark? = some mark.1.toString := of_decide_eq_true held
  rw [Argument.signOf?, List.findSome?_isSome_iff]
  exact ⟨mark, member, by simp only [own, ↓reduceIte, Option.isSome_some]⟩

/-- The number of a field is what the argument that it is read from gives for it. -/
theorem given?_eq (numberField : NumberField) :
    numberField.given? (.shorthand rhs) =
      (winner? numberField.field (arguments rhs)).map fun argument => .text argument.value := by
  have signed {σ : Type} (marks : List (Char × σ)) :
      ((signedValue? marks rhs).map fun found => Value.text found.2) =
        (firstOf? (marks.map fun mark => some mark.1.toString) (arguments rhs)).map
          fun argument => .text argument.value := by
    rw [signedValue?_eq]
    cases first : firstOf? (marks.map fun mark => some mark.1.toString) (arguments rhs) with
    | none => rfl
    | some argument =>
      obtain ⟨sign, named⟩ := Option.isSome_iff_exists.1 (isSome_signOf? first)
      simp only [Option.bind_eq_bind, Option.bind_some, named, Option.map_some]
  cases numberField with
  | constant => exact signed constantMarks
  | multiplier => exact signed multiplierMarks
  | priority =>
    simp only [NumberField.given?, valueFor?_eq, NumberField.field, winner?, Field.ranks, firstOf?,
      List.findSome?_cons, List.findSome?_nil]
    cases (arguments rhs).find? (·.mark? = some 'p'.toString) <;> rfl

end Reading

/-- One argument decides on each field, and no other one takes its place. -/
structure Decided (lhs rhs : String) : Prop where
  /-- A field is what the argument that counts says about it by itself. -/
  alone : ∀ field, (read lhs rhs field).value = outcome lhs (winner? field (arguments rhs)) field
  /-- The number of a field is the one that this argument gives. -/
  given : ∀ numberField : NumberField, numberField.given? (.shorthand rhs) =
    (winner? numberField.field (arguments rhs)).map fun argument => .text argument.value
  /-- If that number cannot be used, the field is absent. -/
  absent : ∀ (numberField : NumberField) warning,
    numberField.Unusable (.shorthand rhs) warning →
      read lhs rhs numberField.field = ⟨none, [warning]⟩

theorem decided (lhs rhs : String) : Decided lhs rhs where
  alone := value_read rhs lhs
  given := given?_eq rhs
  absent := by
    intro numberField warning unusable
    let directive : Directive := ⟨lhs, .shorthand rhs, .log⟩
    have texts : ∀ (other : NumberField) value,
        other.given? directive.payload = some value → ∃ text, value = .text text := by
      intro other value given
      obtain ⟨argument, _, rfl⟩ := Option.map_eq_some_iff.1 ((given?_eq rhs other).symm.trans given)
      exact ⟨_, rfl⟩
    have showable : directive.Showable := by
      intro other value given
      obtain ⟨text, rfl⟩ := texts other value given
      exact Value.isShowable_text text
    have fits : ¬ directive.Overflows numberField.field := by
      rintro ⟨other, value, _, given, integer, rfl, _⟩
      obtain ⟨text, same⟩ := texts other _ given
      cases same
    have answered := Directive.read_of_unusable showable unusable fits
    exact Except.ok.inj answered

/-- **Only the arguments that count do count.** -/
theorem read_of_recast {rhs other : String} (recast : Recast (arguments rhs) (arguments other))
    (lhs : String) :
    (∀ field, (read lhs other field).value = (read lhs rhs field).value) ∧ Decided lhs rhs := by
  refine ⟨fun field => ?_, decided lhs rhs⟩
  rw [value_read, value_read, winner?_eq_of_recast recast field]

theorem read_recast_header :
    Recast (arguments "@header +8 *x gte") (arguments "gte <4*x/3 @header lte @footer +8") ∧
      (∀ field, (read "top" "gte <4*x/3 @header lte @footer +8" field).value =
        (read "top" "@header +8 *x gte" field).value) ∧
      Decided "top" "@header +8 *x gte" := by
  have short : arguments "@header +8 *x gte" =
      [.modifier "@" "header", .modifier "+" "8", .modifier "*" "x", .relation "gte"] := by decide
  have long : arguments "gte <4*x/3 @header lte @footer +8" =
      [.relation "gte", .modifier "<" "4", .modifier "*" "x", .modifier "/" "3",
        .modifier "@" "header", .relation "lte", .modifier "@" "footer", .modifier "+" "8"] := by
    decide
  have recast : Recast (arguments "@header +8 *x gte")
      (arguments "gte <4*x/3 @header lte @footer +8") := by
    rw [short, long]
    let header : Argument := .modifier "@" "header"
    let eight : Argument := .modifier "+" "8"
    let times : Argument := .modifier "*" "x"
    have arranged : Recast [header, eight, times, .relation "gte"]
        [.relation "gte", times, header, eight] := by
      refine .rearranged fun mark => ?_
      simp only [header, eight, times, List.filter_cons, Argument.mark?, List.filter_nil]
      grind
    have related : Recast ([.relation "gte", times, header] ++ [eight])
        ([.relation "gte", times, header] ++ .relation "lte" :: [eight]) :=
      .repeated List.mem_cons_self rfl
    have referred : Recast ([.relation "gte", times, header, .relation "lte"] ++ [eight])
        ([.relation "gte", times, header, .relation "lte"] ++ .modifier "@" "footer" :: [eight]) :=
      .repeated (by decide : header ∈ [.relation "gte", times, header, .relation "lte"]) rfl
    have divided : Recast
        ([.relation "gte", times] ++ [header, .relation "lte", .modifier "@" "footer", eight])
        ([.relation "gte", times] ++
          .modifier "/" "3" :: [header, .relation "lte", .modifier "@" "footer", eight]) :=
      .outranked (List.mem_cons_of_mem _ List.mem_cons_self) ⟨.multiplier, by decide⟩
    have inset : Recast
        ([.relation "gte"] ++ [times, .modifier "/" "3", header, .relation "lte",
          .modifier "@" "footer", eight])
        ([.relation "gte"] ++ .modifier "<" "4" :: [times, .modifier "/" "3", header,
          .relation "lte", .modifier "@" "footer", eight]) :=
      .outranked (by decide : eight ∈ _) ⟨.constant, by decide⟩
    exact arranged.trans (related.trans (referred.trans (divided.trans inset)))
  exact ⟨recast, read_of_recast recast "top"⟩

end Shorthand

end ViewLayout
