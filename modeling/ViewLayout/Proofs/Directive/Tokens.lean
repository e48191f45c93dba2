import ViewLayout.Proofs.Directive.Wording

/-!
# Parts as tokens

Each part of a wording is one token, and what the token says is the part. `arguments_of_spaced`
reads the parts back from a text in which they are set apart by blanks, and `splitReference?_token`
says that of all tokens only an identifier can hold a reference that runs into a hyphen.
-/

namespace ViewLayout

open Shorthand Text

/-- These are the keys of relations. -/
theorem Relation.mem_keys_of_isSome {key : String} (known : (ofKey? key).isSome = true) :
    key ∈ ["==", ">=", "<=", "equal", "gte", "lte"] := by
  unfold ofKey? at known
  split at known
  all_goals first | contradiction | simp

/-- A modifier with a value is no relation, unless the value completes a sign. -/
theorem Relation.ofKey?_cons_eq_none {mark : Char} {value : List Char}
    (symbolic : mark ∉ ['e', 'g', 'l'])
    (incomplete : mark ∈ ['=', '<', '>'] → value.head? ≠ some '=') :
    ofKey? (String.ofList (mark :: value)) = none := by
  cases found : ofKey? (String.ofList (mark :: value)) with
  | none => rfl
  | some relation =>
    have member := mem_keys_of_isSome (Option.isSome_of_eq_some found)
    simp only [List.mem_cons, List.not_mem_nil, or_false, ← String.toList_inj,
      String.toList_ofList] at member
    rcases member with same | same | same | same | same | same
    all_goals
      obtain ⟨rfl, rfl⟩ := List.cons_eq_cons.1 same
      first
      | exact absurd rfl (incomplete (by decide))
      | exact absurd (by decide) symbolic

/-- A token that is no relation gives its modifier a value. -/
theorem Shorthand.ofToken?_cons {mark : Char} {value : List Char} (plain : mark ≠ standInMark)
    (unrelated : Relation.ofKey? (String.ofList (mark :: value)) = none) :
    Argument.ofToken? (mark :: value) =
      some (.modifier (String.ofList [mark]) (String.ofList value)) := by
  have first : splitFirst? (mark :: value) = some ([mark], value) := by
    cases value with
    | nil => rfl
    | cons c others => simp only [splitFirst?, plain, ↓reduceIte]
  simp only [Argument.ofToken?, first, Option.map_some, unrelated, Option.isSome_none,
    Bool.false_eq_true, ↓reduceIte]

/-- A word is taken whole. -/
theorem Shorthand.Tail.takes_word {text : List Char} (wordly : ∀ c ∈ text, isWordChar c = true) :
    Tail.word.takes text = true := by
  induction text with
  | nil => rfl
  | cons c rest inner =>
    simp only [Tail.takes, Tail.after?, wordly c List.mem_cons_self, ↓reduceIte]
    exact inner fun d member => wordly d (List.mem_cons_of_mem c member)

/-- A word that does not complete a sign is taken on whole. -/
theorem Shorthand.Tail.takes_relation {text : List Char}
    (wordly : ∀ c ∈ text, isWordChar c = true) (incomplete : text.head? ≠ some '=') :
    Tail.relation.takes text = true := by
  cases text with
  | nil => rfl
  | cons c rest =>
    have other : c ≠ '=' := fun same => incomplete (congrArg some same)
    have later := Tail.takes_word fun d member => wordly d (List.mem_cons_of_mem c member)
    simpa only [Tail.takes, Tail.after?, other, wordly c List.mem_cons_self, ↓reduceIte,
      beq_iff_eq] using later

/-- An identifier is taken whole, whatever stands in it but blanks. -/
theorem Shorthand.Tail.takes_identifier {text : List Char}
    (dark : ∀ c ∈ text, isBlank c = false) : Tail.identifier.takes text = true := by
  induction text with
  | nil => rfl
  | cons c rest inner =>
    simp only [Tail.takes, Tail.after?, dark c List.mem_cons_self, Bool.false_eq_true, ↓reduceIte]
    exact inner fun d member => dark d (List.mem_cons_of_mem c member)

/-- A word holds the characters of words only. -/
theorem Word.wordly (word : Word) : ∀ c ∈ word.text.toList, isWordChar c = true := by
  have whole := word.isWord_text
  simp only [isWord, Bool.and_eq_true, List.all_eq_true] at whole
  exact whole.2

/-- A word holds no reference that runs on. -/
theorem Shorthand.splitReference?_of_wordly {text : List Char}
    (wordly : ∀ c ∈ text, isWordChar c = true) : splitReference? text = none := by
  induction text with
  | nil => rfl
  | cons c rest inner =>
    have other : c ≠ '@' := by
      rintro rfl
      have continues : isWordChar '@' = true := wordly '@' List.mem_cons_self
      contradiction
    simp only [splitReference?, other, ↓reduceIte]
    exact inner fun d member => wordly d (List.mem_cons_of_mem c member)

/-- No reference runs into a hyphen in a word after a modifier. -/
theorem Shorthand.splitReference?_cons_of_wordly (mark : Char) {text : List Char}
    (wordly : ∀ c ∈ text, isWordChar c = true) : splitReference? (mark :: text) = none := by
  have ended : text.dropWhile isWordChar = [] := by
    rw [← List.append_nil text, List.dropWhile_append_of_pos wordly]
    rfl
  have whole : splitAt? text = none := by
    simp only [splitAt?, ended]
    split <;> simp_all
  rw [splitReference?, whole, splitReference?_of_wordly wordly]
  split <;> rfl

/-- A character and the tail that it takes are a token. -/
theorem Shorthand.isToken_cons {c : Char} {rest : List Char} (dark : isBlank c = false)
    (taken : (Tail.ofFirst c).takes rest = true) : isToken (c :: rest) = true := by
  simp only [isToken, dark, taken, Bool.not_false, Bool.and_self]

/-- A part is one token. -/
theorem Part.isToken_token (part : Part) : isToken part.token = true := by
  cases part with
  | word slot given =>
    have taken := Tail.takes_word given.wordly
    cases slot <;> exact isToken_cons (by decide) taken
  | identifier label => exact isToken_cons (by decide) (Tail.takes_identifier label.dark)
  | relation key =>
    have member := Relation.mem_keys_of_isSome key.known
    simp only [List.mem_cons, List.not_mem_nil, or_false] at member
    rcases member with same | same | same | same | same | same
    all_goals
      simp only [Part.token, same]
      decide
  | constant sign amount =>
    have word := Tail.takes_word amount.wordly
    have relation := Tail.takes_relation amount.wordly amount.head_ne
    cases sign with
    | positive => exact isToken_cons (by decide) word
    | negative => exact isToken_cons (by decide) word
    | inset => exact isToken_cons (by decide) relation
    | offset => exact isToken_cons (by decide) relation
  | multiplier sign amount =>
    have taken := Tail.takes_word amount.wordly
    cases sign <;> exact isToken_cons (by decide) taken

namespace Part

/-- What the token of a part says. -/
def argument : Part → Argument
  | word slot given => .modifier slot.mark.toString given.text
  | identifier label => .modifier "#" label.text
  | relation key => .relation key.text
  | constant sign amount => .modifier sign.mark.toString amount.text
  | multiplier sign amount => .modifier sign.mark.toString amount.text

/-- The token of a part says the part. -/
theorem ofToken?_token (part : Part) : Argument.ofToken? part.token = some part.argument := by
  have plainWord {mark : Char} {text : String} (plain : mark ≠ standInMark)
      (symbolic : mark ∉ ['e', 'g', 'l']) (single : mark ∉ ['=', '<', '>']) :
      Argument.ofToken? (mark :: text.toList) = some (.modifier mark.toString text) := by
    have unrelated : Relation.ofKey? (String.ofList (mark :: text.toList)) = none :=
      Relation.ofKey?_cons_eq_none symbolic fun member => absurd member single
    rw [ofToken?_cons plain unrelated, String.ofList_toList]
    rfl
  cases part with
  | word slot given => cases slot <;> exact plainWord (by decide) (by decide) (by decide)
  | identifier label => exact plainWord (by decide) (by decide) (by decide)
  | relation key =>
    have member := Relation.mem_keys_of_isSome key.known
    simp only [List.mem_cons, List.not_mem_nil, or_false] at member
    rcases member with same | same | same | same | same | same
    all_goals
      simp only [token, argument, same]
      decide
  | constant sign amount =>
    have unrelated : Relation.ofKey? (String.ofList (sign.mark :: amount.text.toList)) = none :=
      Relation.ofKey?_cons_eq_none (by cases sign <;> decide) fun _ => amount.head_ne
    have read := ofToken?_cons (by cases sign <;> decide) unrelated
    rw [String.ofList_toList] at read
    exact read
  | multiplier sign amount => cases sign <;> exact plainWord (by decide) (by decide) (by decide)

/-- The value that a part has for a modifier. -/
def valueFor? (mark : Char) (part : Part) : Option String :=
  match part.argument with
  | .modifier found value => if found = mark.toString then some value else none
  | .relation _ => none

/-- The marked word of a field is what its modifier gives. -/
theorem valueFor?_slot (slot : Slot) (part : Part) :
    part.valueFor? slot.mark = (part.word? slot).map Word.text := by
  cases part with
  | word other given => cases slot <;> cases other <;> rfl
  | identifier label => cases slot <;> rfl
  | relation key => rfl
  | constant sign amount => cases slot <;> cases sign <;> rfl
  | multiplier sign amount => cases slot <;> cases sign <;> rfl

/-- The identifier of a part is its value for the mark of identifiers. -/
theorem valueFor?_numberSign (part : Part) :
    part.valueFor? '#' = part.identifier?.map Label.text := by
  cases part with
  | word slot given => cases slot <;> rfl
  | identifier label => rfl
  | relation key => rfl
  | constant sign amount => cases sign <;> rfl
  | multiplier sign amount => cases sign <;> rfl

/-- The constant of a part is the value for the mark of its sign. -/
theorem findSome?_constantMarks (part : Part) :
    (constantMarks.findSome? fun mark => (part.valueFor? mark.1).map fun value => (mark.2, value)) =
      part.constant?.map fun constant => (constant.1, constant.2.text) := by
  cases part with
  | word slot given => cases slot <;> rfl
  | identifier label => rfl
  | relation key => rfl
  | constant sign amount => cases sign <;> rfl
  | multiplier sign amount => cases sign <;> rfl

/-- The multiplier of a part is the value for the mark of its sign. -/
theorem findSome?_multiplierMarks (part : Part) :
    (multiplierMarks.findSome? fun mark =>
        (part.valueFor? mark.1).map fun value => (mark.2, value)) =
      part.multiplier?.map fun multiplier => (multiplier.1, multiplier.2.text) := by
  cases part with
  | word slot given => cases slot <;> rfl
  | identifier label => rfl
  | relation key => rfl
  | constant sign amount => cases sign <;> rfl
  | multiplier sign amount => cases sign <;> rfl

/-- Only an identifier can hold a reference that runs into a hyphen. -/
theorem splitReference?_token (part : Part) :
    splitReference? part.token =
      part.identifier? >>= fun label => splitReference? label.text.toList := by
  cases part with
  | word slot given => exact splitReference?_cons_of_wordly slot.mark given.wordly
  | identifier label => rfl
  | relation key =>
    have member := Relation.mem_keys_of_isSome key.known
    simp only [List.mem_cons, List.not_mem_nil, or_false] at member
    rcases member with same | same | same | same | same | same
    all_goals
      simp only [token, identifier?, same]
      rfl
  | constant sign amount => exact splitReference?_cons_of_wordly sign.mark amount.wordly
  | multiplier sign amount => exact splitReference?_cons_of_wordly sign.mark amount.wordly

end Part

/-- **Parts that are set apart by blanks are read back one by one.** -/
theorem arguments_of_spaced {order : List Part} {rhs : String}
    (spaced : Spaced (order.map Part.token) rhs.toList) :
    arguments rhs = order.map Part.argument := by
  have read : tokens rhs.toList = order.map Part.token := by
    apply tokens_of_spaced spaced
    intro word member
    obtain ⟨part, _, rfl⟩ := List.mem_map.1 member
    exact part.isToken_token
  rw [arguments, read, List.filterMap_map, ← List.filterMap_eq_map]
  exact congrArg (List.filterMap · order) (funext Part.ofToken?_token)

end ViewLayout
