import ViewLayout.Proofs.Directive.Multipliers
import ViewLayout.Proofs.Directive.Precedence
import ViewLayout.Proofs.Directive.Scanning
import ViewLayout.Proofs.Document.Mending

/-!
# Leaving out multipliers

A multiplier is left out of a short payload with all its tokens, and of a mapping with its field.
`Shorthand.Struck` takes tokens out of a text, where they stand, and `Struck.arguments_eq` says that
those that stay are read as before. `Directive.answer_of_leavesOut` is that a directive then answers
for all other fields as before.
-/

namespace ViewLayout

namespace Shorthand

/-- Whether a token is one of a multiplier. -/
def isMultiplierToken : List Char → Bool
  | '*' :: _ => true
  | '/' :: _ => true
  | _ => false

/-- The tokens of multipliers are taken out of a text in which tokens are laid out, and nothing
else is. -/
inductive Struck : List (List Char) → List Char → List Char → Prop
  | blanks {gap : List Char} (blank : ∀ c ∈ gap, Text.isBlank c = true) : Struck [] gap gap
  | kept {gap token rest left : List Char} {words : List (List Char)}
    (blank : ∀ c ∈ gap, Text.isBlank c = true) (whole : isToken token = true)
    (ends : EndsBefore token rest) (stays : isMultiplierToken token = false)
    (later : Struck words rest left) :
    Struck (token :: words) (gap ++ (token ++ rest)) (gap ++ (token ++ left))
  | dropped {gap token rest left : List Char} {words : List (List Char)}
    (blank : ∀ c ∈ gap, Text.isBlank c = true) (whole : isToken token = true)
    (ends : EndsBefore token rest) (goes : isMultiplierToken token = true)
    (later : Struck words rest left) :
    Struck (token :: words) (gap ++ (token ++ rest)) (gap ++ left)

section Striking

variable {words : List (List Char)} {text left token rest : List Char}

/-- The multipliers can be struck from any text. -/
theorem exists_struck (laid : Laid words text) : ∃ left, Struck words text left := by
  induction laid with
  | blanks blank => exact ⟨_, .blanks blank⟩
  | @token gap token rest words blank whole ends later inner =>
    obtain ⟨left, struck⟩ := inner
    cases goes : isMultiplierToken token with
    | false => exact ⟨_, .kept blank whole ends goes struck⟩
    | true => exact ⟨_, .dropped blank whole ends goes struck⟩

/-- A multiplier ends before a character that no word goes on with. -/
theorem not_wordly_of_goes (whole : isToken token = true) (ends : EndsBefore token rest)
    (goes : isMultiplierToken token = true) : ∀ c ∈ rest.head?, isWordChar c = false := by
  intro c member
  rw [← Bool.not_eq_true]
  intro wordly
  have longer : isToken (token ++ [c]) = true := by
    unfold isMultiplierToken at goes
    split at goes
    case h_3 => cases goes
    all_goals
      have inside := wordly_of_isToken whole (by decide)
      refine isToken_cons (by decide) (Tail.takes_word fun d given => ?_)
      rcases List.mem_append.1 given with given | given
      · exact inside d given
      · exact List.mem_singleton.1 given ▸ wordly
  rw [ends c member] at longer
  cases longer

/-- What is left of a text starts as the text does, or after a multiplier that was taken out. -/
theorem Struck.head? (struck : Struck words text left) :
    ∀ c ∈ left.head?, c ∈ text.head? ∨
      isWordChar c = false ∧ ∃ mark ∈ text.head?, Text.isBlank mark = false := by
  induction struck with
  | blanks blank => exact fun c member => .inl member
  | @kept gap token rest left words blank whole ends stays later inner =>
    intro c member
    refine .inl ?_
    cases gap with
    | cons first others => exact member
    | nil =>
      cases token with
      | cons first others => exact member
      | nil => cases whole
  | @dropped gap token rest left words blank whole ends goes later inner =>
    intro c member
    cases gap with
    | cons first others => exact .inl member
    | nil =>
      cases token with
      | nil => cases whole
      | cons mark others =>
        refine .inr ⟨?_, mark, rfl, dark_of_isToken whole mark List.mem_cons_self⟩
        rcases inner c member with same | ⟨wordless, _⟩
        · exact not_wordly_of_goes whole ends goes c same
        · exact wordless

/-- A token ends before what is left as before what was there. -/
theorem Struck.endsBefore (struck : Struck words rest left) (whole : isToken token = true)
    (ends : EndsBefore token rest) : EndsBefore token left := by
  intro c member
  rcases struck.head? c member with same | ⟨wordless, mark, first, dark⟩
  · exact ends c same
  · rw [← Bool.not_eq_true]
    intro longer
    cases token with
    | nil => cases whole
    | cons symbol label =>
      by_cases named : symbol = '#'
      · -- an identifier would have run on into the multiplier
        subst named
        rw [apart_of_endsBefore whole ends mark first] at dark
        cases dark
      · have wordly := wordly_of_isToken longer named c
          (List.mem_append_right _ List.mem_cons_self)
        rw [wordless] at wordly
        cases wordly

/-- The tokens of what is left are the others. -/
theorem Struck.laid (struck : Struck words text left) :
    Laid (words.filter (!isMultiplierToken ·)) left := by
  induction struck with
  | blanks blank => exact .blanks blank
  | kept blank whole ends stays later inner =>
    rw [List.filter_cons_of_pos (by simp [stays])]
    exact .token blank whole (later.endsBefore whole ends) inner
  | dropped blank whole ends goes later inner =>
    rw [List.filter_cons_of_neg (by simp [goes])]
    exact tokens_eq_iff.1 ((tokens_append_of_blank blank _).trans (tokens_eq_iff.2 inner))

end Striking

/-- The arguments that are no multipliers. -/
def withoutMultipliers (given : List Argument) : List Argument :=
  given.filter fun argument => argument.mark? ∉ Field.multiplier.ranks

/-- The arguments of multipliers are those of the tokens. -/
theorem isMultiplierToken_iff {token : List Char} {argument : Argument}
    (read : Argument.ofToken? token = some argument) :
    isMultiplierToken token = true ↔ argument.mark? ∈ Field.multiplier.ranks := by
  constructor
  · intro goes
    unfold isMultiplierToken at goes
    split at goes
    case h_3 => cases goes
    all_goals
      rw [ofToken?_cons (by decide) (Relation.ofKey?_cons_eq_none (by decide)
        fun sign => absurd sign (by decide))] at read
      cases read
      change some _ ∈ Field.multiplier.ranks
      decide
  · intro marked
    obtain ⟨⟨mark, value⟩, parts, rfl⟩ := Option.map_eq_some_iff.1 read
    have joined := append_of_splitFirst? parts
    dsimp only at marked
    split at marked
    · have unmarked : none ∉ Field.multiplier.ranks := by decide
      exact absurd marked unmarked
    · have given : String.ofList mark = "*" ∨ String.ofList mark = "/" := by
        simpa [Argument.mark?, Field.ranks, multiplierMarks] using marked
      rcases given with same | same
      all_goals
        have mark_eq := congrArg String.toList same
        rw [String.toList_ofList] at mark_eq
        rw [← joined, mark_eq]
        rfl

/-- What is left of a payload without its multipliers says what the other tokens say. -/
theorem Struck.arguments_eq {rhs other : String}
    (struck : Struck (tokens rhs.toList) rhs.toList other.toList) :
    arguments other = withoutMultipliers (arguments rhs) := by
  rw [withoutMultipliers, arguments, arguments, tokens_eq_iff.2 struck.laid, List.filterMap_filter,
    List.filter_filterMap]
  refine List.filterMap_congr fun token member => ?_
  cases read : Argument.ofToken? token with
  | none => simp
  | some argument =>
    have same := isMultiplierToken_iff read
    by_cases marked : argument.mark? ∈ Field.multiplier.ranks
    · simp [same.2 marked, Option.filter, marked]
    · simp [Bool.eq_false_iff.2 fun goes => marked (same.1 goes), Option.filter, marked]

/-- A field that is no multiplier is read from the same argument as before. -/
theorem winner?_withoutMultipliers (given : List Argument) {field : Field}
    (others : field ≠ .multiplier) :
    winner? field (withoutMultipliers given) = winner? field given := by
  refine findSome?_congr_of_mem fun mark member => ?_
  have plain : mark ∉ Field.multiplier.ranks := fun shared =>
    others (Field.eq_of_mem_ranks (by decide) shared member)
  rw [withoutMultipliers, List.find?_filter]
  refine congrArg (List.find? · given) (funext fun argument => ?_)
  by_cases own : argument.mark? = mark
  · simp [own, plain]
  · simp [own]

/-- What holds no multiplier gives none. -/
theorem winner?_multiplier_withoutMultipliers (given : List Argument) :
    winner? .multiplier (withoutMultipliers given) = none := by
  refine List.findSome?_eq_none_iff.2 fun mark member => ?_
  rw [List.find?_eq_none]
  intro argument stays own
  have kept := (List.mem_filter.1 stays).2
  simp only [decide_eq_true_eq] at own kept
  exact kept (own ▸ member)

end Shorthand

/-- A field of a mapping from which another one was taken is as before. -/
theorem Verbose.field?_without {fields : Verbose.Fields} {name : String}
    (others : name ≠ "multiplier") :
    field? (Description.without (.text "multiplier") fields) name = field? fields name := by
  have same : Value.lookup? (Description.without (.text "multiplier") fields) name =
      Value.lookup? fields name := by
    rw [Description.lookup?_without, if_neg]
    exact fun own => others (Option.some.inj own).symm
  rw [field?, field?, Value.lookupD, Value.lookupD, same]

/-- Fields without the key of the multiplier give none. -/
theorem Verbose.field?_without_multiplier (fields : Verbose.Fields) :
    field? (Description.without (.text "multiplier") fields) "multiplier" = none := by
  have gone : Value.lookup? (Description.without (.text "multiplier") fields) "multiplier" =
      none := by
    rw [Description.lookup?_without]
    exact if_pos rfl
  rw [field?, Value.lookupD, gone]
  rfl

/-- A payload without its multipliers: a text with the other tokens only, or a mapping without
the field. -/
inductive Payload.LeavesOut : Payload → Payload → Prop
  | shorthand {rhs other : String}
    (left : Shorthand.arguments other =
      Shorthand.withoutMultipliers (Shorthand.arguments rhs)) :
    LeavesOut (.shorthand rhs) (.shorthand other)
  | verbose (fields : List (Value × Value)) :
    LeavesOut (.verbose fields) (.verbose (Description.without (.text "multiplier") fields))

/-- Multipliers can be left out of every payload: their tokens are taken out of a text where
they stand. -/
theorem Payload.exists_leavesOut (payload : Payload) : ∃ other, payload.LeavesOut other := by
  cases payload with
  | verbose fields => exact ⟨_, .verbose fields⟩
  | shorthand rhs =>
    obtain ⟨left, struck⟩ := Shorthand.exists_struck (Shorthand.laid_tokens rhs.toList)
    have spelled : (String.ofList left).toList = left := String.toList_ofList
    exact ⟨_, .shorthand (Shorthand.Struck.arguments_eq (spelled.symm ▸ struck))⟩

section LeftOut

variable {payload other : Payload}

/-- The other numbers stay. -/
theorem NumberField.given?_of_leavesOut (leaves : payload.LeavesOut other)
    {numberField : NumberField} (others : numberField ≠ .multiplier) :
    numberField.given? other = numberField.given? payload := by
  cases leaves with
  | @shorthand rhs other left =>
    have apart : numberField.field ≠ .multiplier := by
      cases numberField <;> first | contradiction | decide
    rw [Shorthand.given?_eq, Shorthand.given?_eq, left,
      Shorthand.winner?_withoutMultipliers _ apart]
  | verbose fields =>
    cases numberField with
    | multiplier => contradiction
    | constant =>
      simp (disch := decide) only [given?, Verbose.signedParts?, Verbose.field?_without]
    | priority => exact Verbose.field?_without (by decide)

/-- The multiplier is gone. -/
theorem NumberField.given?_multiplier_of_leavesOut (leaves : payload.LeavesOut other) :
    given? .multiplier other = none := by
  cases leaves with
  | @shorthand rhs other left =>
    rw [Shorthand.given?_eq, left]
    exact congrArg (Option.map _) (Shorthand.winner?_multiplier_withoutMultipliers _)
  | verbose fields =>
    simp only [given?, Verbose.signedParts?, Verbose.field?_without_multiplier, Option.map_none]

namespace Directive

variable {directive : Directive}

/-- **A directive without its multipliers answers for all other fields as before.** -/
theorem answer_of_leavesOut (leaves : directive.payload.LeavesOut other) {field : Field}
    (others : field ≠ .multiplier) :
    { directive with payload := other }.answer field = directive.answer field := by
  obtain ⟨lhs, payload, sink⟩ := directive
  cases leaves with
  | @shorthand rhs other left =>
    have same : (Shorthand.read lhs other field).value = (Shorthand.read lhs rhs field).value := by
      rw [Shorthand.value_read, Shorthand.value_read, left,
        Shorthand.winner?_withoutMultipliers _ others]
    exact congrArg field.answer same
  | verbose fields =>
    have same : Verbose.read lhs (Description.without (.text "multiplier") fields) field =
        Verbose.read lhs fields field := by
      cases field <;> first | contradiction | skip
      all_goals
        simp (disch := decide) only [Verbose.read, Verbose.constant, Verbose.signedNumber,
          Verbose.signedParts?, Verbose.priority, Verbose.rightAttribute?, Verbose.viewReference?,
          Verbose.text?, Verbose.field?_without]
    simp only [answer, read, same]

/-- Its multiplier is 1. -/
theorem answer_multiplier_of_leavesOut (leaves : directive.payload.LeavesOut other) :
    { directive with payload := other }.answer .multiplier = .standard := by
  rw [answer_multiplier, Payload.multiplier?, NumberField.given?_multiplier_of_leavesOut leaves]
  rfl

end Directive

end LeftOut

end ViewLayout
