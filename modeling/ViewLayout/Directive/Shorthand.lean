import ViewLayout.Directive.Reading
import ViewLayout.Text.Blank
import ViewLayout.Text.Surrogate

/-!
# Shorthand directives

A shorthand payload packs the fields of a directive into tokens: `@header.bottom +8 hc`. A token
starts at a blank or at a symbol, so that `@super<20*2` has three; an identifier after `#` runs to
the next blank. The first token of a modifier counts, and of constants and multipliers the first
modifier in a fixed order. `flatten_tokens` says that only blanks are lost between tokens.
-/

namespace ViewLayout.Shorthand

open Text

/-- Whether the character starts a token wherever it stands outside an identifier. -/
def isSymbol (c : Char) : Bool :=
  ['@', '+', '-', '<', '>', '*', '/'].contains c

/-- Whether the character continues a word: it is no blank and starts no token. -/
def isWordChar (c : Char) : Bool :=
  !isBlank c && !isSymbol c && c != '#'

/-- What a token takes on. -/
inductive Tail
  /-- Nothing: the token is complete. -/
  | nothing
  /-- An equals sign, which completes a relation, or a word. -/
  | relation
  /-- A word. -/
  | word
  /-- Everything up to the next blank. -/
  | identifier
deriving DecidableEq

/-- What a token takes on after its first character. -/
def Tail.ofFirst (c : Char) : Tail :=
  if c == '#' then identifier
  else if c == '<' || c == '>' || c == '=' then relation
  else word

/-- What a token takes on after one more character, if it takes that one. -/
def Tail.after? (tail : Tail) (c : Char) : Option Tail :=
  match tail with
  | nothing => none
  | relation => if c == '=' then some nothing else if isWordChar c then some word else none
  | word => if isWordChar c then some word else none
  | identifier => if isBlank c then none else some identifier

/-- The characters at the start of a text that a token takes on, and the tokens after them. -/
def split (tail : Tail) : List Char → List Char × List (List Char)
  | [] => ([], [])
  | c :: rest =>
    match tail.after? c with
    | some next =>
      let (more, others) := split next rest
      (c :: more, others)
    | none =>
      if isBlank c then ([], (split .nothing rest).2)
      else
        let (more, others) := split (.ofFirst c) rest
        ([], (c :: more) :: others)

/-- The tokens of a payload. -/
def tokens (rhs : List Char) : List (List Char) :=
  (split .nothing rhs).2

/-- What a token says: a relation, or a value for the modifier that the token starts with. -/
inductive Argument
  | relation (key : String)
  | modifier (mark value : String)
deriving DecidableEq

/-- What a token says, if it can be taken apart. -/
def Argument.ofToken? (token : List Char) : Option Argument :=
  (splitFirst? token).map fun (mark, value) =>
    let key := String.ofList token
    if (Relation.ofKey? key).isSome then relation key
    else modifier (String.ofList mark) (String.ofList value)

/-- What the tokens of a payload say, in their order. -/
def arguments (rhs : String) : List Argument :=
  (tokens rhs.toList).filterMap Argument.ofToken?

/-- The value of the first token with a modifier. -/
def valueFor? (mark : Char) (rhs : String) : Option String :=
  (arguments rhs).findSome? fun argument =>
    match argument with
    | .modifier found value => if found = mark.toString then some value else none
    | .relation _ => none

/-- The first relation among the tokens. -/
def relationKey? (rhs : String) : Option String :=
  (arguments rhs).findSome? fun argument =>
    match argument with
    | .relation key => some key
    | .modifier _ _ => none

/-- The modifiers of constants, in the order in which they are looked for. -/
def constantMarks : List (Char × ConstantSign) :=
  [('+', .positive), ('-', .negative), ('<', .inset), ('>', .offset)]

/-- The modifiers of multipliers, in the order in which they are looked for. -/
def multiplierMarks : List (Char × MultiplierSign) :=
  [('*', .multiply), ('/', .divide)]

/-- The sign and the value of the first modifier that has a token. -/
def signedValue? {σ : Type} (marks : List (Char × σ)) (rhs : String) : Option (σ × String) :=
  marks.findSome? fun mark => (valueFor? mark.1 rhs).map fun value => (mark.2, value)

/-- The view that is referred to, with the name of an attribute. -/
def viewReference? (rhs : String) : Option (String × Option String) :=
  valueFor? '@' rhs >>= Reading.viewReference?

/-- Whether the character is an ASCII letter or an underscore. -/
def startsWord (c : Char) : Bool :=
  ('A' ≤ c && c ≤ 'Z') || ('a' ≤ c && c ≤ 'z') || c == '_'

/-- Whether the character can stand in what follows a hyphen after a reference. -/
def isSplitChar (c : Char) : Bool :=
  !isBlank c && !(['@', '+', '<', '>', '*', '/', '#'].contains c)

/-- The reference at the start of a text that runs into a hyphen and a letter, and what follows. -/
def splitAt? (text : List Char) : Option (String × String) :=
  let reference := text.takeWhile isWordChar
  match reference.isEmpty, text.dropWhile isWordChar with
  | false, '-' :: c :: rest =>
    if startsWord c then
      some (String.ofList reference, String.ofList ('-' :: c :: rest.takeWhile isSplitChar))
    else none
  | _, _ => none

/-- The first reference of a text that runs into a hyphen and a letter, which may be meant as part
of its name. -/
def splitReference? : List Char → Option (String × String)
  | [] => none
  | c :: rest => if c = '@' then (splitAt? rest).or (splitReference? rest) else splitReference? rest

/-- The view that is referred to. A name that is cut off at a hyphen is reported. -/
def reference (rhs : String) : Reported (Option String) :=
  match viewReference? rhs with
  | none => .clean none
  | some (name, _) =>
    match splitReference? rhs.toList with
    | none => .clean (some name)
    | some (head, rest) => .withReport (some name) (.splitReference head rest)

/-- The constant, from the first of its modifiers that has a token. -/
def constant (rhs : String) : Reported (Option SignedConstant) :=
  match signedValue? constantMarks rhs with
  | none => .clean none
  | some (sign, raw) => do
    let number ← Reading.numberOfText "constant" raw
    return number.map (⟨·, sign⟩)

/-- The multiplier, from the first of its modifiers that has a token, unless it divides by zero. -/
def multiplier (rhs : String) : Reported (Option SignedMultiplier) :=
  match signedValue? multiplierMarks rhs with
  | none => .clean none
  | some (sign, raw) => do
    let number ← Reading.numberOfText "multiplier" raw
    Reading.checkMultiplier number sign

/-- The priority, if it is in range. -/
def priority (rhs : String) : Reported (Option Binary64) :=
  match valueFor? 'p' rhs with
  | none => .clean none
  | some raw => do
    let number ← Reading.numberOfText "priority" raw
    Reading.checkPriority number

/-- **What a shorthand directive says about a field.** -/
def read (lhs rhs : String) : (field : Field) → Reported (Option field.Content)
  | .leftAttributes => .clean (some (Reading.attributes lhs))
  | .rightAttribute =>
    .clean (viewReference? rhs >>= fun reference => reference.2 >>= Attribute.ofKey?)
  | .relation => .clean (relationKey? rhs >>= Relation.ofKey?)
  | .constant => constant rhs
  | .multiplier => multiplier rhs
  | .priority => priority rhs
  | .reference => reference rhs
  | .identifier => .clean ((valueFor? '#' rhs).filter (· != ""))
  | .horizontalSizeClass => .clean (valueFor? 'h' rhs >>= SizeClass.ofKey?)
  | .verticalSizeClass => .clean (valueFor? 'v' rhs >>= SizeClass.ofKey?)

/-- No token goes on with a blank. -/
theorem not_isBlank_of_after? {tail next : Tail} {c : Char} (taken : tail.after? c = some next) :
    isBlank c = false := by
  have ofWord (wordly : isWordChar c = true) : isBlank c = false := by
    simp only [isWordChar, Bool.and_eq_true, Bool.not_eq_true'] at wordly
    exact wordly.1.1
  cases tail with
  | nothing => simp [Tail.after?] at taken
  | relation =>
    simp only [Tail.after?] at taken
    split at taken
    · next sign =>
      obtain rfl : c = '=' := by simpa using sign
      rfl
    · split at taken
      · next wordly => exact ofWord wordly
      · simp at taken
  | word =>
    simp only [Tail.after?] at taken
    split at taken
    · next wordly => exact ofWord wordly
    · simp at taken
  | identifier =>
    simp only [Tail.after?] at taken
    split at taken
    · simp at taken
    · next dark => simpa using dark

/-- Outside a token nothing is in front of the first one. -/
theorem fst_split_nothing (text : List Char) : (split .nothing text).1 = [] := by
  cases text with
  | nil => rfl
  | cons c rest =>
    simp only [split, Tail.after?]
    split <;> rfl

/-- What a token takes on and the tokens after it join to the text without its blanks. -/
theorem split_flatten (tail : Tail) (text : List Char) :
    (split tail text).1 ++ (split tail text).2.flatten = text.filter (!isBlank ·) := by
  induction text generalizing tail with
  | nil => rfl
  | cons c rest inner =>
    simp only [split]
    split
    · next next taken =>
      simp [not_isBlank_of_after? taken, inner next]
    · split
      · next blank =>
        have others := inner .nothing
        rw [fst_split_nothing] at others
        simpa [blank] using others
      · next dark => simp [dark, inner (.ofFirst c)]

/-- **The tokens of a payload join to the payload without its blanks.** -/
theorem flatten_tokens (rhs : List Char) : (tokens rhs).flatten = rhs.filter (!isBlank ·) := by
  have joined := split_flatten .nothing rhs
  rwa [fst_split_nothing, List.nil_append] at joined

end ViewLayout.Shorthand
