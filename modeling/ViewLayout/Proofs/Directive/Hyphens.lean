import ViewLayout.Proofs.Directive.Precedence
import ViewLayout.Proofs.Directive.Scanning

/-!
# References that run into a hyphen

A view whose name has a hyphen cannot be referred to: the name is cut off there, and the rest is
taken for a constant. `Hyphenation` says which warning a payload with such a reference gets. It is
meant for the reference in use and given for the first place that looks like one, so that it is
right where no other place does. Another reference can look like one, and so can the text of an
identifier, as `reference_in_identifier` shows.
-/

namespace ViewLayout.Shorthand

open Text

/-- A token in a text, with all that stands after it. -/
structure Site where
  token : List Char
  rest : List Char
deriving DecidableEq

/-- Where words stand in a text that consists of them. -/
def places : List (List Char) → List Char → List Site
  | [], _ => []
  | token :: words, text =>
    let rest := (text.dropWhile isBlank).drop token.length
    ⟨token, rest⟩ :: places words rest

/-- Where the tokens of a text stand in it. -/
def sites (text : List Char) : List Site :=
  places (tokens text) text

/-- Whether a text goes on with a hyphen and a letter. -/
def hyphenates : List Char → Bool
  | '-' :: c :: _ => startsWord c
  | _ => false

namespace Site

/-- The text of a reference. -/
def reference? (site : Site) : Option (List Char) :=
  match site.token with
  | '@' :: name => some name
  | _ => none

/-- Whether a token with a hyphen and a letter at its start follows at once. -/
def isFollowed (site : Site) (later : List Site) : Bool :=
  match later with
  | next :: _ => site.rest == next.token ++ next.rest && hyphenates next.token
  | [] => false

/-- What looks like a reference that runs into a hyphen: such a reference, or one in the text of an
identifier. -/
def split? (site : Site) : Option (String × String) :=
  match site.token with
  | '@' :: name =>
    if !name.isEmpty && hyphenates site.rest then
      some (String.ofList name, String.ofList (site.rest.takeWhile isSplitChar))
    else none
  | '#' :: label => splitReference? label
  | _ => none

end Site

/-- The places before the first reference. -/
def sitesBefore (text : List Char) : List Site :=
  (sites text).takeWhile (·.reference?.isNone)

/-- The place of the first reference, and those after it. -/
def sitesFrom (text : List Char) : List Site :=
  (sites text).dropWhile (·.reference?.isNone)

/-- Whether the reference in use runs into a hyphen: a token with a hyphen and a letter follows
at once. -/
def isHyphenated (text : List Char) : Bool :=
  match sitesFrom text with
  | site :: later => site.isFollowed later
  | [] => false

/-- The places of all tokens but the reference in use. -/
def otherSites (text : List Char) : List Site :=
  sitesBefore text ++ (sitesFrom text).tail

/-- A text starts with a name that runs into a hyphen and a letter. -/
def StartsSplit (text : List Char) : Prop :=
  ∃ name rest, text = name ++ rest ∧ name ≠ [] ∧ (∀ c ∈ name, isWordChar c = true) ∧
    hyphenates rest = true

/-- A text holds a reference that runs into a hyphen and a letter. -/
def HoldsSplit (text : List Char) : Prop :=
  ∃ before rest, text = before ++ '@' :: rest ∧ StartsSplit rest

section Search

variable {text name rest : List Char}

/-- What starts a word continues one, before a hyphen and after it. -/
theorem isWordChar_of_startsWord {c : Char} (starts : startsWord c = true) :
    isWordChar c = true ∧ isSplitChar c = true := by
  have other {d : Char} (different : startsWord d = false) : c ≠ d := by
    rintro rfl
    rw [starts] at different
    contradiction
  have dark : isBlank c = false := by
    rw [← Bool.not_eq_true]
    intro blank
    rw [startsWord_of_isBlank blank] at starts
    contradiction
  have at' := other (by decide : startsWord '@' = false)
  have plus := other (by decide : startsWord '+' = false)
  have minus := other (by decide : startsWord '-' = false)
  have less := other (by decide : startsWord '<' = false)
  have greater := other (by decide : startsWord '>' = false)
  have times := other (by decide : startsWord '*' = false)
  have slash := other (by decide : startsWord '/' = false)
  have hash := other (by decide : startsWord '#' = false)
  simp [isWordChar, isSymbol, isSplitChar, *]

/-- Behind characters of words a reference is looked for in the rest. -/
theorem splitReference?_append_of_wordly (wordly : ∀ c ∈ name, isWordChar c = true)
    (rest : List Char) : splitReference? (name ++ rest) = splitReference? rest := by
  induction name with
  | nil => rfl
  | cons c others inner =>
    have other : c ≠ '@' := by
      rintro rfl
      exact absurd (wordly '@' List.mem_cons_self) (by decide)
    simp only [List.cons_append, splitReference?, other, ↓reduceIte]
    exact inner fun d member => wordly d (List.mem_cons_of_mem c member)

/-- A name that ends where a word does runs into a hyphen or not. -/
theorem splitAt?_append (wordly : ∀ c ∈ name, isWordChar c = true)
    (ends : ∀ c ∈ rest.head?, isWordChar c = false) :
    splitAt? (name ++ rest) =
      if !name.isEmpty && hyphenates rest then
        some (String.ofList name, String.ofList (rest.takeWhile isSplitChar))
      else none := by
  have stop : rest.takeWhile isWordChar = [] ∧ rest.dropWhile isWordChar = rest := by
    cases rest with
    | nil => exact ⟨rfl, rfl⟩
    | cons c others => simp [ends c rfl]
  have taken : (name ++ rest).takeWhile isWordChar = name := by
    rw [List.takeWhile_append_of_pos wordly, stop.1, List.append_nil]
  have dropped : (name ++ rest).dropWhile isWordChar = rest := by
    rw [List.dropWhile_append_of_pos wordly, stop.2]
  simp only [splitAt?, taken, dropped]
  cases name.isEmpty with
  | true => rfl
  | false =>
    rcases rest with _ | ⟨x, _ | ⟨c, others⟩⟩
    · rfl
    · by_cases hyphen : x = '-' <;> simp [hyphen, hyphenates]
    · by_cases hyphen : x = '-'
      · subst hyphen
        have sign : isSplitChar '-' = true := by decide
        cases starts : startsWord c with
        | false => simp [hyphenates, starts]
        | true => simp [hyphenates, starts, sign, (isWordChar_of_startsWord starts).2]
      · simp [hyphen, hyphenates]

/-- A hyphen that a reference may run into ends the word before it. -/
theorem not_isWordChar_of_hyphenates (split : hyphenates rest = true) :
    ∀ c ∈ rest.head?, isWordChar c = false := by
  unfold hyphenates at split
  split at split
  · rintro c ⟨⟩
    decide
  · contradiction

/-- A reference is split exactly where it runs into a hyphen and a letter. -/
theorem isSome_splitAt?_iff : (splitAt? text).isSome = true ↔ StartsSplit text := by
  constructor
  · intro found
    have wordly : ∀ c ∈ text.takeWhile isWordChar, isWordChar c = true :=
      List.all_eq_true.1 List.all_takeWhile
    have ends : ∀ c ∈ (text.dropWhile isWordChar).head?, isWordChar c = false := by
      intro c first
      have stopped := List.head?_dropWhile_not isWordChar text
      rw [Option.mem_def.1 first] at stopped
      simpa using stopped
    have whole := List.takeWhile_append_dropWhile (p := isWordChar) (l := text)
    rw [← whole, splitAt?_append wordly ends] at found
    split at found
    · next split =>
      simp only [Bool.and_eq_true, Bool.not_eq_true', List.isEmpty_eq_false_iff] at split
      exact ⟨_, _, whole.symm, split.1, wordly, split.2⟩
    · contradiction
  · rintro ⟨name, rest, rfl, filled, wordly, split⟩
    have named : name.isEmpty = false := List.isEmpty_eq_false_iff.2 filled
    rw [splitAt?_append wordly (not_isWordChar_of_hyphenates split)]
    simp only [named, split, Bool.not_false, Bool.and_self, ↓reduceIte, Option.isSome_some]

/-- A reference that runs into a hyphen is found in a text that holds one. -/
theorem isSome_splitReference?_iff :
    (splitReference? text).isSome = true ↔ HoldsSplit text := by
  induction text with
  | nil => simp [splitReference?, HoldsSplit]
  | cons c rest inner =>
    have parts : HoldsSplit (c :: rest) ↔ (c = '@' ∧ StartsSplit rest) ∨ HoldsSplit rest := by
      constructor
      · rintro ⟨_ | ⟨d, before⟩, after, same, split⟩
        · obtain ⟨rfl, rfl⟩ := List.cons_eq_cons.1 same
          exact .inl ⟨rfl, split⟩
        · obtain ⟨_, rfl⟩ := List.cons_eq_cons.1 same
          exact .inr ⟨before, after, rfl, split⟩
      · rintro (⟨rfl, split⟩ | ⟨before, after, rfl, split⟩)
        · exact ⟨[], rest, rfl, split⟩
        · exact ⟨c :: before, after, rfl, split⟩
    rw [parts, ← inner, ← isSome_splitAt?_iff, splitReference?]
    split
    · next here => simp only [here, Option.isSome_or, Bool.or_eq_true, true_and]
    · next other => simp only [other, false_and, false_or]

end Search

section Places

variable {text rest gap token : List Char} {words : List (List Char)} {site : Site}
  {before later : List Site}

/-- The places of tokens in a text, of which the first is found behind its gap. -/
theorem places_append (blank : ∀ c ∈ gap, isBlank c = true) (whole : isToken token = true)
    (rest : List Char) (words : List (List Char)) :
    places (token :: words) (gap ++ (token ++ rest)) = ⟨token, rest⟩ :: places words rest := by
  have bare : (gap ++ (token ++ rest)).dropWhile isBlank = token ++ rest := by
    rw [List.dropWhile_append_of_pos blank]
    cases token with
    | nil => contradiction
    | cons c others =>
      simp [dark_of_isToken whole c List.mem_cons_self]
  simp only [places, bare, List.drop_left]

/-- Each token has one place. -/
theorem map_token_places (words : List (List Char)) (text : List Char) :
    (places words text).map Site.token = words := by
  induction words generalizing text with
  | nil => rfl
  | cons token others inner => simp only [places, List.map_cons, inner]

/-- A place is where its token stands, and the tokens after it are laid out in what follows. -/
theorem Laid.places_cut (laid : Laid words text)
    (parted : places words text = before ++ site :: later) :
    isToken site.token = true ∧ EndsBefore site.token site.rest ∧
      (∃ front, text = front ++ (site.token ++ site.rest) ∧
        Woven (before.map Site.token) front) ∧
      ∃ others, later = places others site.rest ∧ Laid others site.rest := by
  induction laid generalizing before with
  | blanks blank => simp [places] at parted
  | @token gap token rest words blank whole ends laid inner =>
    rw [places_append blank whole] at parted
    cases before with
    | nil =>
      obtain ⟨rfl, rfl⟩ := List.cons_eq_cons.1 parted
      have woven := Woven.nothing.append_blanks blank
      rw [List.append_nil] at woven
      exact ⟨whole, ends, ⟨gap, rfl, woven⟩, words, rfl, laid⟩
    | cons first others =>
      obtain ⟨rfl, onward⟩ := List.cons_eq_cons.1 parted
      obtain ⟨whole, ends, ⟨front, same, woven⟩, follows⟩ := inner onward
      refine ⟨whole, ends, ⟨gap ++ (token ++ front), ?_, ?_⟩, follows⟩
      · simp only [same, List.append_assoc]
      · exact (Woven.word woven).append_blanks blank

/-- What follows a name is no word. -/
theorem not_isWordChar_of_endsBefore {name : List Char} (whole : isToken ('@' :: name) = true)
    (ends : EndsBefore ('@' :: name) rest) : ∀ c ∈ rest.head?, isWordChar c = false := by
  intro c member
  rw [← Bool.not_eq_true]
  intro wordly
  have word : ∀ d ∈ name ++ [c], isWordChar d = true := by
    intro d given
    rcases List.mem_append.1 given with inside | last
    · exact wordly_of_isToken whole (by decide) d inside
    · rwa [List.mem_singleton.1 last]
  have longer : isToken ('@' :: (name ++ [c])) = true :=
    isToken_cons (by decide) (Tail.takes_word word)
  exact absurd (ends c member) (by simpa using longer)

/-- A reference runs into a hyphen at the first place that looks like it, in the whole text. -/
theorem Laid.splitReference?_eq (laid : Laid words text) :
    splitReference? text = (places words text).findSome? Site.split? := by
  induction laid with
  | @blanks gap blank =>
    have only := splitReference?_append_of_blank blank []
    rwa [List.append_nil] at only
  | @token gap token rest words blank whole ends later inner =>
    rw [splitReference?_append_of_blank blank, places_append blank whole, List.findSome?_cons,
      ← inner]
    cases token with
    | nil => contradiction
    | cons c name =>
      by_cases reference : c = '@'
      · subst reference
        have wordly := wordly_of_isToken whole (by decide)
        have here : (Site.mk ('@' :: name) rest).split? = splitAt? (name ++ rest) := by
          rw [splitAt?_append wordly (not_isWordChar_of_endsBefore whole ends)]
          rfl
        rw [here, List.cons_append, splitReference?, if_pos rfl,
          splitReference?_append_of_wordly wordly]
        cases splitAt? (name ++ rest) <;> rfl
      · by_cases identifier : c = '#'
        · subst identifier
          rw [splitReference?_append_of_apart _ (apart_of_endsBefore whole ends)]
          have here : (Site.mk ('#' :: name) rest).split? = splitReference? ('#' :: name) := rfl
          rw [here]
          cases splitReference? ('#' :: name) <;> rfl
        · have none : (Site.mk (c :: name) rest).split? = none := by
            unfold Site.split?
            split
            · next same => exact absurd (List.cons_eq_cons.1 same).1 reference
            · next same => exact absurd (List.cons_eq_cons.1 same).1 identifier
            · rfl
          rw [none, List.cons_append, splitReference?, if_neg reference,
            splitReference?_append_of_wordly (wordly_of_isToken whole identifier)]

/-- Nothing runs into a hyphen across a blank. -/
theorem hyphenates_of_blank (blank : ∀ c ∈ gap, isBlank c = true) (filled : gap ≠ [])
    (text : List Char) : hyphenates (gap ++ text) = false := by
  cases gap with
  | nil => exact absurd rfl filled
  | cons c others =>
    rw [← Bool.not_eq_true]
    intro split
    unfold hyphenates at split
    split at split
    · next same =>
      obtain ⟨rfl, _⟩ := List.cons_eq_cons.1 same
      exact absurd (blank '-' List.mem_cons_self) (by decide)
    · contradiction

/-- A token that starts with a hyphen takes on the letter after it. -/
theorem hyphenates_append (whole : isToken token = true) (ends : EndsBefore token rest) :
    hyphenates (token ++ rest) = hyphenates token := by
  rcases token with _ | ⟨x, _ | ⟨c, others⟩⟩
  · contradiction
  · by_cases hyphen : x = '-'
    · subst hyphen
      cases rest with
      | nil => rfl
      | cons c after =>
        have lone : startsWord c = false := by
          rw [← Bool.not_eq_true]
          intro starts
          have word : ∀ d ∈ [c], isWordChar d = true :=
            List.forall_mem_singleton.2 (isWordChar_of_startsWord starts).1
          have longer : isToken ['-', c] = true := isToken_cons (by decide) (Tail.takes_word word)
          exact absurd (ends c rfl) (by simpa using longer)
        exact lone
    · have other (text : List Char) : hyphenates (x :: text) = false := by
        unfold hyphenates
        split
        · next same => exact absurd (List.cons_eq_cons.1 same).1 hyphen
        · rfl
      rw [other, List.cons_append, other]
  · by_cases hyphen : x = '-'
    · subst hyphen
      rfl
    · simp [hyphenates, hyphen]

/-- A token with a hyphen and a letter follows at once where the text goes on with them. -/
theorem Laid.isFollowed_eq (laid : Laid words rest) (token : List Char) :
    (Site.mk token rest).isFollowed (places words rest) = hyphenates rest := by
  cases laid with
  | blanks blank =>
    cases rest with
    | nil => rfl
    | cons c others =>
      have lost := hyphenates_of_blank blank (List.cons_ne_nil c others) []
      rw [List.append_nil] at lost
      exact lost.symm
  | @token gap next after words blank whole ends later =>
    rw [places_append blank whole]
    cases gap with
    | nil => simp [Site.isFollowed, hyphenates_append whole ends]
    | cons c others =>
      have longer : (c :: others ++ (next ++ after) == next ++ after) = false := by
        rw [← Bool.not_eq_true, beq_iff_eq]
        intro same
        have lengths := congrArg List.length same
        simp only [List.length_append, List.length_cons] at lengths
        omega
      rw [hyphenates_of_blank blank (List.cons_ne_nil c others), Site.isFollowed, longer,
        Bool.false_and]

/-- The value of a reference stands at the first place of one. -/
theorem find?_arguments (words : List (List Char)) (text : List Char) :
    ((words.filterMap Argument.ofToken?).find? (·.mark? = some '@'.toString)).map Argument.value =
      ((places words text).findSome? Site.reference?).map String.ofList := by
  induction words generalizing text with
  | nil => rfl
  | cons token words inner =>
    rw [places, List.findSome?_cons]
    rcases token with _ | ⟨c, name⟩
    · exact inner _
    · by_cases reference : c = '@'
      · subst reference
        have unrelated : Relation.ofKey? (String.ofList ('@' :: name)) = none :=
          Relation.ofKey?_cons_eq_none (by decide) fun member => absurd member (by decide)
        rw [List.filterMap_cons_some (ofToken?_cons (by decide) unrelated)]
        rfl
      · have other : ∀ argument ∈ Argument.ofToken? (c :: name),
            argument.mark? ≠ some '@'.toString := by
          intro argument said
          have token := Argument.map_token_ofToken? (List.cons_ne_nil c name)
          rw [Option.mem_def.1 said, Option.map_some, Option.some_inj] at token
          cases argument with
          | relation key => exact Option.some_ne_none _ ∘ Eq.symm
          | modifier mark value =>
            intro same
            obtain rfl : mark = '@'.toString := Option.some_inj.1 same
            exact reference (List.cons_eq_cons.1 token).1.symm
        have here (rest : List Char) : (Site.mk (c :: name) rest).reference? = none := by
          unfold Site.reference?
          split
          · next same => exact absurd (List.cons_eq_cons.1 same).1 reference
          · rfl
        rw [here, ← inner]
        cases said : Argument.ofToken? (c :: name) with
        | none => rw [List.filterMap_cons_none said]
        | some argument =>
          rw [List.filterMap_cons_some said,
            List.find?_cons_of_neg (by simpa using other argument said)]

end Places

/-- A reference is read from the first place of one. -/
theorem valueFor?_eq_findSome?_sites (rhs : String) :
    valueFor? '@' rhs = ((sites rhs.toList).findSome? Site.reference?).map String.ofList := by
  rw [valueFor?_eq, arguments, find?_arguments]
  rfl

/-- Which warning a payload gets for a reference that runs into a hyphen. -/
structure Hyphenation (lhs rhs : String) : Prop where
  /-- Each place is where its token stands. -/
  placed : (sites rhs.toList).map Site.token = tokens rhs.toList ∧
    ∀ before site later, sites rhs.toList = before ++ site :: later →
      ∃ front, rhs.toList = front ++ (site.token ++ site.rest) ∧
        Woven (before.map Site.token) front
  /-- The reference in use is the first one. -/
  used : ∀ name, (read lhs rhs .reference).value = some name →
    ∃ site later text, sitesFrom rhs.toList = site :: later ∧ site.token = '@' :: text ∧
      (Reading.viewReference? (String.ofList text)).map Prod.fst = some name
  /-- The first place that looks like a reference with a hyphen gives the warning. -/
  given : (read lhs rhs .reference).diagnostics =
    if (read lhs rhs .reference).value.isSome then
      (((sites rhs.toList).findSome? Site.split?).map fun found =>
        Diagnostic.splitReference found.1 found.2).toList
    else []
  /-- A reference looks like that if a token with a hyphen and a letter follows at once. -/
  references : ∀ before site later, sites rhs.toList = before ++ site :: later →
    ∀ text, site.token = '@' :: text → text ≠ [] →
      site.split? =
        if site.isFollowed later then
          some (String.ofList text, String.ofList (site.rest.takeWhile isSplitChar))
        else none
  /-- An identifier looks like that if its text holds a reference with a hyphen. -/
  identifiers : ∀ site ∈ sites rhs.toList, ∀ label, site.token = '#' :: label →
    (site.split?.isSome = true ↔ HoldsSplit label)
  /-- There is a warning for the reference in use and for any other place. -/
  warns : (read lhs rhs .reference).diagnostics ≠ [] ↔
    (read lhs rhs .reference).value.isSome = true ∧
      (isHyphenated rhs.toList = true ∨
        ∃ site ∈ otherSites rhs.toList, site.split?.isSome = true)
  /-- The reference in use is quoted if no place before it looks like one with a hyphen. -/
  quotes : (∀ site ∈ sitesBefore rhs.toList, site.split? = none) →
    (read lhs rhs .reference).value.isSome = true → isHyphenated rhs.toList = true →
      ∃ site later text, sitesFrom rhs.toList = site :: later ∧ site.token = '@' :: text ∧
        (read lhs rhs .reference).diagnostics =
          [.splitReference (String.ofList text) (String.ofList (site.rest.takeWhile isSplitChar))]

section Reference

variable (rhs : String)

/-- The reference in use is the one at the first place. -/
theorem exists_used {name : String} {part : Option String}
    (referred : viewReference? rhs = some (name, part)) :
    ∃ site later text, sitesFrom rhs.toList = site :: later ∧ site.token = '@' :: text ∧
      Reading.viewReference? (String.ofList text) = some (name, part) := by
  rw [viewReference?, valueFor?_eq_findSome?_sites] at referred
  obtain ⟨raw, found, reading⟩ := Option.bind_eq_some_iff.1 referred
  obtain ⟨text, first, rfl⟩ := Option.map_eq_some_iff.1 found
  obtain ⟨before, site, later, parted, here, earlier⟩ := List.findSome?_eq_some_iff.1 first
  refine ⟨site, later, text, ?_, ?_, reading⟩
  · have passed : ∀ other ∈ before, other.reference?.isNone = true := fun other member =>
      Option.isNone_iff_eq_none.2 (earlier other member)
    rw [sitesFrom, parted, List.dropWhile_append_of_pos passed, List.dropWhile_cons_of_neg]
    simp only [here, Option.isNone_some, Bool.false_eq_true, not_false_eq_true]
  · unfold Site.reference? at here
    split at here
    · next same => rw [same, Option.some_inj.1 here]
    · contradiction

/-- A reference looks like one with a hyphen if one follows at once, with a letter. -/
theorem split?_eq_of_reference {text name : List Char} {before later : List Site} {site : Site}
    (parted : sites text = before ++ site :: later) (named : site.token = '@' :: name)
    (filled : name ≠ []) :
    site.split? =
      if site.isFollowed later then
        some (String.ofList name, String.ofList (site.rest.takeWhile isSplitChar))
      else none := by
  obtain ⟨_, _, _, others, rfl, laid⟩ := (laid_tokens text).places_cut parted
  have followed : site.isFollowed (places others site.rest) = hyphenates site.rest :=
    laid.isFollowed_eq site.token
  have full : name.isEmpty = false := List.isEmpty_eq_false_iff.2 filled
  rw [followed, Site.split?, named]
  simp only [full, Bool.not_false, Bool.true_and]

/-- The sites of a text are those before its first token and those from there on. -/
theorem sites_eq {text : List Char} {site : Site} {later : List Site}
    (start : sitesFrom text = site :: later) :
    sites text = sitesBefore text ++ site :: later := by
  rw [← start]
  exact List.takeWhile_append_dropWhile.symm

/-- The reference in use looks like one with a hyphen if it runs into one. -/
theorem split?_used {site : Site} {later : List Site} {text : List Char} {name : String}
    {part : Option String} (start : sitesFrom rhs.toList = site :: later)
    (named : site.token = '@' :: text)
    (reading : Reading.viewReference? (String.ofList text) = some (name, part)) :
    site.split? =
      if isHyphenated rhs.toList then
        some (String.ofList text, String.ofList (site.rest.takeWhile isSplitChar))
      else none := by
  have filled : text ≠ [] := by
    rintro rfl
    contradiction
  rw [split?_eq_of_reference (sites_eq start) named filled, isHyphenated, start]

/-- The diagnostics of a reference are of the first split in the whole text, if there is a
reference. -/
theorem diagnostics_reference (lhs : String) :
    (read lhs rhs .reference).diagnostics =
      if (read lhs rhs .reference).value.isSome then
        (((sites rhs.toList).findSome? Site.split?).map fun found =>
          Diagnostic.splitReference found.1 found.2).toList
      else [] := by
  have found : splitReference? rhs.toList = (sites rhs.toList).findSome? Site.split? :=
    (laid_tokens rhs.toList).splitReference?_eq
  rw [← found]
  change (reference rhs).diagnostics = if (reference rhs).value.isSome then _ else []
  unfold reference
  split
  · rfl
  · split
    · next quiet =>
      rw [quiet]
      rfl
    · next split =>
      rw [split]
      rfl

/-- A reference that is read has a name. -/
theorem exists_viewReference? {lhs name : String}
    (value : (read lhs rhs .reference).value = some name) :
    ∃ part, viewReference? rhs = some (name, part) := by
  simp only [read, reference] at value
  cases referred : viewReference? rhs with
  | none =>
    rw [referred] at value
    contradiction
  | some found =>
    obtain ⟨other, part⟩ := found
    rw [referred] at value
    have same : other = name := by
      cases split : splitReference? rhs.toList <;>
      · rw [split] at value
        exact Option.some_inj.1 value
    exact ⟨part, same ▸ rfl⟩

end Reference

/-- **A reference that runs into a hyphen gets a warning**, and so does whatever looks like one. -/
theorem hyphenation (lhs rhs : String) : Hyphenation lhs rhs where
  placed := by
    refine ⟨map_token_places _ _, fun before site later parted => ?_⟩
    exact ((laid_tokens rhs.toList).places_cut parted).2.2.1
  used := by
    intro name value
    obtain ⟨part, referred⟩ := exists_viewReference? rhs value
    obtain ⟨site, later, text, start, named, reading⟩ := exists_used rhs referred
    exact ⟨site, later, text, start, named, by rw [reading]; rfl⟩
  given := diagnostics_reference rhs lhs
  references := by
    intro before site later parted text named filled
    exact split?_eq_of_reference parted named filled
  identifiers := by
    intro site member label named
    rw [Site.split?, named]
    exact isSome_splitReference?_iff
  warns := by
    rw [diagnostics_reference]
    cases value : (read lhs rhs .reference).value with
    | none => simp
    | some name =>
      obtain ⟨part, referred⟩ := exists_viewReference? rhs value
      obtain ⟨site, later, text, start, named, reading⟩ := exists_used rhs referred
      have own : site.split?.isSome = true ↔ isHyphenated rhs.toList = true := by
        rw [split?_used rhs start named reading]
        cases isHyphenated rhs.toList <;> simp
      have others : otherSites rhs.toList = sitesBefore rhs.toList ++ later := by
        rw [otherSites, start, List.tail_cons]
      have some_place : ((sites rhs.toList).findSome? Site.split?).isSome = true ↔
          isHyphenated rhs.toList = true ∨
            ∃ other ∈ otherSites rhs.toList, other.split?.isSome = true := by
        rw [List.findSome?_isSome_iff, ← own, others, sites_eq start]
        simp only [List.mem_append, List.mem_cons]
        grind
      rw [← some_place]
      cases (sites rhs.toList).findSome? Site.split? <;> simp
  quotes := by
    intro quiet valued hyphenated
    obtain ⟨name, value⟩ := Option.isSome_iff_exists.1 valued
    obtain ⟨part, referred⟩ := exists_viewReference? rhs value
    obtain ⟨site, later, text, start, named, reading⟩ := exists_used rhs referred
    refine ⟨site, later, text, start, named, ?_⟩
    rw [diagnostics_reference, if_pos valued, sites_eq start, List.findSome?_append,
      List.findSome?_eq_none_iff.2 quiet, Option.none_or, List.findSome?_cons,
      split?_used rhs start named reading, if_pos hyphenated]
    rfl

/-- The text of an identifier is taken for a reference, though the one in use has no hyphen. -/
theorem reference_in_identifier :
    (read "top" "@header #row@a-b" .reference).value = some "header" ∧
      (read "top" "@header #row@a-b" .reference).diagnostics = [.splitReference "a" "-b"] ∧
      isHyphenated "@header #row@a-b".toList = false ∧
      ¬ ((read "top" "@header #row@a-b" .reference).diagnostics ≠ [] ↔
        (read "top" "@header #row@a-b" .reference).value.isSome = true ∧
          isHyphenated "@header #row@a-b".toList = true) := by
  have value : (read "top" "@header #row@a-b" .reference).value = some "header" := by decide
  have warned : (read "top" "@header #row@a-b" .reference).diagnostics =
      [.splitReference "a" "-b"] := by rfl
  have plain : isHyphenated "@header #row@a-b".toList = false := by decide
  refine ⟨value, warned, plain, fun claimed => ?_⟩
  have hyphenated := (claimed.1 (warned ▸ List.cons_ne_nil _ _)).2
  rw [plain] at hyphenated
  contradiction

end ViewLayout.Shorthand
