import Mathlib.Data.List.Basic
import ViewLayout.Proofs.Directive.Tokens

/-!
# Tokens in their text

A payload is its tokens, in order, with blanks between them. `tokens_eq_iff` says which texts are
the tokens of a payload: each is a token and ends where it does not take on what follows. So the
tokens lose nothing but blanks, and `tokenized` says that blanks between them change nothing, be
they added where there were none or put in place of others.
-/

namespace ViewLayout.Shorthand

open Text

/-- Tokens are laid out in a text: blanks may stand before each, and it ends before the rest. -/
inductive Laid : List (List Char) → List Char → Prop
  | blanks {gap : List Char} (blank : ∀ c ∈ gap, isBlank c = true) : Laid [] gap
  | token {gap token rest : List Char} {words : List (List Char)}
      (blank : ∀ c ∈ gap, isBlank c = true) (whole : isToken token = true)
      (ends : EndsBefore token rest) (later : Laid words rest) :
      Laid (token :: words) (gap ++ (token ++ rest))

/-- A text consists of words, in order, with blanks around them or not. -/
inductive Woven : List (List Char) → List Char → Prop
  | nothing : Woven [] []
  | blank {c : Char} {words : List (List Char)} {text : List Char} (blank : isBlank c = true)
      (later : Woven words text) : Woven words (c :: text)
  | word {word text : List Char} {words : List (List Char)} (later : Woven words text) :
      Woven (word :: words) (word ++ text)

section Layout

variable {text front back gap token rest : List Char}
  {words before after : List (List Char)}

/-- Blanks in front change no words. -/
theorem Woven.append_blanks (blank : ∀ c ∈ gap, isBlank c = true) (woven : Woven words text) :
    Woven words (gap ++ text) := by
  induction gap with
  | nil => exact woven
  | cons c others inner =>
    exact .blank (blank c List.mem_cons_self)
      (inner fun d member => blank d (List.mem_cons_of_mem c member))

/-- A blank in front changes no tokens. -/
theorem Laid.cons_blank {c : Char} (blank : isBlank c = true) (laid : Laid words text) :
    Laid words (c :: text) := by
  have all {others : List Char} (blanks : ∀ d ∈ others, isBlank d = true) :
      ∀ d ∈ c :: others, isBlank d = true := List.forall_mem_cons.2 ⟨blank, blanks⟩
  cases laid with
  | blanks blanks => exact .blanks (all blanks)
  | token blanks whole ends later => exact .token (all blanks) whole ends later

/-- What is laid out is woven. -/
theorem Laid.woven (laid : Laid words text) : Woven words text := by
  induction laid with
  | @blanks gap blank =>
    rw [← List.append_nil gap]
    exact Woven.nothing.append_blanks blank
  | token blank whole ends later inner => exact (Woven.word inner).append_blanks blank

/-- All that is laid out are tokens. -/
theorem Laid.isToken_of_mem (laid : Laid words text) :
    ∀ token ∈ words, isToken token = true := by
  induction laid with
  | blanks blank => exact fun _ member => absurd member List.not_mem_nil
  | token blank whole ends later inner => exact List.forall_mem_cons.2 ⟨whole, inner⟩

/-- What a token takes on ends before the rest, in which the tokens after it are laid out. -/
theorem exists_laid_split (tail : Tail) (text : List Char) :
    ∃ rest, text = (split tail text).1 ++ rest ∧ tail.takes (split tail text).1 = true ∧
      (∀ c ∈ rest.head?, tail.takes ((split tail text).1 ++ [c]) = false) ∧
      Laid (split tail text).2 rest := by
  induction text generalizing tail with
  | nil =>
    refine ⟨[], rfl, rfl, fun c member => absurd member (Option.not_mem_none c), .blanks ?_⟩
    exact fun c member => absurd member List.not_mem_nil
  | cons c rest inner =>
    simp only [split]
    split
    · next next step =>
      obtain ⟨after, whole, taken, ends, laid⟩ := inner next
      refine ⟨after, ?_, ?_, ?_, laid⟩
      · rw [List.cons_append, ← whole]
      · simpa only [Tail.takes, step] using taken
      · simpa only [List.cons_append, Tail.takes, step] using ends
    · next refused =>
      have ended : ∀ d ∈ (c :: rest).head?, tail.takes ([] ++ [d]) = false := by
        rintro d ⟨⟩
        simp only [List.nil_append, Tail.takes, refused]
      split
      · next blank =>
        obtain ⟨after, whole, _, _, laid⟩ := inner .nothing
        rw [fst_split_nothing, List.nil_append] at whole
        subst whole
        exact ⟨_, rfl, rfl, ended, laid.cons_blank blank⟩
      · next dark =>
        have dark : isBlank c = false := by simpa using dark
        obtain ⟨after, whole, taken, ends, laid⟩ := inner (.ofFirst c)
        refine ⟨c :: rest, rfl, rfl, ended, ?_⟩
        have token : isToken (c :: (split (.ofFirst c) rest).1) = true := isToken_cons dark taken
        have stops : EndsBefore (c :: (split (.ofFirst c) rest).1) after := by
          intro d member
          simp only [List.cons_append, isToken, ends d member, Bool.and_false]
        rw [show c :: rest = [] ++ ((c :: (split (.ofFirst c) rest).1) ++ after) from
          congrArg (c :: ·) whole]
        exact .token (fun d member => absurd member List.not_mem_nil) token stops laid

/-- The tokens of a text are laid out in it. -/
theorem laid_tokens (text : List Char) : Laid (tokens text) text := by
  obtain ⟨rest, whole, _, _, laid⟩ := exists_laid_split .nothing text
  rw [fst_split_nothing, List.nil_append] at whole
  subst whole
  exact laid

/-- The tokens of a text are those that are laid out in it. -/
theorem tokens_eq_iff : tokens text = words ↔ Laid words text := by
  constructor
  · rintro rfl
    exact laid_tokens text
  · intro laid
    induction laid with
    | @blanks gap blank =>
      have only := tokens_append_of_blank blank []
      rwa [List.append_nil] at only
    | token blank whole ends later inner =>
      rw [tokens_append_of_blank blank, tokens_append_of_isToken whole ends, inner]

/-- The first token of a text that starts with it ends before the rest. -/
theorem Laid.tail (whole : isToken token = true) (laid : Laid (token :: words) (token ++ rest)) :
    EndsBefore token rest ∧ Laid words rest := by
  generalize same : token ++ rest = text at laid
  cases laid with
  | @token gap _ others _ blank _ ends later =>
    cases gap with
    | nil =>
      obtain rfl := List.append_cancel_left same
      exact ⟨ends, later⟩
    | cons c more =>
      cases token with
      | nil => contradiction
      | cons d others =>
        obtain ⟨rfl, _⟩ := List.cons_eq_cons.1 same
        have dark := dark_of_isToken whole d List.mem_cons_self
        rw [blank d List.mem_cons_self] at dark
        contradiction

/-- A text can be cut after any of its tokens: the others are laid out in what is left. -/
theorem Laid.cut (woven : Woven before front) (laid : Laid (before ++ after) (front ++ back)) :
    Laid after back := by
  induction woven with
  | nothing => exact laid
  | blank blank _ inner =>
    have read := tokens_eq_iff.2 laid
    rw [List.cons_append, tokens_cons_of_isBlank blank] at read
    exact inner (tokens_eq_iff.1 read)
  | word _ inner =>
    have whole := laid.isToken_of_mem _ List.mem_cons_self
    rw [List.append_assoc] at laid
    exact inner (laid.tail whole).2

/-- Blanks may be put between tokens without a change to any. -/
theorem Laid.loosen (woven : Woven before front) (blank : ∀ c ∈ gap, isBlank c = true)
    (laid : Laid (before ++ after) (front ++ back)) :
    Laid (before ++ after) (front ++ (gap ++ back)) := by
  induction woven with
  | nothing =>
    have read := tokens_eq_iff.2 laid
    rw [← tokens_append_of_blank blank] at read
    exact tokens_eq_iff.1 read
  | blank first _ inner =>
    have read := tokens_eq_iff.2 laid
    rw [List.cons_append, tokens_cons_of_isBlank first] at read
    exact (inner (tokens_eq_iff.1 read)).cons_blank first
  | @word word text words _ inner =>
    have whole := laid.isToken_of_mem _ List.mem_cons_self
    rw [List.append_assoc] at laid ⊢
    obtain ⟨ends, later⟩ := laid.tail whole
    refine .token (fun c member => absurd member List.not_mem_nil) whole ?_ (inner later)
    cases text with
    | cons c others => exact ends
    | nil =>
      cases gap with
      | nil => exact ends
      | cons c others =>
        refine endsBefore_of_apart word ?_
        rintro _ ⟨⟩
        exact blank c List.mem_cons_self

/-- Any of the tokens of a text stands somewhere in it, after those before it. -/
theorem Laid.exists_cut (laid : Laid (before ++ after) text) :
    ∃ front back, text = front ++ back ∧ Woven before front ∧ Laid after back := by
  induction before generalizing text with
  | nil => exact ⟨[], text, rfl, .nothing, laid⟩
  | cons token others inner =>
    cases laid with
    | @token gap _ rest _ blank whole ends later =>
      obtain ⟨front, back, rfl, woven, left⟩ := inner later
      refine ⟨gap ++ (token ++ front), back, ?_, (Woven.word woven).append_blanks blank, left⟩
      simp only [List.append_assoc]

/-- What a token takes on is a word, unless the token is an identifier. -/
theorem wordly_of_takes {tail : Tail} (taken : tail.takes text = true)
    (other : tail ≠ .identifier) : ∀ c ∈ text, isWordChar c = true := by
  induction text generalizing tail with
  | nil => exact fun c member => absurd member List.not_mem_nil
  | cons c rest inner =>
    have first {next : Tail} (step : tail.after? c = some next) :
        isWordChar c = true ∧ next ≠ .identifier := by
      cases tail with
      | nothing => simp [Tail.after?] at step
      | identifier => exact absurd rfl other
      | word =>
        simp only [Tail.after?] at step
        split at step
        · next wordly => exact ⟨wordly, by cases step; decide⟩
        · contradiction
      | relation =>
        simp only [Tail.after?] at step
        split at step
        · next sign =>
          obtain rfl : c = '=' := by simpa using sign
          exact ⟨by decide, by cases step; decide⟩
        · split at step
          · next wordly => exact ⟨wordly, by cases step; decide⟩
          · contradiction
    simp only [Tail.takes] at taken
    split at taken
    · next next step =>
      obtain ⟨wordly, plain⟩ := first step
      exact List.forall_mem_cons.2 ⟨wordly, inner taken plain⟩
    · contradiction

/-- Only one mark starts an identifier. -/
theorem Tail.ofFirst_ne_identifier {c : Char} (other : c ≠ '#') :
    Tail.ofFirst c ≠ .identifier := by
  unfold Tail.ofFirst
  split
  · next same => exact absurd (by simpa using same) other
  · split <;> decide

/-- After its first character a token is a word, unless it is an identifier. -/
theorem wordly_of_isToken {c : Char} (whole : isToken (c :: rest) = true) (other : c ≠ '#') :
    ∀ d ∈ rest, isWordChar d = true := by
  simp only [isToken, Bool.and_eq_true] at whole
  exact wordly_of_takes whole.2 (Tail.ofFirst_ne_identifier other)

/-- An identifier ends before a blank only. -/
theorem apart_of_endsBefore {label : List Char} (whole : isToken ('#' :: label) = true)
    (ends : EndsBefore ('#' :: label) rest) : Apart rest := by
  intro c member
  rw [← Bool.not_eq_false]
  intro dark
  have solid : ∀ d ∈ label ++ [c], isBlank d = false := by
    intro d given
    rcases List.mem_append.1 given with inside | last
    · exact dark_of_isToken whole d (List.mem_cons_of_mem _ inside)
    · rwa [List.mem_singleton.1 last]
  have longer : isToken ('#' :: (label ++ [c])) = true :=
    isToken_cons (by decide) (Tail.takes_identifier solid)
  exact absurd (ends c member) (by simpa using longer)

end Layout

/-- The token that an argument was read from. -/
def Argument.token : Argument → List Char
  | relation key => key.toList
  | modifier mark value => mark.toList ++ value.toList

/-- A token is its mark and its value. -/
theorem append_of_splitFirst? {token mark value : List Char}
    (parts : splitFirst? token = some (mark, value)) : mark ++ value = token := by
  unfold splitFirst? at parts
  split at parts
  · contradiction
  · cases parts
    rfl
  · split at parts <;>
    · cases parts
      rfl

/-- A token is found again from what it says. -/
theorem Argument.map_token_ofToken? {token : List Char} (other : token ≠ []) :
    (ofToken? token).map Argument.token = some token := by
  have some_parts : (splitFirst? token).isSome = true := by
    unfold splitFirst?
    split
    · contradiction
    · rfl
    · split <;> rfl
  obtain ⟨⟨mark, value⟩, parts⟩ := Option.isSome_iff_exists.1 some_parts
  simp only [ofToken?, parts, Option.map_some]
  split
  · simp only [Argument.token, String.toList_ofList]
  · simp only [Argument.token, String.toList_ofList, append_of_splitFirst? parts]

/-- The arguments of a payload are its tokens. -/
theorem map_token_arguments (rhs : String) :
    (arguments rhs).map Argument.token = tokens rhs.toList := by
  have each : ∀ token ∈ tokens rhs.toList,
      (Argument.ofToken? token).map Argument.token = some token := by
    intro token member
    refine Argument.map_token_ofToken? ?_
    rintro rfl
    exact absurd ((laid_tokens _).isToken_of_mem _ member) (by decide)
  rw [arguments, List.map_filterMap, List.filterMap_congr each, List.filterMap_some]

/-- What the tokens of a payload are like. -/
structure Tokenized (rhs : String) : Prop where
  /-- The arguments are the tokens, taken apart. -/
  written : (arguments rhs).map Argument.token = tokens rhs.toList
  /-- No token is empty, and none holds a blank. -/
  solid : ∀ token ∈ tokens rhs.toList, token ≠ [] ∧ ∀ c ∈ token, isBlank c = false
  /-- The tokens join to the payload without its blanks. -/
  joined : (tokens rhs.toList).flatten = rhs.toList.filter (!isBlank ·)
  /-- A symbol stands at the start of a token or in an identifier. -/
  leading : ∀ token ∈ tokens rhs.toList, token.head? ≠ some '#' →
    ∀ c ∈ token.tail, c ∉ ['@', '+', '-', '<', '>', '*', '/', '#']
  /-- Every token stands in the payload, after those before it. -/
  placed : ∀ before after, tokens rhs.toList = before ++ after →
    ∃ front back, rhs.toList = front ++ back ∧ Woven before front ∧ Woven after back
  /-- An identifier runs to the next blank or to the end. -/
  identifiers : ∀ before after label, tokens rhs.toList = before ++ ('#' :: label) :: after →
    ∀ front back, rhs.toList = front ++ ('#' :: label ++ back) → Woven before front → Apart back
  /-- The tokens are read again from any text in which they are set apart by blanks. -/
  again : ∀ other : String, Spaced (tokens rhs.toList) other.toList →
    arguments other = arguments rhs
  /-- Blanks between tokens change nothing. -/
  loosened : ∀ before after, tokens rhs.toList = before ++ after →
    ∀ front back, rhs.toList = front ++ back → Woven before front →
      ∀ gap, (∀ c ∈ gap, isBlank c = true) →
        arguments (String.ofList (front ++ (gap ++ back))) = arguments rhs

/-- **The tokens of a payload lose nothing but blanks**, and those between them may be others. -/
theorem tokenized (rhs : String) : Tokenized rhs where
  written := map_token_arguments rhs
  solid := by
    intro token member
    have whole := (laid_tokens _).isToken_of_mem token member
    refine ⟨?_, dark_of_isToken whole⟩
    rintro rfl
    contradiction
  joined := flatten_tokens rhs.toList
  leading := by
    intro token member other c inside
    have whole := (laid_tokens _).isToken_of_mem token member
    cases token with
    | nil => contradiction
    | cons first rest =>
      have wordly := wordly_of_isToken whole (fun same => other (congrArg some same)) c inside
      intro symbol
      simp only [List.mem_cons, List.not_mem_nil, or_false] at symbol
      rcases symbol with rfl | rfl | rfl | rfl | rfl | rfl | rfl | rfl <;> contradiction
  placed := by
    intro before after read
    obtain ⟨front, back, whole, woven, laid⟩ := (tokens_eq_iff.1 read).exists_cut
    exact ⟨front, back, whole, woven, laid.woven⟩
  identifiers := by
    intro before after label read front back whole woven
    have laid := tokens_eq_iff.1 read
    rw [whole] at laid
    have token := laid.isToken_of_mem ('#' :: label) (by simp)
    exact apart_of_endsBefore token ((laid.cut woven).tail token).1
  again := by
    intro other spaced
    rw [arguments, tokens_of_spaced spaced (laid_tokens _).isToken_of_mem]
    rfl
  loosened := by
    intro before after read front back whole woven gap blank
    have laid := tokens_eq_iff.1 read
    rw [whole] at laid
    rw [arguments, String.toList_ofList, tokens_eq_iff.2 (laid.loosen woven blank), ← read]
    rfl

example : arguments "@super<20*2" = arguments " @super <20 *2" := by decide

end ViewLayout.Shorthand
